import Keysas.Minifilter.HandlerRuns

/-!
# Opens on a grant of the daemon

On a volume that is authorized for reading, or with a warning, a file should be opened only when
the daemon has granted it, at first and whenever it is opened again. `KfPostCreateHandler` denies
an open only when the file is blocked. It makes a file pending before it asks the daemon, and when
a call fails on the way the file stays pending: it is opened, is never asked about again, and is
opened from then on whatever the daemon would answer.

`failsClosed` is the condition on one step: no call fails on the way to the reply of the daemon, the
file is not looked at for the first time while everything is allowed for its volume, and no update
makes a file pending. `opensOnGrant_of_run` says that in every run whose steps satisfy it each open
rests on a grant.
-/

set_option autoImplicit false
set_option relaxedAutoImplicit false

namespace Keysas.Minifilter

open Crypto Firewall Runs Store

variable {ν φ : Type} [DecidableEq ν] [DecidableEq φ]

/-! ### Grants -/

/-- The daemon has allowed the file, in a reply about it or in an update that has reached it. -/
def Granted (history : List (Event ν φ × Reaction φ)) (file : φ) : Prop :=
  ∃ entry ∈ history, ∃ auth, saysOf file entry = some auth ∧ auth.isAllowing = true

omit [DecidableEq ν] in
theorem Granted.append {history : List (Event ν φ × Reaction φ)} {file : φ}
    (hgranted : Granted history file) (entry : Event ν φ × Reaction φ) :
    Granted (history ++ [entry]) file := by
  obtain ⟨earlier, hearlier, hsaid⟩ := hgranted
  exact ⟨earlier, List.mem_append_left _ hearlier, hsaid⟩

/-- The files of the volume are to be opened only when the daemon grants it. -/
def judgedVolume (state : FilterState ν φ) (volume : ν) : Bool :=
  state.instances.lookup volume = some .allowRead ∨
    state.instances.lookup volume = some .allowWarning

variable (sha256 : Sha256)

/-- An open that goes through on a volume whose files need a grant rests on one. -/
def OpensOnGrant (history : List (Event ν φ × Reaction φ)) (state : FilterState ν φ)
    (input : FileOpen ν φ) : Prop :=
  input.calls.created = true → judgedVolume state input.volume = true →
    (minifilterStep sha256 state (.postCreate input)).2.passes = true →
      Granted (history ++
        [(.postCreate input, (minifilterStep sha256 state (.postCreate input)).2)]) input.file

/-! ### The condition on a step -/

/-- The request of `KeysasScanFileInUserMode` is sent and answered, where the state of the instance
leads to it. An instance for which everything is allowed makes a file readable without it. -/
def scans (state : FilterState ν φ) (input : FileOpen ν φ) : Bool :=
  match (state.instances.lookup input.volume).getD .unknown with
  | .allowRead | .allowWarning =>
    state.clientPort && input.calls.allocateRequest && nameFits input.fileName &&
      input.calls.sendMessage
  | .allowAll => false
  | _ => true

/-- The condition on a step. Before a file is pending a call may fail where its volume does not need
a grant. -/
def failsClosed (state : FilterState ν φ) : Event ν φ → Bool
  | .postCreate input =>
    if !input.calls.created then true
    else if !looksUp state input then !judgedVolume state input.volume
    else if state.authorization input.file ≠ .unknown then true
    else if !input.calls.acquireWrite then !judgedVolume state input.volume
    else prepares state input && scans state input
  | .updateFileAuth _ auth => auth ≠ .pending
  | _ => true

/-! ### The invariant -/

/-- What holds of every context: the file is not known yet, is blocked, or has been granted. -/
def Secured (history : List (Event ν φ × Reaction φ)) (file : φ) (auth : KeysasAuthorization) :
    Prop :=
  auth = .unknown ∨ auth = .block ∨ auth.isAllowing = true ∧ Granted history file

variable {sha256} {history : List (Event ν φ × Reaction φ)} {state : FilterState ν φ}
  {input : FileOpen ν φ}

omit [DecidableEq ν] in
theorem Secured.append {file : φ} {auth : KeysasAuthorization}
    (hsecured : Secured history file auth) (entry : Event ν φ × Reaction φ) :
    Secured (history ++ [entry]) file auth :=
  hsecured.imp_right (Or.imp_right (And.imp_right (Granted.append · entry)))

omit [DecidableEq ν] in
/-- What the daemon says last about a file secures it. Assumes: it does not make the file
pending. -/
theorem secured_of_saysOf {file : φ} {entry : Event ν φ × Reaction φ} {auth : KeysasAuthorization}
    (hsaid : saysOf file entry = some auth) (hauth : auth = .block ∨ auth.isAllowing = true) :
    Secured (history ++ [entry]) file auth := by
  rcases hauth with hblock | hallowing
  · exact .inr (.inl hblock)
  · exact .inr (.inr ⟨hallowing, entry, List.mem_append_right _ (List.mem_singleton_self _), auth,
      hsaid, hallowing⟩)

/-- An update that does not make a file pending blocks it or allows it. -/
theorem inKernel_cases {auth : FileAuthorization} (hauth : auth ≠ .pending) :
    auth.inKernel = .block ∨ auth.inKernel.isAllowing = true := by
  cases auth with
  | pending => exact absurd rfl hauth
  | block => exact .inl rfl
  | allowRead => exact .inr rfl
  | allowRW => exact .inr rfl

omit [DecidableEq ν] in
/-- The reply to a scan blocks the file or allows it, and is among the messages. -/
theorem scanResult_cases {operation : KeysasFilterOperation}
    (hoperation : operation = .scanFile ∨ operation = .userAllowFile)
    (hscans : (state.clientPort && input.calls.allocateRequest && nameFits input.fileName &&
      input.calls.sendMessage) = true) :
    ((scanResult state input operation).2 = .block ∨
      (scanResult state input operation).2.isAllowing = true) ∧
      repliedAuth (scanResult state input operation).1 =
        some (scanResult state input operation).2 := by
  obtain ⟨hbuilt, hsent⟩ := Bool.and_eq_true_iff.mp hscans
  rw [scanResult, if_pos hbuilt]
  simp only [if_pos hsent]
  refine ⟨?_, rfl⟩
  rcases hoperation with rfl | rfl
  · have hanswer := ofU8_answer_scanFile input.daemon
      (fileContent ((state.fileId input.file).getD []) input.fileName)
    rw [driverRequestFor, hanswer]
    rcases input.daemon.scanFile_cases
        (scannedFile (fileContent ((state.fileId input.file).getD []) input.fileName)) with
      hreply | hreply
    · exact .inr (by rw [hreply]; rfl)
    · exact .inl (by rw [hreply]; rfl)
  · exact .inl (ofU8_answer_userAllowFile input.daemon _)

/-- The switch over the state of the instance blocks the file, or the reply of the daemon allows
it. -/
theorem instanceResult_cases (hscans : scans state input = true) :
    (instanceResult state input).2 = .block ∨
      (instanceResult state input).2.isAllowing = true ∧
        repliedAuth (instanceResult state input).1 = some (instanceResult state input).2 := by
  rw [scans] at hscans
  rw [instanceResult]
  cases hauth : (state.instances.lookup input.volume).getD .unknown with
  | allowRead =>
    simp only [hauth] at hscans ⊢
    have hcases := scanResult_cases (.inl rfl) hscans
    exact hcases.1.imp_right (⟨·, hcases.2⟩)
  | allowWarning =>
    simp only [hauth] at hscans ⊢
    have hcases := scanResult_cases (.inr rfl) hscans
    exact hcases.1.imp_right (⟨·, hcases.2⟩)
  | allowAll => simp [hauth] at hscans
  | _ => exact .inl rfl

/-- What the condition says of an instance holds until the switch over its state. -/
theorem scans_prepared : scans (prepared sha256 state input) input = scans state input := by
  rw [scans, scans, lookup_prepared, clientPort_prepared]

variable (sha256) in
/-- An open that satisfies the condition leaves early where no grant is needed, or is decided by
what is known of the file, or by the state of the instance. -/
theorem run_cases_of_failsClosed (hcloses : failsClosed state (.postCreate input) = true) :
    (∃ after, (kfPostCreateHandler sha256 input).run state = ⟨[], after, .error ()⟩ ∧
      (after = state ∨ after = state.insertCtx none ∨ after = state.withCtx input.file) ∧
      (input.calls.created = true → judgedVolume state input.volume = false)) ∨
    ((kfPostCreateHandler sha256 input).run state =
        ⟨[], state, .ok (decide (state.authorization input.file ≠ .block))⟩ ∧
      state.authorization input.file ≠ .unknown) ∨
    ∃ result : List Message × KeysasAuthorization,
      (kfPostCreateHandler sha256 input).run state = ⟨result.1,
        (prepared sha256 state input).setAuthorization input.file result.2,
        .ok (decide (result.2 ≠ .block))⟩ ∧
      (result.2 = .block ∨ result.2.isAllowing = true ∧ repliedAuth result.1 = some result.2) := by
  rw [failsClosed] at hcloses
  by_cases hlooks : looksUp state input = true
  swap
  · obtain ⟨after, hrun, hafter⟩ :=
      exists_run_of_not_looksUp (Bool.eq_false_of_not_eq_true hlooks)
    refine .inl ⟨after, hrun, hafter, fun hcreated ↦ ?_⟩
    simpa [hcreated, hlooks] using hcloses
  have hcreated : input.calls.created = true := by
    simp only [looksUp, Bool.and_eq_true] at hlooks
    exact hlooks.1.1.1
  by_cases hknown : state.authorization input.file = .unknown
  swap
  · exact .inr (.inl ⟨run_kfPostCreateHandler_known hlooks hknown, hknown⟩)
  by_cases hwrite : input.calls.acquireWrite = true
  swap
  · refine .inl ⟨_, run_kfPostCreateHandler_unlocked hlooks hknown (by simpa using hwrite),
      .inr (.inr rfl), fun _ ↦ ?_⟩
    simpa [hcreated, hlooks, hknown, hwrite] using hcloses
  · have hjudged : prepares state input = true ∧ scans state input = true := by
      simpa [hcreated, hlooks, hknown, hwrite] using hcloses
    refine .inr (.inr ⟨instanceResult (prepared sha256 state input) input,
      run_kfPostCreateHandler_judged hlooks hknown hjudged.1, instanceResult_cases ?_⟩)
    rw [scans_prepared]
    exact hjudged.2

/-- An open that satisfies the condition secures its file, and keeps the others secured. -/
theorem AllCtx.secured_postCreate (hall : AllCtx (Secured history) state)
    (hcloses : failsClosed state (.postCreate input) = true) :
    AllCtx (Secured (history ++
        [(.postCreate input, (minifilterStep sha256 state (.postCreate input)).2)]))
      (minifilterStep sha256 state (.postCreate input)).1 := by
  set reaction := (minifilterStep sha256 state (.postCreate input)).2 with hreaction
  have hlater : AllCtx (Secured (history ++ [(.postCreate input, reaction)])) state :=
    hall.mono fun _ _ hsecured ↦ hsecured.append _
  have hunknown : ∀ file : φ, Secured (history ++ [(.postCreate input, reaction)]) file .unknown :=
    fun _ ↦ .inl rfl
  change AllCtx _ ((kfPostCreateHandler sha256 input).run state).state
  rcases run_cases_of_failsClosed sha256 hcloses with
    ⟨after, hrun, hafter, -⟩ | ⟨hrun, -⟩ | ⟨result, hrun, hresult⟩
  · rw [hrun]
    rcases hafter with rfl | rfl | rfl
    · exact hlater
    · exact hlater.insertCtx hunknown none
    · exact hlater.withCtx hunknown input.file
  · rw [hrun]
    exact hlater
  · have hmessages : reaction.messages = result.1 := by
      rw [hreaction, minifilterStep_postCreate hrun]
    rw [hrun]
    refine (AllCtx.prepared hlater hunknown).setAuthorization_of_ne ?_
    rcases hresult with hblock | ⟨hallowing, hreplied⟩
    · exact .inr (.inl hblock)
    · refine secured_of_saysOf ?_ (.inr hallowing)
      simp [saysOf, hmessages, hreplied]

/-- Every event that satisfies the condition keeps the contexts secured. -/
theorem AllCtx.secured_step (hall : AllCtx (Secured history) state) {event : Event ν φ}
    (hcloses : failsClosed state event = true) :
    AllCtx (Secured (history ++ [(event, (minifilterStep sha256 state event).2)]))
      (minifilterStep sha256 state event).1 := by
  by_cases hopens : ∃ input, event = .postCreate input
  · obtain ⟨input, rfl⟩ := hopens
    exact hall.secured_postCreate hcloses
  have hother : ∀ input, event ≠ .postCreate input := fun input hinput ↦ hopens ⟨input, hinput⟩
  refine AllCtx.step (hall.mono fun _ _ hsecured ↦ hsecured.append _) (fun _ ↦ .inl rfl)
    hother fun file auth hsaid ↦ secured_of_saysOf hsaid ?_
  obtain ⟨fileId, update, rfl, rfl⟩ := exists_update_of_saysOf hother hsaid
  exact inKernel_cases (by simpa [failsClosed] using hcloses)

/-! ### Opens -/

/-- An open that satisfies the condition rests on a grant when the contexts are secured. -/
theorem opensOnGrant_of_secured (hall : AllCtx (Secured history) state)
    (hcloses : failsClosed state (.postCreate input) = true) :
    OpensOnGrant sha256 history state input := by
  intro hcreated hjudged hpasses
  have hvalue : ((kfPostCreateHandler sha256 input).run state).value = .error () ∨
      ((kfPostCreateHandler sha256 input).run state).value = .ok true := of_decide_eq_true hpasses
  rcases run_cases_of_failsClosed sha256 hcloses with
    ⟨after, hrun, -, hvolume⟩ | ⟨hrun, hknown⟩ | ⟨result, hrun, hresult⟩
  · rw [hvolume hcreated] at hjudged
    cases hjudged
  · have hopen : state.authorization input.file ≠ .block := by simpa [hrun] using hvalue
    have hsecured := hall.authorization (FilterState.isSome_fileCtx_of_known hknown)
    exact ((hsecured.resolve_left hknown).resolve_left hopen).2.append _
  · have hopen : result.2 ≠ .block := by simpa [hrun] using hvalue
    obtain ⟨hallowing, hreplied⟩ := hresult.resolve_left hopen
    refine ⟨_, List.mem_append_right _ (List.mem_singleton_self _), result.2, ?_, hallowing⟩
    rw [minifilterStep_postCreate hrun]
    simp [saysOf, hreplied]

/-- In every run whose steps satisfy the condition the contexts stay secured. -/
theorem secured_of_run
    (hrun : FilterRun sha256 (fun state event ↦ failsClosed state event = true) history state) :
    AllCtx (Secured history) state := by
  induction hrun with
  | nil => exact allCtx_init
  | next event _ hstep ih => exact ih.secured_step hstep

/-- In every run whose steps satisfy the condition every open rests on a grant of the daemon. -/
theorem opensOnGrant_of_run
    (hrun : FilterRun sha256 (fun state event ↦ failsClosed state event = true) history state)
    (hcloses : failsClosed state (.postCreate input) = true) :
    OpensOnGrant sha256 history state input :=
  opensOnGrant_of_secured (secured_of_run hrun) hcloses

/-! ### A daemon that is not connected yet -/

/-- The volume is attached, and the daemon connects before the file is opened. -/
def connectedFirst : List (Event ℕ ℕ) :=
  [.portConnect, .instanceSetup 1 .allowRead, .postCreate (openOne true)]

/-- The volume is attached and the file is opened before the daemon connects. -/
def openedFirst : List (Event ℕ ℕ) :=
  [.instanceSetup 1 .allowRead, .postCreate (openOne false), .portConnect]

/-- A file that the daemon authorizes is opened once more on its grant. -/
theorem opensOnGrant_connectedFirst :
    (Admits (minifilterStep paddingSha256) (fun _ state event ↦ failsClosed state event = true) []
        .init connectedFirst ∧
      failsClosed (execute (minifilterStep paddingSha256) .init connectedFirst).2
        (.postCreate (openOne true)) = true) ∧
      OpensOnGrant paddingSha256 (execute (minifilterStep paddingSha256) .init connectedFirst).1
        (execute (minifilterStep paddingSha256) .init connectedFirst).2 (openOne true) :=
  ⟨⟨by decide, by decide⟩, opensOnGrant_of_run (run_execute _ (by decide)) (by decide)⟩

/-- Not every open rests on a grant: a file that was opened before the daemon has connected is
opened afterwards, too, and the daemon is never asked. -/
theorem not_forall_opensOnGrant :
    ¬ ∀ (history : List (Event ℕ ℕ × Reaction ℕ)) (state : FilterState ℕ ℕ)
      (input : FileOpen ℕ ℕ), FilterRun paddingSha256 (fun _ _ ↦ True) history state →
        OpensOnGrant paddingSha256 history state input := by
  intro hforall
  obtain ⟨entry, hentry, auth, hsaid, -⟩ := hforall _ _ (openOne false)
    (run_execute openedFirst (admits_of_forall (fun _ _ _ ↦ trivial) _ _ _)) rfl (by decide)
    (by decide)
  have hsilent : ∀ entry ∈ (execute (minifilterStep paddingSha256) .init openedFirst).1 ++
      [(.postCreate (openOne false), (minifilterStep paddingSha256
        (execute (minifilterStep paddingSha256) .init openedFirst).2
          (.postCreate (openOne false))).2)],
      saysOf 1 entry = none := by decide
  rw [show (openOne false).file = 1 from rfl, hsilent entry hentry] at hsaid
  cases hsaid

end Keysas.Minifilter
