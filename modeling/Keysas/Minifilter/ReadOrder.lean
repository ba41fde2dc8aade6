import Keysas.Minifilter.HandlerRuns

/-!
# Reading under the two authorizations of a volume

A file that the daemon authorizes should be readable on a volume that may be read and written if it
is on one that may only be read. In the kernel the two are `AUTH_ALLOW_WARNING` and
`AUTH_ALLOW_READ`, and the minifilter sends a file to the daemon under the code `USER_ALLOW_FILE`
for the first and `SCAN_FILE` for the second.

The daemon evaluates a file under `SCAN_FILE` only, and blocks it under a code that it does not
know. `readsInOrder_iff` says that the order is kept and every code is one that is evaluated
exactly when the daemon is not asked at all: for a file that is known, or when a call before the
request fails.
-/

set_option autoImplicit false
set_option relaxedAutoImplicit false

namespace Keysas.Minifilter

open Crypto Firewall Runs Store

variable {ν φ : Type} [DecidableEq ν] [DecidableEq φ] (sha256 : Sha256)

/-! ### Opens -/

/-- A file is opened: both handlers let it through. -/
def opens (state : FilterState ν φ) (input : FileOpen ν φ) : Bool :=
  match kfPreCreateHandler state input with
  | .complete => false
  | .successNoCallback => input.calls.created
  | .successWithCallback =>
    input.calls.created && (minifilterStep sha256 state (.postCreate input)).2.passes

/-- The messages between the minifilter and the daemon while a file is opened. -/
def openMessages (state : FilterState ν φ) (input : FileOpen ν φ) : List Message :=
  match kfPreCreateHandler state input with
  | .successWithCallback => (minifilterStep sha256 state (.postCreate input)).2.messages
  | _ => []

/-- The state with another authorization of a volume. -/
def FilterState.authorizedAs (state : FilterState ν φ) (volume : ν) (auth : KeysasAuthorization) :
    FilterState ν φ :=
  { state with instances := state.instances.insert volume auth }

/-- What can be opened when the volume may be read can be opened when it may be read and written. -/
def OpensInOrder (state : FilterState ν φ) (input : FileOpen ν φ) : Prop :=
  opens sha256 (state.authorizedAs input.volume .allowRead) input = true →
    opens sha256 (state.authorizedAs input.volume .allowWarning) input = true

/-- Whatever the authorization of the volume is, a request is one under which the daemon evaluates a
file. -/
def CodesEvaluated (state : FilterState ν φ) (input : FileOpen ν φ) : Prop :=
  ∀ auth request, .sent request ∈ openMessages sha256 (state.authorizedAs input.volume auth) input →
    request.operation = scanFileCode

/-- The order is kept and every code is evaluated. -/
def ReadsInOrder (state : FilterState ν φ) (input : FileOpen ν φ) : Prop :=
  OpensInOrder sha256 state input ∧ CodesEvaluated sha256 state input

/-! ### The condition -/

/-- The request about a file is sent when the state of the instance leads to it: the file is not
known, and no call before `FltSendMessage` fails. -/
def asksDaemon (state : FilterState ν φ) (input : FileOpen ν φ) : Bool :=
  looksUp state input && state.authorization input.file = .unknown && prepares state input &&
    (state.clientPort && input.calls.allocateRequest && nameFits input.fileName)

/-- The daemon is asked about a file when its volume may be read and written. -/
def asksUserAbout (state : FilterState ν φ) (input : FileOpen ν φ) : Bool :=
  kfPreCreateHandler (state.authorizedAs input.volume .allowWarning) input =
    .successWithCallback && asksDaemon state input

/-! ### One open -/

/-- The handler before an open lets it through without a look at the authorization of the volume. -/
def skipsOpen (input : FileOpen ν φ) : Bool :=
  input.data.userProcess || input.data.isDirectoryOrVolume ||
    input.data.options &&& fileDirectoryFile ≠ 0 ||
    input.data.operationFlags &&& slOpenTargetDirectory ≠ 0 ||
    input.data.operationFlags &&& slOpenPagingFile ≠ 0 ||
    input.data.fileObjectFlags &&& foVolumeOpen ≠ 0 ||
    !input.calls.getInstanceContext || !input.calls.acquireInstance

section Open

variable {sha256} (state : FilterState ν φ) (input : FileOpen ν φ)

omit [DecidableEq φ] in
/-- The volume has the authorization that it is given. -/
theorem lookup_authorizedAs (volume : ν) (auth : KeysasAuthorization) :
    (state.authorizedAs volume auth).instances.lookup volume = some auth :=
  AList.lookup_insert _

omit [DecidableEq φ] in
/-- Unless the handler before an open skips the open, the authorization of the volume decides. -/
theorem kfPreCreateHandler_authorizedAs (auth : KeysasAuthorization) :
    kfPreCreateHandler (state.authorizedAs input.volume auth) input =
      if skipsOpen input then .successNoCallback
      else
        match auth with
        | .block => .complete
        | .allowAll => .successNoCallback
        | _ => .successWithCallback := by
  rw [kfPreCreateHandler, lookup_authorizedAs]
  cases auth with
  | _ => simp only [skipsOpen, Bool.or_eq_true, decide_eq_true_eq, ite_or]

omit [DecidableEq φ] in
/-- The handler before an open does not distinguish the two authorizations. -/
theorem kfPreCreateHandler_allowRead :
    kfPreCreateHandler (state.authorizedAs input.volume .allowRead) input =
      kfPreCreateHandler (state.authorizedAs input.volume .allowWarning) input := by
  rw [kfPreCreateHandler_authorizedAs, kfPreCreateHandler_authorizedAs]

omit [DecidableEq φ] in
/-- Where the handler before an open leaves the open to the handler after it, it does so for a
volume with a warning. -/
theorem successWithCallback_of_authorizedAs {auth : KeysasAuthorization}
    (hpre : kfPreCreateHandler (state.authorizedAs input.volume auth) input =
      .successWithCallback) :
    kfPreCreateHandler (state.authorizedAs input.volume .allowWarning) input =
      .successWithCallback := by
  rw [kfPreCreateHandler_authorizedAs] at hpre ⊢
  by_cases hskips : skipsOpen input = true
  · rw [if_pos hskips] at hpre
    cases hpre
  · rw [if_neg hskips]

variable {state input}

omit [DecidableEq ν] in
/-- Without the request nothing is sent, and the file stays pending where it would be scanned. -/
theorem scanResult_of_not_built {reached : FilterState ν φ} {operation : KeysasFilterOperation}
    (hbuilt : (reached.clientPort && input.calls.allocateRequest && nameFits input.fileName) =
      false) :
    scanResult reached input operation = ([], .pending) := by
  rw [scanResult, hbuilt]
  rfl

/-- When the daemon is not asked about a file, nothing is sent, and under the two authorizations
what is known of the file decides. -/
theorem reaction_of_not_asksDaemon (hasks : asksDaemon state input = false)
    (auth : KeysasAuthorization) :
    let reaction :=
      (minifilterStep sha256 (state.authorizedAs input.volume auth) (.postCreate input)).2
    reaction.messages = [] ∧ (auth = .allowRead ∨ auth = .allowWarning →
      reaction.passes = !(looksUp state input && state.authorization input.file = .block)) := by
  set authorized := state.authorizedAs input.volume auth with hauthorized
  by_cases hearly : looksUp state input = false ∨
      state.authorization input.file = .unknown ∧ prepares state input = false
  · obtain ⟨after, hrun⟩ : ∃ after, (kfPostCreateHandler sha256 input).run authorized =
        ⟨[], after, .error ()⟩ := exists_run_of_leavesEarly hearly
    rw [minifilterStep_postCreate hrun]
    refine ⟨rfl, fun _ ↦ ?_⟩
    rcases hearly with hlooks | ⟨hunknown, -⟩
    · simp [hlooks]
    · simp [hunknown]
  obtain ⟨hlooks, hprepares⟩ := not_or.mp hearly
  have hlooks : looksUp state input = true := Bool.eq_true_of_not_eq_false hlooks
  by_cases hunknown : state.authorization input.file = .unknown
  swap
  · have hrun : (kfPostCreateHandler sha256 input).run authorized = ⟨[], authorized, _⟩ :=
      run_kfPostCreateHandler_known hlooks hunknown
    have hsame : authorized.authorization input.file = state.authorization input.file := rfl
    rw [minifilterStep_postCreate hrun, hsame]
    exact ⟨rfl, fun _ ↦ by simp [hlooks]⟩
  -- The switch over the state of the instance is reached, and the request is not built.
  have hprepares : prepares state input = true :=
    Bool.eq_true_of_not_eq_false fun hfails ↦ hprepares ⟨hunknown, hfails⟩
  have hbuilt : ((prepared sha256 authorized input).clientPort && input.calls.allocateRequest &&
      nameFits input.fileName) = false := by
    rw [clientPort_prepared]
    change (state.clientPort && input.calls.allocateRequest && nameFits input.fileName) = false
    simpa [asksDaemon, hlooks, hunknown, hprepares] using hasks
  have hrun : (kfPostCreateHandler sha256 input).run authorized = ⟨_, _, _⟩ :=
    run_kfPostCreateHandler_judged hlooks hunknown hprepares
  have hmessages : (instanceResult (prepared sha256 authorized input) input).1 = [] := by
    rw [instanceResult, lookup_prepared, hauthorized, lookup_authorizedAs]
    cases auth with
    | allowRead => exact congrArg Prod.fst (scanResult_of_not_built hbuilt)
    | allowWarning => exact congrArg Prod.fst (scanResult_of_not_built hbuilt)
    | _ => rfl
  rw [minifilterStep_postCreate hrun]
  refine ⟨hmessages, fun hauth ↦ ?_⟩
  have hpending : (instanceResult (prepared sha256 authorized input) input).2 = .pending := by
    rw [instanceResult, lookup_prepared, hauthorized, lookup_authorizedAs]
    rcases hauth with rfl | rfl
    · exact congrArg Prod.snd (scanResult_of_not_built hbuilt)
    · exact congrArg Prod.snd (scanResult_of_not_built hbuilt)
  simp [hpending, hunknown]

variable (sha256) in
/-- When the daemon is asked about a file, its reply decides, and without a reply the open goes
through. -/
theorem reaction_of_asksDaemon (hasks : asksDaemon state input = true)
    {auth : KeysasAuthorization} {operation : KeysasFilterOperation}
    (hauth : auth = .allowRead ∧ operation = .scanFile ∨
      auth = .allowWarning ∧ operation = .userAllowFile) :
    let request : DriverRequest := ⟨operation.code,
      fileContent (sha256.hash (bytesOfUnits input.fileName)) input.fileName⟩
    (minifilterStep sha256 (state.authorizedAs input.volume auth) (.postCreate input)).2 =
      if input.calls.sendMessage then
        ⟨[.sent request, .replied (input.daemon.answer request)],
          decide (KeysasAuthorization.ofU8 (input.daemon.answer request) ≠ .block), none⟩
      else ⟨[.sent request], true, none⟩ := by
  intro request
  set authorized := state.authorizedAs input.volume auth with hauthorized
  simp only [asksDaemon, Bool.and_eq_true, decide_eq_true_eq] at hasks
  obtain ⟨⟨⟨hlooks, hunknown⟩, hprepares⟩, hbuilt⟩ := hasks
  have hrun : (kfPostCreateHandler sha256 input).run authorized = ⟨_, _, _⟩ :=
    run_kfPostCreateHandler_judged hlooks hunknown hprepares
  have hresult : instanceResult (prepared sha256 authorized input) input =
      scanResult (prepared sha256 authorized input) input operation := by
    rw [instanceResult, lookup_prepared, hauthorized, lookup_authorizedAs]
    rcases hauth with ⟨rfl, rfl⟩ | ⟨rfl, rfl⟩
    · rfl
    · rfl
  have hport : (prepared sha256 authorized input).clientPort = state.clientPort :=
    clientPort_prepared
  have hscan : scanResult (prepared sha256 authorized input) input operation =
      if input.calls.sendMessage then
        ([.sent request, .replied (input.daemon.answer request)],
          .ofU8 (input.daemon.answer request))
      else ([.sent request], .pending) := by
    rw [scanResult, hport, if_pos (by simpa using hbuilt), driverRequestFor_prepared]
  rw [minifilterStep_postCreate hrun, hresult, hscan]
  split_ifs with hsent
  · simp
  · simp

/-- Every code is evaluated if and only if the daemon is not asked about the file. -/
theorem codesEvaluated_iff :
    CodesEvaluated sha256 state input ↔ asksUserAbout state input = false := by
  constructor
  · intro hevaluated
    refine Bool.eq_false_of_not_eq_true fun hasks ↦ ?_
    simp only [asksUserAbout, Bool.and_eq_true, decide_eq_true_eq] at hasks
    obtain ⟨hpre, hasks⟩ := hasks
    have hreaction := reaction_of_asksDaemon sha256 hasks (.inr ⟨rfl, rfl⟩)
    have hcode := hevaluated .allowWarning ⟨KeysasFilterOperation.userAllowFile.code,
      fileContent (sha256.hash (bytesOfUnits input.fileName)) input.fileName⟩ (by
        rw [openMessages, hpre, hreaction]
        split_ifs <;> simp)
    exact (by decide : KeysasFilterOperation.userAllowFile.code ≠ scanFileCode) hcode
  · intro hasks auth request hsent
    rw [openMessages] at hsent
    split at hsent
    swap
    · cases hsent
    rename_i hpre
    have hnot : asksDaemon state input = false := by
      simpa [asksUserAbout, successWithCallback_of_authorizedAs state input hpre] using hasks
    rw [(reaction_of_not_asksDaemon hnot auth).1] at hsent
    cases hsent

/-- The order is kept if and only if the daemon is not asked about the file, or its reply does not
arrive. Assumes: it authorizes the file. -/
theorem opensInOrder_iff
    (haccepted : input.daemon.authorizeFile (scannedFile
      (fileContent (sha256.hash (bytesOfUnits input.fileName)) input.fileName)) true = .ok true) :
    OpensInOrder sha256 state input ↔
      (asksUserAbout state input && input.calls.sendMessage) = false := by
  rw [OpensInOrder, opens, opens, kfPreCreateHandler_allowRead, asksUserAbout]
  cases hpre : kfPreCreateHandler (state.authorizedAs input.volume .allowWarning) input with
  | successNoCallback => simp
  | complete => simp
  | successWithCallback =>
    by_cases hasks : asksDaemon state input = true
    swap
    · have hnot : asksDaemon state input = false := Bool.eq_false_of_not_eq_true hasks
      simp [hnot, (reaction_of_not_asksDaemon hnot .allowRead).2 (.inl rfl),
        (reaction_of_not_asksDaemon hnot .allowWarning).2 (.inr rfl)]
    have hcreated : input.calls.created = true := by
      simp only [asksDaemon, looksUp, Bool.and_eq_true] at hasks
      exact hasks.1.1.1.1.1.1
    have hread := ofU8_answer_scanFile input.daemon
      (fileContent (sha256.hash (bytesOfUnits input.fileName)) input.fileName)
    rw [input.daemon.scanFile_of_authorized haccepted] at hread
    have hasked := ofU8_answer_userAllowFile input.daemon
      (fileContent (sha256.hash (bytesOfUnits input.fileName)) input.fileName)
    rw [reaction_of_asksDaemon sha256 hasks (.inl ⟨rfl, rfl⟩),
      reaction_of_asksDaemon sha256 hasks (.inr ⟨rfl, rfl⟩)]
    by_cases hsent : input.calls.sendMessage = true
    · simp [hsent, hcreated, hasks, hread, hasked, FileAuthorization.inKernel]
    · simp [hsent, hcreated]

/-- The order is kept and every code is evaluated if and only if the daemon is not asked about the
file, and the order alone also when its reply does not arrive. Assumes: it authorizes the file. -/
theorem readsInOrder_iff
    (haccepted : input.daemon.authorizeFile (scannedFile
      (fileContent (sha256.hash (bytesOfUnits input.fileName)) input.fileName)) true = .ok true) :
    (ReadsInOrder sha256 state input ↔ asksUserAbout state input = false) ∧
      (OpensInOrder sha256 state input ↔
        (asksUserAbout state input && input.calls.sendMessage) = false) := by
  refine ⟨?_, opensInOrder_iff haccepted⟩
  rw [ReadsInOrder, opensInOrder_iff haccepted, codesEvaluated_iff]
  constructor
  · exact And.right
  · intro hasks
    exact ⟨by rw [hasks, Bool.false_and], hasks⟩

end Open

/-! ### A file that the daemon authorizes -/

/-- The daemon is connected. -/
def connected : FilterState ℕ ℕ := { FilterState.init with clientPort := true }

/-- The order is kept for a file that is opened before the daemon is connected. -/
theorem readsInOrder_notConnected :
    (openOne true).daemon.authorizeFile (scannedFile (fileContent
      (paddingSha256.hash (bytesOfUnits (openOne true).fileName)) (openOne true).fileName)) true =
        .ok true ∧
      (ReadsInOrder paddingSha256 .init (openOne true) ↔
        asksUserAbout .init (openOne true) = false) ∧
      (OpensInOrder paddingSha256 .init (openOne true) ↔
        (asksUserAbout .init (openOne true) && (openOne true).calls.sendMessage) = false) :=
  ⟨rfl, readsInOrder_iff rfl⟩

/-- The order is not kept: a file that the daemon authorizes is opened when its volume may be read,
and not when the volume may be read and written. -/
theorem not_forall_readsInOrder :
    ¬ ∀ (state : FilterState ℕ ℕ) (input : FileOpen ℕ ℕ),
      input.daemon.authorizeFile (scannedFile (fileContent
        (paddingSha256.hash (bytesOfUnits input.fileName)) input.fileName)) true = .ok true →
          ReadsInOrder paddingSha256 state input := by
  intro hforall
  have horder := (hforall connected (openOne true) rfl).1
  have hread : opens paddingSha256 (connected.authorizedAs 1 .allowRead) (openOne true) = true := by
    decide
  have hdenied : opens paddingSha256 (connected.authorizedAs 1 .allowWarning) (openOne true) =
      false := by decide
  have hwritten : opens paddingSha256 (connected.authorizedAs 1 .allowWarning) (openOne true) =
      true := horder hread
  rw [hdenied] at hwritten
  cases hwritten

end Keysas.Minifilter
