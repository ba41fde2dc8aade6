import Keysas.In.SendFiles
import Keysas.Runs.HistoryRun
import Keysas.Store.KeyedTable

/-!
# Unlinking by name

`keysas-in` opens a file by its name, hashes it, sends its descriptor, and then unlinks the name.
`keysas-io` renames files into the directory while it does, also over names that exist. A file that
stands under a name is a version, so that a name can hold one version when it is opened and another
one when it is unlinked.

`passStep` is one call of a pass or one renaming, in any order. `DeletesOnlySent` says that every
version that was unlinked had been sent. `deletesOnlySent_of_run` says that this holds as long as
no file is renamed onto the name that the pass holds open, and that any such renaming can be
followed by calls that delete a version unsent.
-/

set_option autoImplicit false
set_option relaxedAutoImplicit false

namespace Keysas.In

open Runs Store

/-! ### A pass, call by call -/

/-- Where the daemon stands in a pass. -/
inductive Phase where
  /-- Before a pass. -/
  | idle
  /-- Before the turn of the first of the files. -/
  | turn (files : List String)
  | opened (name : String) (version : ℕ) (files : List String)
  | hashed (name : String) (version : ℕ) (files : List String)
  | described (name : String) (version : ℕ) (files : List String)
  | encoded (name : String) (version : ℕ) (files : List String)
  /-- There is nothing to send for the file of the turn. -/
  | skipped (files : List String)
  | sent (name : String) (files : List String)
  deriving DecidableEq

/-- The directory, the daemon, and what it has done. -/
structure PassState where
  /-- The version that stands under a name. -/
  sasIn : Table String ℕ
  /-- The number of versions so far. -/
  versions : ℕ
  phase : Phase
  /-- The versions whose descriptors were sent. -/
  sent : List ℕ
  /-- The versions that were unlinked after a message. -/
  unlinked : List ℕ

/-- The steps of the two daemons. -/
inductive PassAction where
  /-- A file is renamed to a name. -/
  | place (name : String)
  /-- `list_files`, which may fail. Names come and go while the directory is read. -/
  | list (files : Option (List String))
  /-- The next call of the pass, which succeeds or fails. -/
  | call (succeeds : Bool)
  /-- `keysas-in` ends, wherever it stands, and is started again. -/
  | restart
  deriving DecidableEq

/-- The names in the directory. -/
def PassState.names (state : PassState) : Finset String :=
  state.sasIn.keys.toFinset

/-- The directory when the metadata of a file are collected: the report about a corrupted file is
removed. -/
def PassState.describe (state : PassState) (name : String) (succeeds : Bool) : Table String ℕ :=
  if isCorrupted state.names name && succeeds then state.sasIn.erase (reportOf name)
  else state.sasIn

/-- The next call of the pass. -/
def passCall (state : PassState) (succeeds : Bool) : PassState :=
  match state.phase with
  | .idle => state
  | .turn [] => { state with phase := .idle }
  | .turn (name :: files) =>
    match state.sasIn.lookup name with
    | none => { state with phase := .skipped files }
    | some version =>
      { state with phase := if succeeds then .opened name version files else .skipped files }
  | .opened name version files =>
    { state with phase := if succeeds then .hashed name version files else .skipped files }
  | .hashed name version files =>
    { state with
      phase := .described name version files
      sasIn := state.describe name succeeds }
  | .described name version files =>
    { state with phase := if succeeds then .encoded name version files else .skipped files }
  | .encoded name version files =>
    if succeeds then { state with phase := .sent name files, sent := version :: state.sent }
    -- the connection is lost, and the next pass follows a new one
    else { state with phase := .idle }
  | .skipped files => { state with phase := if succeeds then .turn files else .idle }
  | .sent name files =>
    if succeeds then
      { state with
        phase := .turn files
        sasIn := state.sasIn.erase name
        unlinked := (state.sasIn.lookup name).toList ++ state.unlinked }
    else { state with phase := .turn files }

/-- One step of either daemon. -/
def passStep (state : PassState) (action : PassAction) : PassState × Unit :=
  match action with
  | .place name =>
    ({ state with
      sasIn := state.sasIn.insert name state.versions
      versions := state.versions + 1 }, ())
  | .list none => (state, ())
  | .list (some files) =>
    (if state.phase = .idle then
      { state with phase := .turn (files.filter fun name ↦ !isHidden name) }
    else state, ())
  | .call succeeds => (passCall state succeeds, ())
  | .restart => ({ state with phase := .idle }, ())

/-- Both daemons have just been started. -/
def PassState.start : PassState :=
  ⟨∅, 0, .idle, [], []⟩

/-! ### The property and the condition -/

/-- Every version that was unlinked had been sent. -/
def DeletesOnlySent (state : PassState) : Prop :=
  ∀ version ∈ state.unlinked, version ∈ state.sent

/-- The name that the pass has opened and not unlinked yet. -/
def Phase.held : Phase → Option String
  | .opened name _ _ | .hashed name _ _ | .described name _ _ | .encoded name _ _
  | .sent name _ => some name
  | _ => none

/-- A file is renamed onto the name that the pass holds. -/
def clobbers (state : PassState) (action : PassAction) : Bool :=
  match action with
  | .place name => state.phase.held = some name
  | _ => false

/-! ### What holds of every careful run -/

/-- The name that the pass holds stands for the version that it has opened, or has sent. -/
def Phase.Holds (sasIn : Table String ℕ) (sent : List ℕ) : Phase → Prop
  | .opened name version _ | .hashed name version _ | .described name version _
  | .encoded name version _ => sasIn.lookup name = some version
  | .sent name _ => ∃ version ∈ sent, sasIn.lookup name = some version
  | _ => True

structure PassInvariant (state : PassState) : Prop where
  versions : AllEntries (fun _ version ↦ version < state.versions) state.sasIn
  sent : ∀ version ∈ state.sent, version < state.versions
  holds : state.phase.Holds state.sasIn state.sent
  deletesOnlySent : DeletesOnlySent state

/-- A change of the directory elsewhere does not matter for the name that is held. -/
theorem Phase.Holds.assign {phase : Phase} {before after : Table String ℕ} {sent : List ℕ}
    {name : String} {version : Option ℕ} (hholds : phase.Holds before sent)
    (hassigns : Assigns before after name version) (hheld : phase.held ≠ some name) :
    phase.Holds after sent := by
  have hkept : ∀ held, phase.held = some held → after.lookup held = before.lookup held := by
    intro held heq
    refine hassigns.lookup_of_ne fun hname ↦ hheld ?_
    rw [heq, hname]
  cases phase with
  | idle => trivial
  | turn files => trivial
  | skipped files => trivial
  | sent held files =>
    obtain ⟨version, hsent, hlookup⟩ := hholds
    exact ⟨version, hsent, (hkept held rfl).trans hlookup⟩
  | opened held version files => exact (hkept held rfl).trans hholds
  | hashed held version files => exact (hkept held rfl).trans hholds
  | described held version files => exact (hkept held rfl).trans hholds
  | encoded held version files => exact (hkept held rfl).trans hholds

theorem PassInvariant.start : PassInvariant .start where
  versions := allEntries_empty _
  sent := nofun
  holds := trivial
  deletesOnlySent := nofun

/-- A pass that goes on without a change of the directory keeps the invariant. -/
theorem PassInvariant.goOn {state : PassState} (hinvariant : PassInvariant state) {phase : Phase}
    (hholds : phase.Holds state.sasIn state.sent) : PassInvariant { state with phase := phase } :=
  ⟨hinvariant.versions, hinvariant.sent, hholds, hinvariant.deletesOnlySent⟩

/-- A report that is removed is not the file of the turn. -/
theorem assigns_describe (state : PassState) (name : String) (succeeds : Bool) :
    state.describe name succeeds = state.sasIn ∨
      state.describe name succeeds = state.sasIn.erase (reportOf name) := by
  unfold PassState.describe
  split_ifs
  · exact .inr rfl
  · exact .inl rfl

theorem PassInvariant.call {state : PassState} (hinvariant : PassInvariant state)
    (succeeds : Bool) : PassInvariant (passCall state succeeds) := by
  have hholds := hinvariant.holds
  unfold passCall
  cases hphase : state.phase with
  | idle => exact hinvariant
  | turn files =>
    cases files with
    | nil => exact hinvariant.goOn trivial
    | cons name files =>
      dsimp only
      cases hlookup : state.sasIn.lookup name with
      | none => exact hinvariant.goOn trivial
      | some version =>
        cases succeeds with
        | true => exact hinvariant.goOn hlookup
        | false => exact hinvariant.goOn trivial
  | opened name version files =>
    rw [hphase] at hholds
    cases succeeds with
    | true => exact hinvariant.goOn hholds
    | false => exact hinvariant.goOn trivial
  | hashed name version files =>
    rw [hphase] at hholds
    dsimp only
    rcases assigns_describe state name succeeds with hsame | herase
    · rw [hsame]
      exact hinvariant.goOn hholds
    · have hassigns := assigns_erase state.sasIn (reportOf name)
      have hdescribed : (Phase.described name version files).Holds state.sasIn state.sent := hholds
      rw [herase]
      refine ⟨hinvariant.versions.assign hassigns nofun fun _ _ _ hbound ↦ hbound, hinvariant.sent,
        hdescribed.assign hassigns ?_, hinvariant.deletesOnlySent⟩
      exact fun hname ↦ ne_reportOf name (Option.some.inj hname)
  | described name version files =>
    rw [hphase] at hholds
    cases succeeds with
    | true => exact hinvariant.goOn hholds
    | false => exact hinvariant.goOn trivial
  | encoded name version files =>
    rw [hphase] at hholds
    cases succeeds with
    | true =>
      refine ⟨hinvariant.versions, fun sent hsent ↦ ?_,
        ⟨version, List.mem_cons_self, hholds⟩, fun unlinked hunlinked ↦ ?_⟩
      · rcases List.mem_cons.mp hsent with rfl | hsent
        · exact hinvariant.versions name sent hholds
        · exact hinvariant.sent sent hsent
      · exact List.mem_cons_of_mem _ (hinvariant.deletesOnlySent unlinked hunlinked)
    | false => exact hinvariant.goOn trivial
  | skipped files =>
    cases succeeds with
    | true => exact hinvariant.goOn trivial
    | false => exact hinvariant.goOn trivial
  | sent name files =>
    rw [hphase] at hholds
    cases succeeds with
    | true =>
      obtain ⟨version, hsent, hlookup⟩ := hholds
      refine ⟨hinvariant.versions.assign (assigns_erase _ _) nofun fun _ _ _ hbound ↦ hbound,
        hinvariant.sent, trivial, fun unlinked hunlinked ↦ ?_⟩
      rcases List.mem_append.mp hunlinked with hnow | hearlier
      · rw [hlookup, Option.toList_some, List.mem_singleton] at hnow
        rw [hnow]
        exact hsent
      · exact hinvariant.deletesOnlySent unlinked hearlier
    | false => exact hinvariant.goOn trivial

/-- A renaming elsewhere than onto the name that is held keeps the invariant. -/
theorem PassInvariant.place {state : PassState} (hinvariant : PassInvariant state) {name : String}
    (hheld : state.phase.held ≠ some name) :
    PassInvariant (passStep state (.place name)).1 := by
  have hassigns := assigns_insert state.sasIn name state.versions
  refine ⟨hinvariant.versions.assign hassigns ?_ fun _ _ _ hbound ↦ Nat.lt_succ_of_lt hbound,
    fun version hsent ↦ Nat.lt_succ_of_lt (hinvariant.sent version hsent),
    hinvariant.holds.assign hassigns hheld, hinvariant.deletesOnlySent⟩
  intro version hversion
  rw [← Option.some.inj hversion]
  exact Nat.lt_succ_self _

theorem PassInvariant.step {state : PassState} (hinvariant : PassInvariant state)
    {action : PassAction} (hcareful : clobbers state action = false) :
    PassInvariant (passStep state action).1 := by
  cases action with
  | place name => exact hinvariant.place (by simpa [clobbers] using hcareful)
  | list files =>
    cases files with
    | none => exact hinvariant
    | some files =>
      simp only [passStep]
      split_ifs
      · exact hinvariant.goOn trivial
      · exact hinvariant
  | call succeeds => exact hinvariant.call succeeds
  | restart => exact hinvariant.goOn trivial

/-! ### Renaming onto a file that is held -/

/-- The calls of a pass, all of which succeed. -/
def callsSucceed (count : ℕ) : List PassAction :=
  List.replicate count (.call true)

/-- The calls of a pass that are left delete a version unsent. -/
def DeletesUnsent (state : PassState) : Prop :=
  ∃ count, ¬ DeletesOnlySent (execute passStep state (callsSucceed count)).2

theorem DeletesUnsent.of_call {state : PassState}
    (hlater : DeletesUnsent (passCall state true)) : DeletesUnsent state := by
  obtain ⟨count, hcount⟩ := hlater
  exact ⟨count + 1, hcount⟩

/-- The version that a phase has opened and not sent yet. -/
def Phase.version : Phase → Option ℕ
  | .opened _ version _ | .hashed _ version _ | .described _ version _
  | .encoded _ version _ => some version
  | _ => none

section Unsent

variable {state : PassState} {name : String} {opened version : ℕ} {files : List String}

theorem deletesUnsent_of_sent (hphase : state.phase = .sent name files)
    (hlookup : state.sasIn.lookup name = some version) (hsent : version ∉ state.sent) :
    DeletesUnsent state := by
  refine ⟨1, fun honly ↦ hsent ?_⟩
  have hunlinked : version ∈ (passCall state true).unlinked := by
    simp [passCall, hphase, hlookup]
  have hsame : (passCall state true).sent = state.sent := by simp [passCall, hphase]
  rw [← hsame]
  exact honly version hunlinked

theorem deletesUnsent_of_encoded (hphase : state.phase = .encoded name opened files)
    (hlookup : state.sasIn.lookup name = some version) (hsent : version ∉ state.sent)
    (hopened : opened ≠ version) : DeletesUnsent state := by
  apply DeletesUnsent.of_call
  rw [passCall, hphase]
  refine deletesUnsent_of_sent rfl hlookup fun hmem ↦ ?_
  rcases List.mem_cons.mp hmem with heq | hmem
  · exact hopened heq.symm
  · exact hsent hmem

theorem deletesUnsent_of_described (hphase : state.phase = .described name opened files)
    (hlookup : state.sasIn.lookup name = some version) (hsent : version ∉ state.sent)
    (hopened : opened ≠ version) : DeletesUnsent state := by
  apply DeletesUnsent.of_call
  rw [passCall, hphase]
  exact deletesUnsent_of_encoded rfl hlookup hsent hopened

theorem deletesUnsent_of_hashed (hphase : state.phase = .hashed name opened files)
    (hlookup : state.sasIn.lookup name = some version) (hsent : version ∉ state.sent)
    (hopened : opened ≠ version) : DeletesUnsent state := by
  apply DeletesUnsent.of_call
  rw [passCall, hphase]
  refine deletesUnsent_of_described rfl ?_ hsent hopened
  dsimp only
  rcases assigns_describe state name true with hsame | herase
  · rw [hsame, hlookup]
  · rw [herase, (assigns_erase _ _).lookup_of_ne (ne_reportOf name), hlookup]

theorem deletesUnsent_of_opened (hphase : state.phase = .opened name opened files)
    (hlookup : state.sasIn.lookup name = some version) (hsent : version ∉ state.sent)
    (hopened : opened ≠ version) : DeletesUnsent state := by
  apply DeletesUnsent.of_call
  rw [passCall, hphase]
  exact deletesUnsent_of_hashed rfl hlookup hsent hopened

end Unsent

/-- A file that is renamed onto the name that is held may be deleted unsent. -/
theorem PassInvariant.deletesUnsent {state : PassState} (hinvariant : PassInvariant state)
    {name : String} (hheld : state.phase.held = some name) :
    DeletesUnsent (passStep state (.place name)).1 := by
  have hlookup := (assigns_insert state.sasIn name state.versions).lookup_self
  have hsent : state.versions ∉ state.sent :=
    fun hmem ↦ lt_irrefl _ (hinvariant.sent _ hmem)
  have hopened : ∀ opened, state.sasIn.lookup name = some opened → opened ≠ state.versions :=
    fun opened hbefore ↦ (hinvariant.versions name opened hbefore).ne
  have hholds := hinvariant.holds
  cases hphase : state.phase with
  | idle => simp [hphase, Phase.held] at hheld
  | turn files => simp [hphase, Phase.held] at hheld
  | skipped files => simp [hphase, Phase.held] at hheld
  | sent held files =>
    obtain rfl : held = name := by simpa [hphase, Phase.held] using hheld
    exact deletesUnsent_of_sent hphase hlookup hsent
  | opened held version files =>
    obtain rfl : held = name := by simpa [hphase, Phase.held] using hheld
    rw [hphase] at hholds
    exact deletesUnsent_of_opened hphase hlookup hsent (hopened version hholds)
  | hashed held version files =>
    obtain rfl : held = name := by simpa [hphase, Phase.held] using hheld
    rw [hphase] at hholds
    exact deletesUnsent_of_hashed hphase hlookup hsent (hopened version hholds)
  | described held version files =>
    obtain rfl : held = name := by simpa [hphase, Phase.held] using hheld
    rw [hphase] at hholds
    exact deletesUnsent_of_described hphase hlookup hsent (hopened version hholds)
  | encoded held version files =>
    obtain rfl : held = name := by simpa [hphase, Phase.held] using hheld
    rw [hphase] at hholds
    exact deletesUnsent_of_encoded hphase hlookup hsent (hopened version hholds)

/-! ### The condition -/

/-- As long as no file is renamed onto the name that the pass holds, every version that is unlinked
had been sent, and whenever a file is renamed onto it, calls may follow that delete a version
unsent. -/
theorem deletesOnlySent_of_run {history : List (PassAction × Unit)} {state : PassState}
    (hrun : Run passStep (fun _ state action ↦ clobbers state action = false) .start
      history state) :
    DeletesOnlySent state ∧ ∀ action, clobbers state action = true →
      DeletesUnsent (passStep state action).1 := by
  have hinvariant : PassInvariant state :=
    hrun.holds .start fun _ _ _ hinvariant hcareful ↦ hinvariant.step hcareful
  refine ⟨hinvariant.deletesOnlySent, fun action hclobbers ↦ ?_⟩
  cases action with
  | place name => exact hinvariant.deletesUnsent (by simpa [clobbers] using hclobbers)
  | _ => cases hclobbers

/-! ### A file that is replaced while it is hashed -/

/-- A file is placed, sent and unlinked. -/
def sentAndUnlinked : List PassAction :=
  [.place "a", .list (some ["a"])] ++ callsSucceed 7

/-- The file is replaced between its opening and its hash. -/
def replacedWhileHashed : List PassAction :=
  [.place "a", .list (some ["a"]), .call true, .place "a"] ++ callsSucceed 5

/-- A file that is not replaced is sent before it is deleted. -/
theorem deletesOnlySent_sentAndUnlinked :
    DeletesOnlySent (execute passStep .start sentAndUnlinked).2 :=
  (deletesOnlySent_of_run (run_execute sentAndUnlinked (by decide))).1

/-- A file that is renamed over the one that is being hashed is deleted, and was not sent. -/
theorem not_forall_deletesOnlySent :
    ¬ ∀ (history : List (PassAction × Unit)) (state : PassState),
      Run passStep (fun _ _ _ ↦ True) .start history state → DeletesOnlySent state := by
  intro honly
  have hstate := honly _ _ (run_execute replacedWhileHashed
    (admits_of_forall (fun _ _ _ ↦ trivial) _ _ _))
  have hunlinked : (execute passStep .start replacedWhileHashed).2.unlinked = [1] := by decide
  have hsent : (execute passStep .start replacedWhileHashed).2.sent = [0] := by decide
  rw [DeletesOnlySent, hunlinked, hsent] at hstate
  exact absurd (hstate 1 List.mem_cons_self) (by decide)

end Keysas.In
