import Keysas.Minifilter.HandlerRuns

/-!
# The decision about writes

A file should be writable when everything is allowed for its volume, and on a volume with a warning
when the last thing that the daemon has said about the file allows reading and writing.

`KfPreWriteHandler` lets a write through when the context of the file has `AUTH_ALLOW_ALL`.
`authorization_ne_allowAll_of_run` says that no context ever has it: a file that may be written to
is sent as `AUTH_ALLOW_WARNING` by the daemon, the switch of `KfPostCreateHandler` makes a file at
most readable, and a context that is made for a write is unknown. So every write that the handler
decides about is denied, and `followsLaw_iff` says that the decision is right exactly when the law
denies the write, too.
-/

set_option autoImplicit false
set_option relaxedAutoImplicit false

namespace Keysas.Minifilter

open Crypto Firewall Runs Store

variable {ν φ : Type} [DecidableEq ν] [DecidableEq φ]

/-! ### The law -/

/-- The last authorization that the daemon has given to a file. -/
def lastGranted (history : List (Event ν φ × Reaction φ)) (file : φ) :
    Option KeysasAuthorization :=
  history.foldl (fun granted entry ↦ (saysOf file entry).or granted) none

/-- A write should go through. -/
def WriteLaw (history : List (Event ν φ × Reaction φ)) (state : FilterState ν φ)
    (write : FileWrite ν φ) : Prop :=
  state.instances.lookup write.volume = some .allowAll ∨
    state.instances.lookup write.volume = some .allowWarning ∧
      lastGranted history write.file = some FileAuthorization.allowRW.inKernel

instance (history : List (Event ν φ × Reaction φ)) (state : FilterState ν φ)
    (write : FileWrite ν φ) : Decidable (WriteLaw history state write) :=
  inferInstanceAs (Decidable (_ ∨ _))

variable (sha256 : Sha256)

/-- A write goes through if and only if it should. -/
def FollowsLaw (history : List (Event ν φ × Reaction φ)) (state : FilterState ν φ)
    (write : FileWrite ν φ) : Prop :=
  (minifilterStep sha256 state (.preWrite write)).2.passes = true ↔ WriteLaw history state write

/-! ### The invariant -/

variable {sha256} {history : List (Event ν φ × Reaction φ)} {state : FilterState ν φ}

omit [DecidableEq ν] in
/-- Nothing that the daemon says about a file allows everything. -/
theorem saysOf_ne_allowAll {event : Event ν φ} (hopens : ∀ input, event ≠ .postCreate input)
    {reaction : Reaction φ} {file : φ} {auth : KeysasAuthorization}
    (hsaid : saysOf file (event, reaction) = some auth) : auth ≠ .allowAll := by
  obtain ⟨-, update, -, rfl⟩ := exists_update_of_saysOf hopens hsaid
  exact update.inKernel_ne_allowAll

/-- No step allows everything for a file. -/
theorem AllCtx.ne_allowAll_step (hall : AllCtx (fun _ auth ↦ auth ≠ .allowAll) state)
    (event : Event ν φ) :
    AllCtx (fun _ auth ↦ auth ≠ .allowAll) (minifilterStep sha256 state event).1 := by
  by_cases hopens : ∃ input, event = .postCreate input
  · obtain ⟨input, rfl⟩ := hopens
    have hkeeps : (kfPostCreateHandler sha256 input).Keeps
        (AllCtx fun _ auth ↦ auth ≠ .allowAll) :=
      keeps_kfPostCreateHandler (fun _ ↦ nofun) nofun nofun nofun
    exact hkeeps state hall
  · have hother : ∀ input, event ≠ .postCreate input := fun input hinput ↦ hopens ⟨input, hinput⟩
    exact hall.step (fun _ ↦ nofun) hother fun _ _ hsaid ↦ saysOf_ne_allowAll hother hsaid

/-- In no reachable state is everything allowed for a file. -/
theorem authorization_ne_allowAll_of_run
    (hrun : FilterRun sha256 (fun _ _ ↦ True) history state) (file : φ) :
    state.authorization file ≠ .allowAll := by
  have hall : AllCtx (fun _ auth ↦ auth ≠ .allowAll) state := by
    induction hrun with
    | nil => exact allCtx_init
    | next event _ _ ih => exact ih.ne_allowAll_step event
  rcases hctx : state.fileCtx file with _ | ctx
  · rw [FilterState.authorization, hctx]
    intro hsame
    cases hsame
  · exact hall.authorization (by rw [hctx]; rfl)

/-! ### Decisions -/

/-- In every reachable state the writes that go through are those that the handler does not decide
about. -/
theorem passes_iff_of_run (hrun : FilterRun sha256 (fun _ _ ↦ True) history state)
    (write : FileWrite ν φ) :
    (minifilterStep sha256 state (.preWrite write)).2.passes = true ↔
      leavesWriteEarly state write = true := by
  have hdenied := authorization_ne_allowAll_of_run hrun write.file
  have hpasses : (minifilterStep sha256 state (.preWrite write)).2.passes =
      decide (((kfPreWriteHandler write).run state).value ≠ .ok .complete) := rfl
  rw [hpasses, decide_eq_true_iff, kfPreWriteHandler_passes_iff]
  exact or_iff_left fun hallowed ↦ hdenied hallowed.2

/-- In every run a write that the handler decides about is denied, and the law is followed exactly
when it denies a write that is decided about, or permits one that is not. -/
theorem followsLaw_iff (hrun : FilterRun sha256 (fun _ _ ↦ True) history state)
    (write : FileWrite ν φ) :
    (leavesWriteEarly state write = false →
      (minifilterStep sha256 state (.preWrite write)).2.passes = false) ∧
    (FollowsLaw sha256 history state write ↔
      ¬ WriteLaw history state write ∧ leavesWriteEarly state write = false ∨
        WriteLaw history state write ∧ leavesWriteEarly state write = true) := by
  have hpasses := passes_iff_of_run hrun write
  constructor
  · intro hdecided
    refine Bool.eq_false_of_not_eq_true fun hgoes ↦ ?_
    rw [hpasses.mp hgoes] at hdecided
    cases hdecided
  · rw [FollowsLaw, hpasses, ← Bool.not_eq_true]
    by_cases hlaw : WriteLaw history state write
    · simp [hlaw]
    · simp [hlaw]

/-! ### A file that may be written to -/

/-- The file 1 of the volume 1 is written to, and all calls succeed. -/
def writeOne : FileWrite ℕ ℕ where
  volume := 1
  file := 1
  data := regularFile
  calls := ⟨true, true, true, ⟨true, true, true, true⟩, true⟩

/-- On a volume with a warning the file is opened, and the daemon allows it to be read and
written. -/
def grantedForWriting : List (Event ℕ ℕ) :=
  [.portConnect, .instanceSetup 1 .allowWarning, .postCreate (openOne true),
    .updateFileAuth (paddingSha256.hash (bytesOfUnits (openOne true).fileName)) .allowRW]

/-- The runs of the minifilter are those of its events. -/
theorem run_events (events : List (Event ℕ ℕ)) :
    FilterRun paddingSha256 (fun _ _ ↦ True)
      (execute (minifilterStep paddingSha256) .init events).1
      (execute (minifilterStep paddingSha256) .init events).2 :=
  run_execute events (admits_of_forall (fun _ _ _ ↦ trivial) _ _ _)

/-- The law at a write to a file that the daemon has allowed to be read and written. -/
theorem followsLaw_grantedForWriting :
    let granted := execute (minifilterStep paddingSha256) .init grantedForWriting
    FilterRun paddingSha256 (fun _ _ ↦ True) granted.1 granted.2 ∧
      (leavesWriteEarly granted.2 writeOne = false →
        (minifilterStep paddingSha256 granted.2 (.preWrite writeOne)).2.passes = false) ∧
      (FollowsLaw paddingSha256 granted.1 granted.2 writeOne ↔
        ¬ WriteLaw granted.1 granted.2 writeOne ∧ leavesWriteEarly granted.2 writeOne = false ∨
          WriteLaw granted.1 granted.2 writeOne ∧ leavesWriteEarly granted.2 writeOne = true) :=
  ⟨run_events grantedForWriting, followsLaw_iff (run_events grantedForWriting) writeOne⟩

/-- The law is not followed: on a volume with a warning a write is denied to a regular file that the
daemon has allowed to be read and written. -/
theorem not_forall_followsLaw :
    ¬ ∀ (history : List (Event ℕ ℕ × Reaction ℕ)) (state : FilterState ℕ ℕ)
      (write : FileWrite ℕ ℕ), FilterRun paddingSha256 (fun _ _ ↦ True) history state →
        write.data.userProcess = false → write.data.isDirectoryOrVolume = false →
          FollowsLaw paddingSha256 history state write := by
  intro hforall
  have hfollows := hforall _ _ writeOne (run_events grantedForWriting) rfl rfl
  have hlaw : WriteLaw (execute (minifilterStep paddingSha256) .init grantedForWriting).1
      (execute (minifilterStep paddingSha256) .init grantedForWriting).2 writeOne := by decide
  have hdenied : (minifilterStep paddingSha256
      (execute (minifilterStep paddingSha256) .init grantedForWriting).2
        (.preWrite writeOne)).2.passes = false := by decide
  have hgoes := hfollows.mpr hlaw
  rw [hdenied] at hgoes
  cases hgoes

end Keysas.Minifilter
