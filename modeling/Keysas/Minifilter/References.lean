import Keysas.Minifilter.HandlerRuns
import Keysas.Runs.Balance

/-!
# References of the handlers

A handler gets references to contexts and to the information about the name of a file, and takes
locks. On each of its ways out it should have released what it holds. The handlers are told here by
what they acquire and release, for any outcome of the calls of the kernel in them: a handler goes to
its label `cleanup` by an early return of its body.

`balanced_preCreateReferences` and `balanced_postCreateReferences` say that the handlers of an open
are balanced on all of their ways out: `Accounted` is what holds at the label of the second one.
`balanced_preWriteReferences_iff` says that the handler of a write is only balanced when it does not
get the information about the name: it never releases it, and a context whose lock it does not get
is released twice. `balanced_calls_iff` is about any sequence of calls, with the locks that one call
could leave to the next.

`passes_preCreateReferences`, `passes_postCreateReferences` and `passes_preWriteReferences` say that
the handlers decide as those of the model of authorizations.
-/

set_option autoImplicit false
set_option relaxedAutoImplicit false

namespace Keysas.Minifilter

open Crypto Firewall Runs Store

/-! ### References and locks -/

/-- What a handler holds. -/
inductive Held where
  | nameInfo
  | fileContext
  | instanceContext
  | fileLock
  | instanceLock
  deriving DecidableEq

/-- The local pointers of a handler that are not null, and the locks that its thread holds. -/
structure Frame where
  nameInfo : Bool
  fileContext : Bool
  instanceContext : Bool
  fileLocks : ℕ
  instanceLocks : ℕ

/-- The frame of a handler that is called. -/
def entryFrame (fileLocks instanceLocks : ℕ) : Frame :=
  ⟨false, false, false, fileLocks, instanceLocks⟩

/-- The outcome of `FindFileContext` and `FindInstanceContext`. -/
inductive ContextSearch where
  /-- The context is not found, for another reason than that there is none. -/
  | failed
  | found
  | allocationFailed
  | lockFailed
  | setFailed
  /-- Another context was attached first, and is taken. -/
  | lostRace
  | created
  deriving DecidableEq

section Calls

variable {ρ : Type}

def acquire (held : Held) : Program (Hold Held) Frame ρ Unit :=
  Program.emit (.acquire held)

def release (held : Held) : Program (Hold Held) Frame ρ Unit :=
  Program.emit (.release held)

/-- `FindFileContext` and `FindInstanceContext`, which return an error early. -/
def findContext (held : Held) (error : ρ) : ContextSearch → Program (Hold Held) Frame ρ Unit
  | .failed => Program.require false error
  | .found => acquire held
  | .allocationFailed => Program.require false error
  | .lockFailed => do
    acquire held
    release held
    Program.require false error
  | .setFailed => do
    acquire held
    release held
    Program.require false error
  | .lostRace => do
    acquire held
    release held
    acquire held
  | .created => acquire held

/-- `AcquireResourceRead` and `AcquireResourceWrite` of a file context. -/
def acquireFile (succeeds : Bool) : Program (Hold Held) Frame ρ Unit :=
  if succeeds then do
    acquire .fileLock
    Program.modify fun frame ↦ { frame with fileLocks := frame.fileLocks + 1 }
  else return ()

/-- `AcquireResourceRead` of an instance context. -/
def acquireInstance (succeeds : Bool) : Program (Hold Held) Frame ρ Unit :=
  if succeeds then do
    acquire .instanceLock
    Program.modify fun frame ↦ { frame with instanceLocks := frame.instanceLocks + 1 }
  else return ()

/-- `ReleaseResource` of a file context, which does nothing for a lock that is not held. -/
def releaseFile : Program (Hold Held) Frame ρ Unit := do
  let frame ← Program.get
  if frame.fileLocks = 0 then return ()
  else
    release .fileLock
    Program.modify fun frame ↦ { frame with fileLocks := frame.fileLocks - 1 }

/-- `ReleaseResource` of an instance context. -/
def releaseInstance : Program (Hold Held) Frame ρ Unit := do
  let frame ← Program.get
  if frame.instanceLocks = 0 then return ()
  else
    release .instanceLock
    Program.modify fun frame ↦ { frame with instanceLocks := frame.instanceLocks - 1 }

end Calls

/-! ### Before an open -/

/-- What happens in a call of `KfPreCreateHandler`. -/
structure PreCreateOutcome where
  /-- The operation is let through before the instance is looked at. -/
  skips : Bool
  getInstanceContext : Bool
  acquireInstance : Bool
  instanceAuth : KeysasAuthorization

/-- `KfPreCreateHandler`. -/
def preCreateReferences (outcome : PreCreateOutcome) :
    Program (Hold Held) Frame Unit PreopStatus := do
  if outcome.skips then return .successNoCallback
  else if !outcome.getInstanceContext then return .successNoCallback
  else
    acquire .instanceContext
    acquireInstance outcome.acquireInstance
    if !outcome.acquireInstance then
      release .instanceContext
      return .successNoCallback
    else
      releaseInstance
      release .instanceContext
      match outcome.instanceAuth with
      | .block => return .complete
      | .allowAll => return .successNoCallback
      | _ => return .successWithCallback

/-! ### After an open -/

/-- What happens in a call of `KfPostCreateHandler`. -/
structure PostCreateOutcome where
  created : Bool
  getFileNameInformation : Bool
  findFile : ContextSearch
  acquireRead : Bool
  /-- The authorization of the file is unknown under the first lock. -/
  unknown : Bool
  acquireWrite : Bool
  /-- It still is under the second one. -/
  stillUnknown : Bool
  hash : Bool
  findInstance : ContextSearch
  acquireInstance : Bool
  /-- The authorization of the file is `AUTH_BLOCK` at the end. -/
  blocked : Bool

/-- The part of `KfPostCreateHandler` for a file that is not known yet. Every branch of the switch
over the state of the instance releases its lock. -/
def initializeFileReferences (outcome : PostCreateOutcome) :
    Program (Hold Held) Frame Unit Unit := do
  Program.require outcome.hash ()
  (findContext .instanceContext () outcome.findInstance).handle fun _ ↦ do
    releaseFile
    Program.require false ()
  Program.modify fun frame ↦ { frame with instanceContext := true }
  -- A lock that is not acquired is only logged.
  acquireInstance outcome.acquireInstance
  releaseInstance

/-- The look of `KfPostCreateHandler` at the authorization of the file, which it has locked. -/
def authorizeFileReferences (outcome : PostCreateOutcome) :
    Program (Hold Held) Frame Unit Unit := do
  if outcome.unknown then
    releaseFile
    acquireFile outcome.acquireWrite
    Program.require outcome.acquireWrite ()
    if outcome.stillUnknown then initializeFileReferences outcome
    else return ()
  else return ()

/-- `KfPostCreateHandler` up to its label `cleanup`: whether the open goes through. -/
def postCreateBody (outcome : PostCreateOutcome) : Program (Hold Held) Frame Unit Bool := do
  Program.require outcome.created ()
  Program.require outcome.getFileNameInformation ()
  acquire .nameInfo
  Program.modify fun frame ↦ { frame with nameInfo := true }
  findContext .fileContext () outcome.findFile
  Program.modify fun frame ↦ { frame with fileContext := true }
  acquireFile outcome.acquireRead
  Program.require outcome.acquireRead ()
  authorizeFileReferences outcome
  return !outcome.blocked

/-- The label `cleanup` of `KfPostCreateHandler`. -/
def postCreateCleanup : Program (Hold Held) Frame Unit Unit := do
  let frame ← Program.get
  if frame.nameInfo then release .nameInfo
  if frame.fileContext then
    releaseFile
    release .fileContext
  if frame.instanceContext then
    releaseInstance
    release .instanceContext

/-- `KfPostCreateHandler`. -/
def postCreateReferences (outcome : PostCreateOutcome) : Program (Hold Held) Frame Unit Bool := do
  let passes ← (postCreateBody outcome).handle fun _ ↦ return true
  postCreateCleanup
  return passes

/-! ### Before a write -/

/-- What happens in a call of `KfPreWriteHandler`. -/
structure PreWriteOutcome where
  getFileNameInformation : Bool
  /-- The operation is let through before the instance is looked at. -/
  skips : Bool
  getInstanceContext : Bool
  acquireInstance : Bool
  instanceAuth : KeysasAuthorization
  findFile : ContextSearch
  acquireFile : Bool
  fileAuth : KeysasAuthorization

/-- `goto cleanup` in `KfPreWriteHandler`. -/
def gotoCleanup (result : PreopStatus) : Program (Hold Held) Frame PreopStatus PreopStatus :=
  Program.ofExcept (.error result)

/-- `KfPreWriteHandler` up to its label `cleanup`. Operations that are let through return directly.
-/
def preWriteBody (outcome : PreWriteOutcome) :
    Program (Hold Held) Frame PreopStatus PreopStatus := do
  Program.require outcome.getFileNameInformation .successNoCallback
  acquire .nameInfo
  if outcome.skips then return .successNoCallback
  else
    Program.require outcome.getInstanceContext .successNoCallback
    acquire .instanceContext
    Program.modify fun frame ↦ { frame with instanceContext := true }
    acquireInstance outcome.acquireInstance
    if !outcome.acquireInstance then
      release .instanceContext
      gotoCleanup .successNoCallback
    else
      releaseInstance
      if outcome.instanceAuth ≠ .allowAll ∧ outcome.instanceAuth ≠ .allowWarning then
        gotoCleanup .complete
      else
        findContext .fileContext .successNoCallback outcome.findFile
        Program.modify fun frame ↦ { frame with fileContext := true }
        acquireFile outcome.acquireFile
        if !outcome.acquireFile then
          release .fileContext
          gotoCleanup .successNoCallback
        else
          releaseFile
          if outcome.fileAuth ≠ .allowAll then gotoCleanup .complete
          else gotoCleanup .successNoCallback

/-- The label `cleanup` of `KfPreWriteHandler`. -/
def preWriteCleanup : Program (Hold Held) Frame Unit Unit := do
  let frame ← Program.get
  if frame.instanceContext then release .instanceContext
  if frame.fileContext then release .fileContext

/-- `KfPreWriteHandler`. -/
def preWriteReferences (outcome : PreWriteOutcome) :
    Program (Hold Held) Frame Unit PreopStatus :=
  (preWriteBody outcome).handle fun result ↦ do
    preWriteCleanup
    return result

/-! ### Ways through a handler -/

section Ways

variable {ρ : Type} (frame : Frame)

/-- The context is found in the end. -/
def ContextSearch.succeeds : ContextSearch → Bool
  | .found | .lostRace | .created => true
  | _ => false

/-- What a search acquires and releases. -/
def ContextSearch.trace (held : Held) : ContextSearch → List (Hold Held)
  | .failed | .allocationFailed => []
  | .found | .created => [.acquire held]
  | .lockFailed | .setFailed => [.acquire held, .release held]
  | .lostRace => [.acquire held, .release held, .acquire held]

theorem run_findContext (held : Held) (error : ρ) (search : ContextSearch) :
    (findContext held error search).run frame =
      ⟨search.trace held, frame, if search.succeeds then .ok () else .error error⟩ := by
  cases search <;> rfl

/-- A search that succeeds leaves one reference more. -/
theorem heldAfter_trace (kind held : Held) (count : ℕ) (search : ContextSearch) :
    heldAfter kind count (search.trace held) =
      some (if held = kind ∧ search.succeeds then count + 1 else count) := by
  by_cases hkind : held = kind
  · cases search <;>
      simp [heldAfter, Hold.count, ContextSearch.trace, ContextSearch.succeeds, hkind]
  · cases search <;>
      simp [heldAfter, Hold.count, ContextSearch.trace, ContextSearch.succeeds, hkind]

theorem run_acquireFile (succeeds : Bool) :
    (acquireFile succeeds : Program (Hold Held) Frame ρ Unit).run frame =
      ⟨if succeeds then [.acquire .fileLock] else [],
        { frame with fileLocks := frame.fileLocks + succeeds.toNat }, .ok ()⟩ := by
  cases succeeds <;> rfl

theorem run_acquireInstance (succeeds : Bool) :
    (acquireInstance succeeds : Program (Hold Held) Frame ρ Unit).run frame =
      ⟨if succeeds then [.acquire .instanceLock] else [],
        { frame with instanceLocks := frame.instanceLocks + succeeds.toNat }, .ok ()⟩ := by
  cases succeeds <;> rfl

theorem run_releaseFile :
    (releaseFile : Program (Hold Held) Frame ρ Unit).run frame =
      ⟨if frame.fileLocks = 0 then [] else [.release .fileLock],
        { frame with fileLocks := frame.fileLocks - 1 }, .ok ()⟩ := by
  rcases frame with ⟨nameInfo, fileContext, instanceContext, _ | fileLocks, instanceLocks⟩ <;> rfl

theorem run_releaseInstance :
    (releaseInstance : Program (Hold Held) Frame ρ Unit).run frame =
      ⟨if frame.instanceLocks = 0 then [] else [.release .instanceLock],
        { frame with instanceLocks := frame.instanceLocks - 1 }, .ok ()⟩ := by
  rcases frame with ⟨nameInfo, fileContext, instanceContext, fileLocks, _ | instanceLocks⟩ <;> rfl

end Ways

/-! ### The label of a handler -/

/-- What the pointers and locks of a frame stand for. -/
def Frame.count (frame : Frame) : Held → ℕ
  | .nameInfo => frame.nameInfo.toNat
  | .fileContext => frame.fileContext.toNat
  | .instanceContext => frame.instanceContext.toNat
  | .fileLock => frame.fileLocks
  | .instanceLock => frame.instanceLocks

/-- The pointers and locks of the frame that a part of a handler reaches stand for what is held
then. The lock of an instance is free again, and that of a file is taken at most once, when there is
a context. -/
structure Accounted {ρ α : Type} (start : Frame) (part : Ending (Hold Held) Frame ρ α) : Prop where
  counts : ∀ held, heldAfter held (start.count held) part.trace = some (part.state.count held)
  instanceLocks : part.state.instanceLocks = 0
  fileLocks : part.state.fileLocks = 0 ∨ part.state.fileLocks = 1 ∧ part.state.fileContext = true

/-- The frame of `KfPostCreateHandler` when it has the context of the file and its first lock. -/
def lockedFrame : Frame := ⟨true, true, false, 1, 0⟩

/-- A file that is looked at under its lock is accounted for. -/
theorem accounted_authorizeFileReferences (outcome : PostCreateOutcome) :
    Accounted lockedFrame ((authorizeFileReferences outcome).run lockedFrame) := by
  rcases hunknown : outcome.unknown with _ | _
  · have hrun : (authorizeFileReferences outcome).run lockedFrame = ⟨[], lockedFrame, .ok ()⟩ := by
      simp [authorizeFileReferences, hunknown]
    rw [hrun]
    exact ⟨fun _ ↦ rfl, rfl, .inr ⟨rfl, rfl⟩⟩
  rcases hwrite : outcome.acquireWrite with _ | _
  · have hrun : (authorizeFileReferences outcome).run lockedFrame =
        ⟨[.release .fileLock], ⟨true, true, false, 0, 0⟩, .error ()⟩ := by
      simp [authorizeFileReferences, hunknown, hwrite, Program.run_bind, Program.run_require,
        run_acquireFile, run_releaseFile, lockedFrame, Ending.after]
    rw [hrun]
    exact ⟨fun held ↦ by cases held <;> rfl, rfl, .inl rfl⟩
  rcases hstill : outcome.stillUnknown with _ | _
  · have hrun : (authorizeFileReferences outcome).run lockedFrame =
        ⟨[.release .fileLock, .acquire .fileLock], lockedFrame, .ok ()⟩ := by
      simp [authorizeFileReferences, hunknown, hwrite, hstill, Program.run_bind,
        Program.run_require, run_acquireFile, run_releaseFile, lockedFrame, Ending.after]
    rw [hrun]
    exact ⟨fun held ↦ by cases held <;> rfl, rfl, .inr ⟨rfl, rfl⟩⟩
  rcases hhash : outcome.hash with _ | _
  · have hrun : (authorizeFileReferences outcome).run lockedFrame =
        ⟨[.release .fileLock, .acquire .fileLock], lockedFrame, .error ()⟩ := by
      simp [authorizeFileReferences, initializeFileReferences, hunknown, hwrite, hstill, hhash,
        Program.run_bind, Program.run_require, run_acquireFile, run_releaseFile, lockedFrame,
        Ending.after]
    rw [hrun]
    exact ⟨fun held ↦ by cases held <;> rfl, rfl, .inr ⟨rfl, rfl⟩⟩
  rcases hinstance : outcome.findInstance.succeeds with _ | _
  · have hrun : (authorizeFileReferences outcome).run lockedFrame =
        ⟨[.release .fileLock, .acquire .fileLock] ++ outcome.findInstance.trace .instanceContext ++
          [.release .fileLock], ⟨true, true, false, 0, 0⟩, .error ()⟩ := by
      simp [authorizeFileReferences, initializeFileReferences, hunknown, hwrite, hstill, hhash,
        hinstance, Program.handle, Program.run_bind, Program.run_require, run_findContext,
        run_acquireFile, run_releaseFile, lockedFrame, Ending.after]
    rw [hrun]
    refine ⟨fun held ↦ ?_, rfl, .inl rfl⟩
    cases held <;> simp [heldAfter_cons, heldAfter_trace, hinstance, Hold.count, Frame.count,
      lockedFrame, heldAfter_append, heldAfter_nil]
  · have hrun : (authorizeFileReferences outcome).run lockedFrame =
        ⟨[.release .fileLock, .acquire .fileLock] ++ outcome.findInstance.trace .instanceContext ++
          (if outcome.acquireInstance then [.acquire .instanceLock, .release .instanceLock]
            else []),
          ⟨true, true, true, 1, 0⟩, .ok ()⟩ := by
      rcases hlock : outcome.acquireInstance with _ | _ <;>
        simp [authorizeFileReferences, initializeFileReferences, hunknown, hwrite, hstill, hhash,
          hinstance, hlock, Program.handle, Program.run_bind, Program.run_require, run_findContext,
          run_acquireFile, run_releaseFile, run_acquireInstance, run_releaseInstance, lockedFrame,
          Ending.after]
    rw [hrun]
    refine ⟨fun held ↦ ?_, rfl, .inr ⟨rfl, rfl⟩⟩
    rcases outcome.acquireInstance with _ | _
    · cases held <;> simp [heldAfter_cons, heldAfter_trace, hinstance, Hold.count, Frame.count,
        lockedFrame]
    · cases held <;> simp [heldAfter_cons, heldAfter_append, heldAfter_trace, heldAfter_nil,
        hinstance, Hold.count, Frame.count, lockedFrame]

/-- `KfPostCreateHandler` accounts for what it holds on all ways to its label. -/
theorem accounted_postCreateBody (outcome : PostCreateOutcome) :
    Accounted (entryFrame 0 0) ((postCreateBody outcome).run (entryFrame 0 0)) := by
  rcases hcreated : outcome.created with _ | _
  · rw [postCreateBody, hcreated]
    exact ⟨fun held ↦ by cases held <;> rfl, rfl, .inl rfl⟩
  rcases hname : outcome.getFileNameInformation with _ | _
  · rw [postCreateBody, hcreated, hname]
    exact ⟨fun held ↦ by cases held <;> rfl, rfl, .inl rfl⟩
  rcases hfile : outcome.findFile.succeeds with _ | _
  · have hrun : (postCreateBody outcome).run (entryFrame 0 0) =
        ⟨.acquire .nameInfo :: outcome.findFile.trace .fileContext, ⟨true, false, false, 0, 0⟩,
          .error ()⟩ := by
      simp [postCreateBody, hcreated, hname, hfile, Program.run_bind, Program.run_require,
        run_findContext, acquire, entryFrame, Ending.after]
    rw [hrun]
    refine ⟨fun held ↦ ?_, rfl, .inl rfl⟩
    cases held <;> simp [heldAfter_cons, heldAfter_trace, hfile, Hold.count, Frame.count,
      entryFrame]
  rcases hread : outcome.acquireRead with _ | _
  · have hrun : (postCreateBody outcome).run (entryFrame 0 0) =
        ⟨.acquire .nameInfo :: outcome.findFile.trace .fileContext, ⟨true, true, false, 0, 0⟩,
          .error ()⟩ := by
      simp [postCreateBody, hcreated, hname, hfile, hread, Program.run_bind, Program.run_require,
        run_findContext, run_acquireFile, acquire, entryFrame, Ending.after]
    rw [hrun]
    refine ⟨fun held ↦ ?_, rfl, .inl rfl⟩
    cases held <;> simp [heldAfter_cons, heldAfter_trace, hfile, Hold.count, Frame.count,
      entryFrame]
  have hlooked := accounted_authorizeFileReferences outcome
  rcases hrest : (authorizeFileReferences outcome).run lockedFrame with ⟨trace, reached, value⟩
  rw [hrest] at hlooked
  obtain ⟨last, hrun⟩ : ∃ last, (postCreateBody outcome).run (entryFrame 0 0) =
      ⟨.acquire .nameInfo ::
        (outcome.findFile.trace .fileContext ++ .acquire .fileLock :: trace), reached, last⟩ := by
    rw [lockedFrame] at hrest
    rcases value with error | value <;>
      simp [postCreateBody, hcreated, hname, hfile, hread, Program.run_bind, Program.run_require,
        run_findContext, run_acquireFile, acquire, entryFrame, Ending.after, hrest]
  rw [hrun]
  refine ⟨fun held ↦ ?_, hlooked.instanceLocks, hlooked.fileLocks⟩
  rw [← hlooked.counts held]
  cases held <;> simp [heldAfter_cons, heldAfter_append, heldAfter_trace, hfile, Hold.count,
    Frame.count, entryFrame, lockedFrame]

/-- The label of `KfPostCreateHandler` releases what the body accounts for. -/
theorem releases_postCreateCleanup {start frame : Frame} {ρ α : Type} {trace : List (Hold Held)}
    {value : Except ρ α} (hbody : Accounted start ⟨trace, frame, value⟩) :
    (∀ held, heldAfter held (frame.count held) (postCreateCleanup.run frame).trace = some 0) ∧
      (postCreateCleanup.run frame).state.fileLocks = 0 ∧
      (postCreateCleanup.run frame).state.instanceLocks = 0 ∧
      (postCreateCleanup.run frame).value = .ok () := by
  obtain ⟨-, hinstance, hfile⟩ := hbody
  rcases frame with ⟨nameInfo, fileContext, instanceContext, fileLocks, instanceLocks⟩
  obtain rfl : instanceLocks = 0 := hinstance
  rcases hfile with hfile | ⟨hfile, hcontext⟩
  · obtain rfl : fileLocks = 0 := hfile
    cases nameInfo <;> cases fileContext <;> cases instanceContext <;>
      exact ⟨fun held ↦ by cases held <;> rfl, rfl, rfl, rfl⟩
  · obtain rfl : fileLocks = 1 := hfile
    obtain rfl : fileContext = true := hcontext
    cases nameInfo <;> cases instanceContext <;>
      exact ⟨fun held ↦ by cases held <;> rfl, rfl, rfl, rfl⟩

/-! ### Balance -/

/-- The handler leaves no locks. -/
def LeavesNoLocks {α : Type} (handler : Program (Hold Held) Frame Unit α) : Prop :=
  (handler.run (entryFrame 0 0)).state.fileLocks = 0 ∧
    (handler.run (entryFrame 0 0)).state.instanceLocks = 0

/-- `KfPreCreateHandler` releases the context of the instance and its lock on all of its ways. -/
theorem balanced_preCreateReferences (outcome : PreCreateOutcome) :
    Balanced ((preCreateReferences outcome).run (entryFrame 0 0)).trace ∧
      LeavesNoLocks (preCreateReferences outcome) := by
  rcases outcome with ⟨_ | _, _ | _, _ | _, auth⟩
  all_goals first
    | exact ⟨fun held ↦ by cases held <;> rfl, rfl, rfl⟩
    | cases auth <;> exact ⟨fun held ↦ by cases held <;> rfl, rfl, rfl⟩

/-- `KfPostCreateHandler` goes through its label, and lets the open through after an early return.
-/
theorem run_postCreateReferences (outcome : PostCreateOutcome) :
    ∃ behind last, (postCreateReferences outcome).run (entryFrame 0 0) =
        ⟨((postCreateBody outcome).run (entryFrame 0 0)).trace ++ behind, last,
          .ok (((postCreateBody outcome).run (entryFrame 0 0)).value.toOption.getD true)⟩ ∧
      (∀ held, heldAfter held (((postCreateBody outcome).run (entryFrame 0 0)).state.count held)
        behind = some 0) ∧
      last.fileLocks = 0 ∧ last.instanceLocks = 0 := by
  have hbody := accounted_postCreateBody outcome
  rcases hrun : (postCreateBody outcome).run (entryFrame 0 0) with ⟨trace, reached, value⟩
  rw [hrun] at hbody
  obtain ⟨hreleases, hfile, hinstance, hvalue⟩ := releases_postCreateCleanup hbody
  rcases hcleanup : postCreateCleanup.run reached with ⟨behind, last, result⟩
  rw [hcleanup] at hreleases hfile hinstance hvalue
  obtain rfl : result = .ok () := hvalue
  refine ⟨behind, last, ?_, hreleases, hfile, hinstance⟩
  rcases value with error | value <;>
    simp [postCreateReferences, Program.run_bind, Program.handle, hrun, hcleanup, Ending.after,
      Except.toOption]

/-- `KfPostCreateHandler` releases behind its label all that it holds. -/
theorem balanced_postCreateReferences (outcome : PostCreateOutcome) :
    Balanced ((postCreateReferences outcome).run (entryFrame 0 0)).trace ∧
      LeavesNoLocks (postCreateReferences outcome) := by
  obtain ⟨behind, last, hrun, hreleases, hfile, hinstance⟩ := run_postCreateReferences outcome
  rw [LeavesNoLocks, hrun]
  refine ⟨fun held ↦ ?_, hfile, hinstance⟩
  have hcounts := (accounted_postCreateBody outcome).counts held
  have hstart : (entryFrame 0 0).count held = 0 := by cases held <;> rfl
  rw [hstart] at hcounts
  rw [heldAfter_append, hcounts]
  exact hreleases held

/-- The instance of a write does not let its files be written to. -/
def PreWriteOutcome.InstanceDenies (outcome : PreWriteOutcome) : Prop :=
  outcome.instanceAuth ≠ .allowAll ∧ outcome.instanceAuth ≠ .allowWarning

/-- `KfPreWriteHandler` comes to the decision to deny the write. -/
def PreWriteOutcome.Denies (outcome : PreWriteOutcome) : Prop :=
  outcome.getFileNameInformation = true ∧ outcome.skips = false ∧
    outcome.getInstanceContext = true ∧ outcome.acquireInstance = true ∧
    (outcome.InstanceDenies ∨ outcome.findFile.succeeds = true ∧ outcome.acquireFile = true ∧
      outcome.fileAuth ≠ .allowAll)

/-- `KfPreWriteHandler` comes to its label without a lock. When it has got the information about the
name, it has not touched it since. -/
theorem run_preWriteBody {outcome : PreWriteOutcome}
    (hname : outcome.getFileNameInformation = true) :
    ∃ rest reached value, (preWriteBody outcome).run (entryFrame 0 0) =
        ⟨.acquire .nameInfo :: rest, reached, value⟩ ∧
      heldAfter .nameInfo 1 rest = some 1 ∧
      reached.fileLocks = 0 ∧ reached.instanceLocks = 0 ∧
      (value = .ok .complete ∨ value = .error .complete ↔ outcome.Denies) := by
  rcases hskips : outcome.skips with _ | _
  swap
  · refine ⟨[], entryFrame 0 0, .ok .successNoCallback, ?_, rfl, rfl, rfl, ?_⟩
    · simp [preWriteBody, hname, hskips, acquire, Ending.after]
    · simp [PreWriteOutcome.Denies, hskips]
  rcases hget : outcome.getInstanceContext with _ | _
  · refine ⟨[], entryFrame 0 0, .error .successNoCallback, ?_, rfl, rfl, rfl, ?_⟩
    · simp [preWriteBody, hname, hskips, hget, acquire, Ending.after]
    · simp [PreWriteOutcome.Denies, hget]
  rcases hinstance : outcome.acquireInstance with _ | _
  · refine ⟨[.acquire .instanceContext, .release .instanceContext], ⟨false, false, true, 0, 0⟩,
      .error .successNoCallback, ?_, rfl, rfl, rfl, ?_⟩
    · simp [preWriteBody, hname, hskips, hget, hinstance, gotoCleanup, Program.run_bind,
        Program.run_require, run_acquireInstance, acquire, release, entryFrame, Ending.after]
    · simp [PreWriteOutcome.Denies, hinstance]
  by_cases hauth : outcome.InstanceDenies
  · refine ⟨[.acquire .instanceContext, .acquire .instanceLock, .release .instanceLock],
      ⟨false, false, true, 0, 0⟩, .error .complete, ?_, rfl, rfl, rfl, ?_⟩
    · rw [PreWriteOutcome.InstanceDenies] at hauth
      simp [preWriteBody, hname, hskips, hget, hinstance, hauth, gotoCleanup, Program.run_bind,
        Program.run_require, run_acquireInstance, run_releaseInstance, acquire, entryFrame,
        Ending.after]
    · simp [PreWriteOutcome.Denies, hname, hskips, hget, hinstance, hauth]
  have hlets := hauth
  rw [PreWriteOutcome.InstanceDenies] at hlets
  rcases hfile : outcome.findFile.succeeds with _ | _
  · refine ⟨[.acquire .instanceContext, .acquire .instanceLock, .release .instanceLock] ++
      outcome.findFile.trace .fileContext,
      ⟨false, false, true, 0, 0⟩, .error .successNoCallback, ?_, ?_, rfl, rfl, ?_⟩
    · simp [preWriteBody, hname, hskips, hget, hinstance, hlets, hfile, Program.run_bind,
        Program.run_require, run_findContext, run_acquireInstance, run_releaseInstance, acquire,
        entryFrame, Ending.after]
    · simp [heldAfter_cons, heldAfter_trace, Hold.count]
    · simp [PreWriteOutcome.Denies, hauth, hfile]
  rcases hlock : outcome.acquireFile with _ | _
  · refine ⟨[.acquire .instanceContext, .acquire .instanceLock, .release .instanceLock] ++
      outcome.findFile.trace .fileContext ++ [.release .fileContext],
      ⟨false, true, true, 0, 0⟩, .error .successNoCallback, ?_, ?_, rfl, rfl, ?_⟩
    · simp [preWriteBody, hname, hskips, hget, hinstance, hlets, hfile, hlock, gotoCleanup,
        Program.run_bind, Program.run_require, run_findContext, run_acquireInstance,
        run_releaseInstance, run_acquireFile, acquire, release, entryFrame, Ending.after]
    · simp [heldAfter_cons, heldAfter_append, heldAfter_trace, heldAfter_nil, Hold.count]
    · simp [PreWriteOutcome.Denies, hauth, hlock]
  · refine ⟨[.acquire .instanceContext, .acquire .instanceLock, .release .instanceLock] ++
      outcome.findFile.trace .fileContext ++ [.acquire .fileLock, .release .fileLock],
      ⟨false, true, true, 0, 0⟩,
      .error (if outcome.fileAuth ≠ .allowAll then .complete else .successNoCallback),
      ?_, ?_, rfl, rfl, ?_⟩
    · by_cases hallow : outcome.fileAuth = .allowAll <;>
        simp [preWriteBody, hname, hskips, hget, hinstance, hlets, hfile, hlock, hallow,
          gotoCleanup, Program.run_bind, Program.run_require, run_findContext, run_acquireInstance,
          run_releaseInstance,
          run_acquireFile, run_releaseFile, acquire, entryFrame, Ending.after]
    · simp [heldAfter_cons, heldAfter_append, heldAfter_trace, heldAfter_nil, Hold.count]
    · by_cases hallow : outcome.fileAuth = .allowAll <;>
        simp [PreWriteOutcome.Denies, hname, hskips, hget, hinstance, hauth, hfile, hlock, hallow]

/-- The label of `KfPreWriteHandler` releases contexts only. -/
theorem run_preWriteCleanup (frame : Frame) :
    ∃ behind, preWriteCleanup.run frame = ⟨behind, frame, .ok ()⟩ ∧
      heldAfter .nameInfo 1 behind = some 1 := by
  rcases frame with ⟨nameInfo, fileContext, instanceContext, fileLocks, instanceLocks⟩
  cases fileContext <;> cases instanceContext <;> exact ⟨_, rfl, rfl⟩

/-- `KfPreWriteHandler` leaves no lock, and keeps the information about the name once it has got it.
-/
theorem run_preWriteReferences {outcome : PreWriteOutcome}
    (hname : outcome.getFileNameInformation = true) :
    heldAfter .nameInfo 0 ((preWriteReferences outcome).run (entryFrame 0 0)).trace = some 1 ∧
      LeavesNoLocks (preWriteReferences outcome) ∧
      (((preWriteReferences outcome).run (entryFrame 0 0)).value = .ok .complete ↔
        outcome.Denies) := by
  obtain ⟨rest, reached, value, hbody, hrest, hfile, hinstance, hdenies⟩ := run_preWriteBody hname
  obtain ⟨behind, hcleanup, hbehind⟩ := run_preWriteCleanup reached
  rcases value with result | result
  · have hrun : (preWriteReferences outcome).run (entryFrame 0 0) =
        ⟨.acquire .nameInfo :: (rest ++ behind), reached, .ok result⟩ := by
      simp [preWriteReferences, Program.handle, Program.run_bind, hbody, hcleanup, Ending.after]
    rw [LeavesNoLocks, hrun]
    refine ⟨?_, ⟨hfile, hinstance⟩, by simpa using hdenies⟩
    simp [heldAfter_cons, heldAfter_append, Hold.count, hrest, hbehind]
  · have hrun : (preWriteReferences outcome).run (entryFrame 0 0) =
        ⟨.acquire .nameInfo :: rest, reached, .ok result⟩ := by
      simp [preWriteReferences, Program.handle, hbody]
    rw [LeavesNoLocks, hrun]
    refine ⟨?_, ⟨hfile, hinstance⟩, by simpa using hdenies⟩
    simp [heldAfter_cons, Hold.count, hrest]

/-- Without the information about the name `KfPreWriteHandler` does nothing. -/
theorem run_preWriteReferences_of_not {outcome : PreWriteOutcome}
    (hname : outcome.getFileNameInformation = false) :
    (preWriteReferences outcome).run (entryFrame 0 0) =
      ⟨[], entryFrame 0 0, .ok .successNoCallback⟩ := by
  rcases outcome with ⟨name, skips, getInstanceContext, acquires, instanceAuth, findFile,
    acquiresFile, fileAuth⟩
  obtain rfl : name = false := hname
  rfl

/-- `KfPreWriteHandler` is balanced exactly when it does not get the information about the name. -/
theorem balanced_preWriteReferences_iff (outcome : PreWriteOutcome) :
    Balanced ((preWriteReferences outcome).run (entryFrame 0 0)).trace ↔
      outcome.getFileNameInformation = false := by
  constructor
  · intro hbalanced
    refine Bool.eq_false_of_not_eq_true fun hname ↦ ?_
    have hzero := hbalanced .nameInfo
    rw [(run_preWriteReferences hname).1] at hzero
    cases hzero
  · intro hname
    rw [run_preWriteReferences_of_not hname]
    exact balanced_nil

/-- `KfPreWriteHandler` leaves no locks. -/
theorem leavesNoLocks_preWriteReferences (outcome : PreWriteOutcome) :
    LeavesNoLocks (preWriteReferences outcome) := by
  rcases hname : outcome.getFileNameInformation with _ | _
  · rw [LeavesNoLocks, run_preWriteReferences_of_not hname]
    exact ⟨rfl, rfl⟩
  · exact (run_preWriteReferences hname).2.1

/-! ### The handlers of authorizations -/

section Authorizations

variable {ν φ : Type}

/-- What `FindFileContext` comes to. -/
def FindCalls.search (calls : FindCalls) (defined : Bool) : ContextSearch :=
  if !calls.getFileContext then .failed
  else if defined then .found
  else if !calls.allocateContext then .allocationFailed
  else if !calls.allocateResource then .lockFailed
  else if !calls.setFileContext then .setFailed
  else .created

theorem FindCalls.succeeds_search [DecidableEq φ] (state : FilterState ν φ) (calls : FindCalls)
    (file : φ) :
    (calls.search (state.fileCtx file).isSome).succeeds = findSucceeds state calls file := by
  rcases calls with ⟨_ | _, _ | _, _ | _, _ | _⟩ <;>
    rcases hctx : state.fileCtx file with _ | ctx <;>
    simp [FindCalls.search, findSucceeds, ContextSearch.succeeds, hctx]

variable [DecidableEq ν]

/-- What happens in `KfPreCreateHandler` in a state. -/
def FileOpen.preCreateOutcome (state : FilterState ν φ) (input : FileOpen ν φ) :
    PreCreateOutcome where
  skips := input.data.userProcess || input.data.isDirectoryOrVolume ||
    input.data.options &&& fileDirectoryFile ≠ 0 ||
    input.data.operationFlags &&& slOpenTargetDirectory ≠ 0 ||
    input.data.operationFlags &&& slOpenPagingFile ≠ 0 ||
    input.data.fileObjectFlags &&& foVolumeOpen ≠ 0
  getInstanceContext :=
    input.calls.getInstanceContext && (state.instances.lookup input.volume).isSome
  acquireInstance := input.calls.acquireInstance
  instanceAuth := (state.instances.lookup input.volume).getD .unknown

/-- `preCreateReferences` gives what `kfPreCreateHandler` gives. -/
theorem passes_preCreateReferences (state : FilterState ν φ) (input : FileOpen ν φ)
    (frame : Frame) :
    ((preCreateReferences (input.preCreateOutcome state)).run frame).value =
      .ok (kfPreCreateHandler state input) := by
  rw [preCreateReferences, kfPreCreateHandler]
  by_cases hskips : (input.preCreateOutcome state).skips = true
  · rw [if_pos hskips]
    simp only [FileOpen.preCreateOutcome, Bool.or_eq_true, decide_eq_true_eq] at hskips
    split_ifs <;> first | rfl | exfalso; tauto
  · rw [if_neg hskips]
    simp only [FileOpen.preCreateOutcome, Bool.or_eq_true, decide_eq_true_eq, not_or] at hskips
    obtain ⟨⟨⟨⟨⟨huser, hdirectory⟩, hoptions⟩, htarget⟩, hpaging⟩, hvolume⟩ := hskips
    rw [if_neg huser, if_neg hdirectory, if_neg hoptions, if_neg htarget, if_neg hpaging,
      if_neg hvolume]
    have hget : (input.preCreateOutcome state).getInstanceContext =
        (input.calls.getInstanceContext && (state.instances.lookup input.volume).isSome) := rfl
    have hlock : (input.preCreateOutcome state).acquireInstance = input.calls.acquireInstance := rfl
    have hauth : (input.preCreateOutcome state).instanceAuth =
        (state.instances.lookup input.volume).getD .unknown := rfl
    rw [hget, hlock, hauth]
    rcases input.calls.getInstanceContext with _ | _
    · rfl
    rcases state.instances.lookup input.volume with _ | auth
    · rfl
    rcases input.calls.acquireInstance with _ | _
    · rfl
    · cases auth <;> simp [Program.run_bind, run_acquireInstance, run_releaseInstance, acquire,
        release, Ending.after]

variable [DecidableEq φ]

/-- What happens in `KfPreWriteHandler` in a state. -/
def FileWrite.outcome (state : FilterState ν φ) (input : FileWrite ν φ) : PreWriteOutcome where
  getFileNameInformation := input.calls.getFileNameInformation
  skips := input.data.skipsWrite
  getInstanceContext :=
    input.calls.getInstanceContext && (state.instances.lookup input.volume).isSome
  acquireInstance := input.calls.acquireInstance
  instanceAuth := (state.instances.lookup input.volume).getD .unknown
  findFile := input.calls.find.search (state.fileCtx input.file).isSome
  acquireFile := input.calls.acquireFile
  fileAuth := state.authorization input.file

/-- `preWriteReferences` denies what `kfPreWriteHandler` denies. -/
theorem passes_preWriteReferences (state : FilterState ν φ) (input : FileWrite ν φ) :
    ((preWriteReferences (input.outcome state)).run (entryFrame 0 0)).value = .ok .complete ↔
      ((kfPreWriteHandler input).run state).value = .ok .complete := by
  have hpasses : ((kfPreWriteHandler input).run state).value = .ok .complete ↔
      (input.outcome state).Denies := by
    rw [← not_iff_not, ← ne_eq, kfPreWriteHandler_passes_iff]
    simp only [PreWriteOutcome.Denies, PreWriteOutcome.InstanceDenies, FileWrite.outcome,
      FindCalls.succeeds_search, getD_unknown_ne_iff, leavesWriteEarly, writableVolume]
    grind
  rw [hpasses]
  rcases hname : input.calls.getFileNameInformation with _ | _
  · have hnone : (input.outcome state).getFileNameInformation = false := hname
    rw [run_preWriteReferences_of_not hnone]
    simp [PreWriteOutcome.Denies, hnone]
  · exact (run_preWriteReferences hname).2.2

/-- The look at a file comes to an end when the calls of the kernel in it succeed. -/
theorem value_authorizeFileReferences (outcome : PostCreateOutcome) :
    ((authorizeFileReferences outcome).run lockedFrame).value = .ok () ↔
      (outcome.unknown = true → outcome.acquireWrite = true ∧
        (outcome.stillUnknown = true →
          outcome.hash = true ∧ outcome.findInstance.succeeds = true)) := by
  rcases hunknown : outcome.unknown with _ | _
  · simp [authorizeFileReferences, hunknown]
  rcases hwrite : outcome.acquireWrite with _ | _
  · simp [authorizeFileReferences, hunknown, hwrite, Program.run_bind, Program.run_require,
      run_acquireFile, run_releaseFile]
  rcases hstill : outcome.stillUnknown with _ | _
  · simp [authorizeFileReferences, hunknown, hwrite, hstill, Program.run_bind,
      Program.run_require, run_acquireFile, run_releaseFile]
  rcases hhash : outcome.hash with _ | _
  · simp [authorizeFileReferences, initializeFileReferences, hunknown, hwrite, hstill, hhash,
      Program.run_bind, Program.run_require, run_acquireFile, run_releaseFile]
  rcases hinstance : outcome.findInstance.succeeds with _ | _ <;>
    simp [authorizeFileReferences, initializeFileReferences, hunknown, hwrite, hstill, hhash,
      hinstance, Program.handle, Program.run_bind, Program.run_require, run_findContext,
      run_acquireFile, run_releaseFile, run_acquireInstance, run_releaseInstance, Ending.after]

/-- `KfPostCreateHandler` denies the open of a file that is blocked when it comes to its end. -/
theorem value_postCreateReferences (outcome : PostCreateOutcome) :
    ((postCreateReferences outcome).run (entryFrame 0 0)).value =
      .ok (!(outcome.created && outcome.getFileNameInformation && outcome.findFile.succeeds &&
        outcome.acquireRead && outcome.blocked &&
        (!outcome.unknown || outcome.acquireWrite &&
          (!outcome.stillUnknown || outcome.hash && outcome.findInstance.succeeds)))) := by
  obtain ⟨behind, last, hrun, -⟩ := run_postCreateReferences outcome
  rw [hrun]
  rcases hcreated : outcome.created with _ | _
  · simp [postCreateBody, hcreated, Except.toOption]
  rcases hname : outcome.getFileNameInformation with _ | _
  · simp [postCreateBody, hcreated, hname, Except.toOption]
  rcases hfile : outcome.findFile.succeeds with _ | _
  · simp [postCreateBody, hcreated, hname, hfile, Program.run_bind, Program.run_require,
      run_findContext, acquire, Ending.after, Except.toOption]
  rcases hread : outcome.acquireRead with _ | _
  · simp [postCreateBody, hcreated, hname, hfile, hread, Program.run_bind, Program.run_require,
      run_findContext, run_acquireFile, acquire, Ending.after, Except.toOption]
  have hvalue := value_authorizeFileReferences outcome
  rcases hrest : (authorizeFileReferences outcome).run lockedFrame with ⟨trace, reached, value⟩
  rw [hrest] at hvalue
  rw [lockedFrame] at hrest
  rcases value with error | value
  · have hearly : (!outcome.unknown || outcome.acquireWrite &&
        (!outcome.stillUnknown || outcome.hash && outcome.findInstance.succeeds)) = false := by
      grind
    simp [postCreateBody, hcreated, hname, hfile, hread, hearly, Program.run_bind,
      Program.run_require, run_findContext, run_acquireFile, acquire, entryFrame, Ending.after,
      hrest, Except.toOption]
  · have hends : (!outcome.unknown || outcome.acquireWrite &&
        (!outcome.stillUnknown || outcome.hash && outcome.findInstance.succeeds)) = true := by
      grind
    simp [postCreateBody, hcreated, hname, hfile, hread, hends, Program.run_bind,
      Program.run_require, run_findContext, run_acquireFile, acquire, entryFrame, Ending.after,
      hrest, Except.toOption]

/-- What happens in `KfPostCreateHandler` in a state. -/
def FileOpen.postCreateOutcome (sha256 : Sha256) (state : FilterState ν φ)
    (input : FileOpen ν φ) : PostCreateOutcome where
  created := input.calls.created
  getFileNameInformation := input.calls.getFileNameInformation
  findFile := input.calls.find.search (state.fileCtx input.file).isSome
  acquireRead := input.calls.acquireRead
  unknown := state.authorization input.file = .unknown
  acquireWrite := input.calls.acquireWrite
  stillUnknown := state.authorization input.file = .unknown
  hash := (state.fileId input.file).isNone && input.calls.allocateHash && input.calls.hash
  findInstance := if input.calls.findInstanceContext then .found else .failed
  acquireInstance := true
  blocked := ((kfPostCreateHandler sha256 input).run state).state.authorization input.file = .block

/-- `postCreateReferences` lets through what `kfPostCreateHandler` lets through. -/
theorem passes_postCreateReferences (sha256 : Sha256) (state : FilterState ν φ)
    (input : FileOpen ν φ) :
    ((postCreateReferences (input.postCreateOutcome sha256 state)).run (entryFrame 0 0)).value =
        .ok true ↔
      ((kfPostCreateHandler sha256 input).run state).value ≠ .ok false := by
  have hinstance : (input.postCreateOutcome sha256 state).findInstance.succeeds =
      input.calls.findInstanceContext := by
    rcases hfind : input.calls.findInstanceContext with _ | _ <;>
      simp [FileOpen.postCreateOutcome, hfind, ContextSearch.succeeds]
  have hfile : (input.postCreateOutcome sha256 state).findFile.succeeds =
      findSucceeds state input.calls.find input.file :=
    FindCalls.succeeds_search state input.calls.find input.file
  rw [value_postCreateReferences, hinstance, hfile]
  by_cases hlooks : looksUp state input = true
  swap
  · have hfails := Bool.eq_false_of_not_eq_true hlooks
    obtain ⟨after, hrun, -⟩ : ∃ after, (kfPostCreateHandler sha256 input).run state =
        ⟨[], after, .error ()⟩ ∧ _ := exists_run_of_not_looksUp hfails
    simp only [looksUp] at hfails
    simp [hrun, FileOpen.postCreateOutcome, hfails]
  by_cases hunknown : state.authorization input.file = .unknown
  swap
  · have hrun : (kfPostCreateHandler sha256 input).run state = _ :=
      run_kfPostCreateHandler_known hlooks hunknown
    simp only [looksUp] at hlooks
    simp [FileOpen.postCreateOutcome, hrun, hlooks, hunknown]
  by_cases hprepares : prepares state input = true
  swap
  · have hfails := Bool.eq_false_of_not_eq_true hprepares
    obtain ⟨after, hrun⟩ : ∃ after, (kfPostCreateHandler sha256 input).run state =
        ⟨[], after, .error ()⟩ := exists_run_of_leavesEarly (.inr ⟨hunknown, hfails⟩)
    simp only [prepares] at hfails
    simp only [hrun, FileOpen.postCreateOutcome, hunknown, decide_true]
    grind
  · have hrun : (kfPostCreateHandler sha256 input).run state = _ :=
      run_kfPostCreateHandler_judged hlooks hunknown hprepares
    simp only [looksUp, prepares, Bool.and_eq_true] at hlooks hprepares
    simp [FileOpen.postCreateOutcome, hrun, hlooks, hprepares, hunknown,
      FilterState.authorization_setAuthorization _ _ isSome_fileCtx_prepared]

end Authorizations

/-! ### Sequences of calls -/

/-- A call of a handler, with what happens in it. -/
inductive HandlerCall where
  | preCreate (outcome : PreCreateOutcome)
  | postCreate (outcome : PostCreateOutcome)
  | preWrite (outcome : PreWriteOutcome)

/-- The locks that the calls of a thread have left. -/
structure ThreadLocks where
  fileLocks : ℕ
  instanceLocks : ℕ
  deriving DecidableEq

/-- One call: the locks that it leaves to the next one, and what it acquires and releases. -/
def callStep (locks : ThreadLocks) (call : HandlerCall) : ThreadLocks × List (Hold Held) :=
  let frame := entryFrame locks.fileLocks locks.instanceLocks
  match call with
  | .preCreate outcome =>
    let ending := (preCreateReferences outcome).run frame
    (⟨ending.state.fileLocks, ending.state.instanceLocks⟩, ending.trace)
  | .postCreate outcome =>
    let ending := (postCreateReferences outcome).run frame
    (⟨ending.state.fileLocks, ending.state.instanceLocks⟩, ending.trace)
  | .preWrite outcome =>
    let ending := (preWriteReferences outcome).run frame
    (⟨ending.state.fileLocks, ending.state.instanceLocks⟩, ending.trace)

/-- The call does not get the information about a name that `KfPreWriteHandler` would keep. -/
def HandlerCall.KeepsNoName : HandlerCall → Prop
  | .preWrite outcome => outcome.getFileNameInformation = false
  | _ => True

/-- A call without locks leaves none. -/
theorem callStep_locks (call : HandlerCall) : (callStep ⟨0, 0⟩ call).1 = ⟨0, 0⟩ := by
  cases call with
  | preCreate outcome =>
    obtain ⟨-, hfile, hinstance⟩ := balanced_preCreateReferences outcome
    exact congrArg₂ ThreadLocks.mk hfile hinstance
  | postCreate outcome =>
    obtain ⟨-, hfile, hinstance⟩ := balanced_postCreateReferences outcome
    exact congrArg₂ ThreadLocks.mk hfile hinstance
  | preWrite outcome =>
    obtain ⟨hfile, hinstance⟩ := leavesNoLocks_preWriteReferences outcome
    exact congrArg₂ ThreadLocks.mk hfile hinstance

/-- A call without locks is balanced unless it keeps the information about a name. -/
theorem balanced_callStep_iff (call : HandlerCall) :
    Balanced (callStep ⟨0, 0⟩ call).2 ↔ call.KeepsNoName := by
  cases call with
  | preCreate outcome =>
    exact iff_of_true (balanced_preCreateReferences outcome).1 trivial
  | postCreate outcome =>
    exact iff_of_true (balanced_postCreateReferences outcome).1 trivial
  | preWrite outcome => exact balanced_preWriteReferences_iff outcome

/-- Every call of a sequence releases exactly what it acquires if and only if no call of
`KfPreWriteHandler` in it gets the information about a name. -/
theorem balanced_calls_iff (calls : List HandlerCall) :
    (∀ entry ∈ (execute callStep ⟨0, 0⟩ calls).1, Balanced entry.2) ↔
      ∀ call ∈ calls, call.KeepsNoName := by
  induction calls with
  | nil => simp [execute]
  | cons call calls ih =>
    rw [execute, callStep_locks, List.forall_mem_cons, List.forall_mem_cons, ih]
    exact and_congr_left' (balanced_callStep_iff call)

/-- All calls of the kernel in a write to an ordinary file succeed. -/
def writeThrough : PreWriteOutcome :=
  ⟨true, false, true, true, .allowAll, .found, true, .allowAll⟩

/-- The instance of a write has no lock for it. -/
def writeWithoutLock : PreWriteOutcome :=
  { writeThrough with acquireInstance := false }

/-- An allowed write keeps the information about the name of its file. When the lock of the
instance is not acquired its context is released twice. -/
theorem not_balanced_preWrite :
    heldAfter .nameInfo 0 (callStep ⟨0, 0⟩ (.preWrite writeThrough)).2 = some 1 ∧
      heldAfter .instanceContext 0 (callStep ⟨0, 0⟩ (.preWrite writeWithoutLock)).2 = none ∧
      ¬ ∀ entry ∈ (execute callStep ⟨0, 0⟩ [.preWrite writeThrough]).1, Balanced entry.2 := by
  refine ⟨by decide +kernel, by decide +kernel, fun hbalanced ↦ ?_⟩
  have hzero := hbalanced _ (List.mem_singleton.mpr rfl) .nameInfo
  exact absurd hzero (by decide +kernel)

end Keysas.Minifilter
