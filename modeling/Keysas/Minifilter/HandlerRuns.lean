import Keysas.Minifilter.Contexts

/-!
# Runs of the handlers

What the handlers of the minifilter do when they are run. `run_kfPostCreateHandler_known` and
`run_kfPostCreateHandler_judged` execute `KfPostCreateHandler` for a file that is known and for one
that is not, and `exists_run_of_leavesEarly` says that a call that fails before the switch over the
state of the instance lets the open through. `kfPreWriteHandler_passes_iff` says which writes go
through.

`saysOf` is what the daemon says about a file in the course of an event. `AllCtx.step` carries a
property of all contexts over the events that do not open a file, when what the daemon says has it,
and `keeps_kfPostCreateHandler` over those that do.
-/

set_option autoImplicit false
set_option relaxedAutoImplicit false

namespace Keysas.Minifilter

open Crypto Firewall Runs Store

variable {ν φ : Type}

section Handlers

variable [DecidableEq φ] {state : FilterState ν φ}

/-! ### Opening a file -/

/-- What `KeysasScanFileInUserMode` sends and receives, and the authorization that it leaves. -/
def scanResult (state : FilterState ν φ) (input : FileOpen ν φ)
    (operation : KeysasFilterOperation) : List Message × KeysasAuthorization :=
  if state.clientPort && input.calls.allocateRequest && nameFits input.fileName then
    let request := driverRequestFor state input operation
    if input.calls.sendMessage then
      ([.sent request, .replied (input.daemon.answer request)],
        .ofU8 (input.daemon.answer request))
    else ([.sent request], .pending)
  else ([], .pending)

theorem run_keysasScanFileInUserMode (input : FileOpen ν φ) (operation : KeysasFilterOperation) :
    (keysasScanFileInUserMode input operation).run state =
      ⟨(scanResult state input operation).1,
        state.setAuthorization input.file (scanResult state input operation).2, .ok ()⟩ := by
  have hport : (state.setAuthorization input.file .pending).clientPort = state.clientPort := rfl
  have hrequest : driverRequestFor (state.setAuthorization input.file .pending) input operation =
      driverRequestFor state input operation := by
    rw [driverRequestFor, driverRequestFor, FilterState.fileId_setAuthorization]
  rw [keysasScanFileInUserMode, scanResult]
  simp only [Program.run_modify_bind, Program.run_get_bind, Program.run_ite, hport, hrequest]
  split_ifs with hbuilt hsent
  · simp [Ending.after]
  · simp [Ending.after]
  · rfl

variable [DecidableEq ν]

/-- What the switch over the state of the instance sends and receives, and the authorization that it
leaves. -/
def instanceResult (state : FilterState ν φ) (input : FileOpen ν φ) :
    List Message × KeysasAuthorization :=
  match (state.instances.lookup input.volume).getD .unknown with
  | .allowWarning => scanResult state input .userAllowFile
  | .allowRead => scanResult state input .scanFile
  | .allowAll => ([], .allowRead)
  | _ => ([], .block)

theorem run_authorizeByInstance (input : FileOpen ν φ) :
    (authorizeByInstance input).run state =
      ⟨(instanceResult state input).1,
        state.setAuthorization input.file (instanceResult state input).2, .ok ()⟩ := by
  rw [authorizeByInstance, Program.run_get_bind, instanceResult]
  cases (state.instances.lookup input.volume).getD .unknown with
  | allowWarning => exact run_keysasScanFileInUserMode input .userAllowFile
  | allowRead => exact run_keysasScanFileInUserMode input .scanFile
  | _ => rfl

/-- The calls before `KfPostCreateHandler` looks at the authorization of the file succeed. -/
def looksUp (state : FilterState ν φ) (input : FileOpen ν φ) : Bool :=
  input.calls.created && input.calls.getFileNameInformation &&
    findSucceeds state input.calls.find input.file && input.calls.acquireRead

/-- The calls between the look at a file that is not known and the switch over the state of the
instance succeed. -/
def prepares (state : FilterState ν φ) (input : FileOpen ν φ) : Bool :=
  input.calls.acquireWrite && (state.fileId input.file).isNone && input.calls.allocateHash &&
    input.calls.hash && input.calls.findInstanceContext

variable (sha256 : Sha256)

/-- The state in which the switch over the state of the instance is reached. -/
def prepared (state : FilterState ν φ) (input : FileOpen ν φ) : FilterState ν φ :=
  ((((state.withCtx input.file).setAuthorization input.file .pending).setFileId input.file
    (List.replicate 32 0)).setFileId input.file
      (sha256.hash (bytesOfUnits input.fileName))).withInstance input.volume

variable {sha256} {input : FileOpen ν φ}

/-- An open leaves what its handler leaves, and is denied when the handler completes it. -/
theorem minifilterStep_postCreate {trace : List Message} {after : FilterState ν φ}
    {value : Except Unit Bool}
    (hrun : (kfPostCreateHandler sha256 input).run state = ⟨trace, after, value⟩) :
    minifilterStep sha256 state (.postCreate input) =
      (after, ⟨trace, value = .error () ∨ value = .ok true, none⟩) := by
  rw [minifilterStep, hrun]

/-- The handler after it has found the context. -/
theorem run_kfPostCreateHandler_of_looksUp (hlooks : looksUp state input = true) :
    (kfPostCreateHandler sha256 input).run state =
      (authorizeFileOnce sha256 input >>= fun _ ↦ do
        let reached ← Program.get
        return decide (reached.authorization input.file ≠ .block)).run
          (state.withCtx input.file) := by
  simp only [looksUp, Bool.and_eq_true] at hlooks
  obtain ⟨⟨⟨hcreated, hname⟩, hfinds⟩, hread⟩ := hlooks
  rw [kfPostCreateHandler, Program.run_require_bind, if_pos hcreated, Program.run_require_bind,
    if_pos hname, Program.run_bind, run_findFileContext hfinds]
  simp only [Program.run_require_bind, if_pos hread]
  rfl

/-- A file that is known goes through unless it is blocked. -/
theorem run_kfPostCreateHandler_known (hlooks : looksUp state input = true)
    (hknown : state.authorization input.file ≠ .unknown) :
    (kfPostCreateHandler sha256 input).run state =
      ⟨[], state, .ok (decide (state.authorization input.file ≠ .block))⟩ := by
  have hctx : state.withCtx input.file = state :=
    if_pos (FilterState.isSome_fileCtx_of_known hknown)
  have honce : (authorizeFileOnce sha256 input).run state = ⟨[], state, .ok ()⟩ := by
    rw [authorizeFileOnce, Program.run_get_bind, if_neg hknown, Program.run_pure]
  rw [run_kfPostCreateHandler_of_looksUp hlooks, hctx, Program.run_bind, honce]
  rfl

/-- The volume of an open keeps its authorization until the switch over it. -/
theorem lookup_prepared :
    ((prepared sha256 state input).instances.lookup input.volume).getD .unknown =
      (state.instances.lookup input.volume).getD .unknown := by
  have hinstances : ((state.withCtx input.file).instances) = state.instances := by
    rw [FilterState.withCtx]
    split_ifs <;> rfl
  rw [prepared, FilterState.withInstance]
  split_ifs with hmissing
  · have hnone := Option.isNone_iff_eq_none.mp hmissing
    change (state.withCtx input.file).instances.lookup input.volume = none at hnone
    rw [hinstances] at hnone
    rw [AList.lookup_insert, hnone]
    rfl
  · change ((state.withCtx input.file).instances.lookup input.volume).getD .unknown = _
    rw [hinstances]

/-- The daemon stays connected or not until the switch over the state of the instance. -/
theorem clientPort_prepared : (prepared sha256 state input).clientPort = state.clientPort := by
  have hport : (state.withCtx input.file).clientPort = state.clientPort := by
    rw [FilterState.withCtx]
    split_ifs <;> rfl
  rw [prepared, FilterState.withInstance]
  split_ifs <;> exact hport

/-- The file of an open has a context when the state of the instance is looked at. -/
theorem isSome_fileCtx_prepared : ((prepared sha256 state input).fileCtx input.file).isSome := by
  rw [prepared, FilterState.fileCtx_withInstance, FilterState.isSome_fileCtx_setFileId,
    FilterState.isSome_fileCtx_setFileId, FilterState.isSome_fileCtx_setAuthorization]
  exact FilterState.isSome_fileCtx_withCtx state input.file

/-- The identifier in a request is the hash of the name. -/
theorem driverRequestFor_prepared (operation : KeysasFilterOperation) :
    driverRequestFor (prepared sha256 state input) input operation =
      ⟨operation.code,
        fileContent (sha256.hash (bytesOfUnits input.fileName)) input.fileName⟩ := by
  have hfileId : (prepared sha256 state input).fileId input.file =
      some (sha256.hash (bytesOfUnits input.fileName)) := by
    rw [prepared, FilterState.fileId, FilterState.fileCtx_withInstance]
    refine FilterState.fileId_setFileId _ _ ?_ _
    rw [FilterState.isSome_fileCtx_setFileId, FilterState.isSome_fileCtx_setAuthorization]
    exact FilterState.isSome_fileCtx_withCtx state input.file
  rw [driverRequestFor, hfileId]
  rfl

omit [DecidableEq ν] in
theorem run_keysasGetFileNameHash (hfree : (state.fileId input.file).isNone = true)
    (hallocate : input.calls.allocateHash = true) (hhash : input.calls.hash = true) :
    (keysasGetFileNameHash sha256 input).run state =
      ⟨[], (state.setFileId input.file (List.replicate 32 0)).setFileId input.file
        (sha256.hash (bytesOfUnits input.fileName)), .ok ()⟩ := by
  rw [keysasGetFileNameHash, Program.run_get_bind, Program.run_require_bind, if_pos hfree,
    Program.run_require_bind, if_pos hallocate, Program.run_modify_bind, Program.run_require_bind,
    if_pos hhash, Program.run_modify]

omit [DecidableEq ν] in
/-- A file name that cannot be hashed ends the handler early. -/
theorem exists_run_keysasGetFileNameHash
    (hfails : ((state.fileId input.file).isNone && input.calls.allocateHash && input.calls.hash) =
      false) :
    ∃ after, (keysasGetFileNameHash sha256 input).run state = ⟨[], after, .error ()⟩ := by
  rw [keysasGetFileNameHash, Program.run_get_bind, Program.run_require_bind]
  split_ifs with hfree
  swap
  · exact ⟨_, rfl⟩
  rw [Program.run_require_bind]
  split_ifs with hallocate
  swap
  · exact ⟨_, rfl⟩
  rw [Program.run_modify_bind, Program.run_require_bind]
  split_ifs with hhash
  swap
  · exact ⟨_, rfl⟩
  simp [hfree, hallocate, hhash] at hfails

/-- The part of the handler for a file that is not known, when no call fails before the switch over
the state of the instance. -/
theorem run_authorizeFileOnce_judged (hunknown : state.authorization input.file = .unknown)
    (hprepares : prepares state input = true) :
    (authorizeFileOnce sha256 input).run (state.withCtx input.file) =
      ⟨(instanceResult (prepared sha256 state input) input).1,
        (prepared sha256 state input).setAuthorization input.file
          (instanceResult (prepared sha256 state input) input).2, .ok ()⟩ := by
  simp only [prepares, Bool.and_eq_true] at hprepares
  obtain ⟨⟨⟨⟨hwrite, hfree⟩, hallocate⟩, hhash⟩, hinstance⟩ := hprepares
  have hfound : (state.withCtx input.file).authorization input.file = .unknown := by
    rwa [FilterState.authorization_withCtx]
  rw [authorizeFileOnce, Program.run_get_bind, if_pos hfound, Program.run_require_bind,
    if_pos hwrite, Program.run_get_bind, if_pos hfound, initializeFile, Program.run_modify_bind]
  have hpending : (((state.withCtx input.file).setAuthorization input.file .pending).fileId
      input.file).isNone = true := by
    rwa [FilterState.fileId_setAuthorization, FilterState.fileId_withCtx]
  rw [Program.run_bind, run_keysasGetFileNameHash hpending hallocate hhash]
  simp only [findInstanceContext, Program.run_bind, hinstance, Program.require, if_pos,
    Program.run_ofExcept, Program.run_modify, run_authorizeByInstance]
  rfl

/-- A file that is not known gets the authorization that the state of the instance leads to. -/
theorem run_kfPostCreateHandler_judged (hlooks : looksUp state input = true)
    (hunknown : state.authorization input.file = .unknown)
    (hprepares : prepares state input = true) :
    (kfPostCreateHandler sha256 input).run state =
      ⟨(instanceResult (prepared sha256 state input) input).1,
        (prepared sha256 state input).setAuthorization input.file
          (instanceResult (prepared sha256 state input) input).2,
        .ok (decide ((instanceResult (prepared sha256 state input) input).2 ≠ .block))⟩ := by
  rw [run_kfPostCreateHandler_of_looksUp hlooks, Program.run_bind,
    run_authorizeFileOnce_judged hunknown hprepares]
  simp [Ending.after, FilterState.authorization_setAuthorization _ _ isSome_fileCtx_prepared]

/-- The part of the handler for a file that is not known, when a call fails before the switch over
the state of the instance. -/
theorem exists_run_authorizeFileOnce (hunknown : state.authorization input.file = .unknown)
    (hfails : prepares state input = false) :
    ∃ after, (authorizeFileOnce sha256 input).run (state.withCtx input.file) =
      ⟨[], after, .error ()⟩ := by
  have hfound : (state.withCtx input.file).authorization input.file = .unknown := by
    rwa [FilterState.authorization_withCtx]
  rw [authorizeFileOnce, Program.run_get_bind, if_pos hfound, Program.run_require_bind]
  split_ifs with hwrite
  swap
  · exact ⟨_, rfl⟩
  rw [Program.run_get_bind, if_pos hfound, initializeFile, Program.run_modify_bind,
    Program.run_bind]
  set pending := (state.withCtx input.file).setAuthorization input.file .pending with hpending
  have hfileId : pending.fileId input.file = state.fileId input.file := by
    rw [hpending, FilterState.fileId_setAuthorization, FilterState.fileId_withCtx]
  by_cases hname : ((pending.fileId input.file).isNone && input.calls.allocateHash &&
      input.calls.hash) = true
  swap
  · obtain ⟨after, hrun⟩ :
        ∃ after, (keysasGetFileNameHash sha256 input).run pending = ⟨[], after, .error ()⟩ :=
      exists_run_keysasGetFileNameHash (Bool.eq_false_of_not_eq_true hname)
    exact ⟨after, by rw [hrun]⟩
  have hinstance : input.calls.findInstanceContext = false := by
    simpa [prepares, hwrite, ← hfileId, hname] using hfails
  simp only [Bool.and_eq_true] at hname
  rw [run_keysasGetFileNameHash hname.1.1 hname.1.2 hname.2]
  simp only [findInstanceContext, Program.run_bind, hinstance, Program.require,
    Program.run_ofExcept]
  exact ⟨_, rfl⟩

/-- What fails before the handler looks at the authorization of the file leaves at most a new
context. -/
theorem exists_run_of_not_looksUp (hlooks : looksUp state input = false) :
    ∃ after, (kfPostCreateHandler sha256 input).run state = ⟨[], after, .error ()⟩ ∧
      (after = state ∨ after = state.insertCtx none ∨ after = state.withCtx input.file) := by
  rw [kfPostCreateHandler, Program.run_require_bind]
  split_ifs with hcreated
  swap
  · exact ⟨state, rfl, .inl rfl⟩
  rw [Program.run_require_bind]
  split_ifs with hname
  swap
  · exact ⟨state, rfl, .inl rfl⟩
  rw [Program.run_bind]
  by_cases hfinds : findSucceeds state input.calls.find input.file = true
  swap
  · obtain ⟨after, hfind, hafter⟩ :=
      exists_run_findFileContext (Bool.eq_false_of_not_eq_true hfinds)
    exact ⟨after, by rw [hfind], hafter.imp_right .inl⟩
  have hread : input.calls.acquireRead = false := by
    simpa [looksUp, hcreated, hname, hfinds] using hlooks
  rw [run_findFileContext hfinds]
  simp only [Program.run_require_bind, hread]
  exact ⟨_, rfl, .inr (.inr rfl)⟩

/-- Whatever fails before the switch over the state of the instance lets the open through, without
a message. -/
theorem exists_run_of_leavesEarly
    (hearly : looksUp state input = false ∨
      state.authorization input.file = .unknown ∧ prepares state input = false) :
    ∃ after, (kfPostCreateHandler sha256 input).run state = ⟨[], after, .error ()⟩ := by
  by_cases hlooks : looksUp state input = true
  · obtain ⟨hunknown, hfails⟩ := hearly.resolve_left (by simp [hlooks])
    obtain ⟨after, honce⟩ :
        ∃ after, (authorizeFileOnce sha256 input).run (state.withCtx input.file) =
          ⟨[], after, .error ()⟩ := exists_run_authorizeFileOnce hunknown hfails
    exact ⟨after, by rw [run_kfPostCreateHandler_of_looksUp hlooks, Program.run_bind, honce]⟩
  · exact (exists_run_of_not_looksUp (Bool.eq_false_of_not_eq_true hlooks)).imp fun _ ↦ And.left

/-- A file that is not known stays so when its context cannot be locked for writing. -/
theorem run_kfPostCreateHandler_unlocked (hlooks : looksUp state input = true)
    (hunknown : state.authorization input.file = .unknown)
    (hwrite : input.calls.acquireWrite = false) :
    (kfPostCreateHandler sha256 input).run state = ⟨[], state.withCtx input.file, .error ()⟩ := by
  have hfound : (state.withCtx input.file).authorization input.file = .unknown := by
    rwa [FilterState.authorization_withCtx]
  have honce : (authorizeFileOnce sha256 input).run (state.withCtx input.file) =
      ⟨[], state.withCtx input.file, .error ()⟩ := by
    rw [authorizeFileOnce, Program.run_get_bind, if_pos hfound, Program.run_require_bind,
      if_neg (by simp [hwrite])]
  rw [run_kfPostCreateHandler_of_looksUp hlooks, Program.run_bind, honce]

/-- What is not said about the file of an open holds in the state in which the switch over the state
of the instance is reached. -/
theorem AllCtx.prepared {property : φ → KeysasAuthorization → Prop} (hall : AllCtx property state)
    (hunknown : ∀ file, property file .unknown) :
    AllCtx (fun other auth ↦ other ≠ input.file → property other auth)
      (prepared sha256 state input) := by
  have hothers : AllCtx (fun other auth ↦ other ≠ input.file → property other auth) state :=
    hall.mono fun _ _ hproperty _ ↦ hproperty
  have hfound := hothers.withCtx (fun file _ ↦ hunknown file) input.file
  refine (((hfound.setAuthorization ?_).setFileId _).setFileId _).withInstance _
  exact fun hself ↦ absurd rfl hself

/-! ### What the handlers keep -/

section Keeps

open Program

variable {property : φ → KeysasAuthorization → Prop}

omit [DecidableEq ν] in
/-- A new context is unknown. -/
theorem keeps_findFileContext (hunknown : ∀ file, property file .unknown) (calls : FindCalls)
    (file : φ) :
    (findFileContext calls file : Program Message (FilterState ν φ) Unit Unit).Keeps
      (AllCtx property) := by
  refine keeps_bind (keeps_require _ _) fun _ ↦ keeps_bind keeps_get fun _ ↦
    keeps_ite ?_ (keeps_pure _)
  refine keeps_bind (keeps_require _ _) fun _ ↦ keeps_bind (keeps_require _ _) fun _ ↦
    keeps_bind (keeps_modify ?_) fun _ ↦ keeps_require _ _
  exact fun _ hall ↦ hall.insertCtx hunknown _

omit [DecidableEq ν] in
/-- A scanned file is pending or has the authorization of the reply. -/
theorem keeps_keysasScanFileInUserMode {operation : KeysasFilterOperation}
    (hpending : property input.file .pending)
    (hreply : ∀ content,
      property input.file (.ofU8 (input.daemon.answer ⟨operation.code, content⟩))) :
    (keysasScanFileInUserMode input operation :
      Program Message (FilterState ν φ) Unit Unit).Keeps (AllCtx property) := by
  refine keeps_bind (keeps_modify fun _ hall ↦ hall.setAuthorization hpending) fun _ ↦
    keeps_bind keeps_get fun _ ↦ keeps_ite ?_ (keeps_pure _)
  refine keeps_bind (keeps_emit _) fun _ ↦ keeps_ite ?_ (keeps_pure _)
  refine keeps_bind (keeps_emit _) fun _ ↦ keeps_modify fun _ hall ↦ ?_
  exact hall.setAuthorization (hreply _)

/-- The handler makes a context unknown, pending, blocked or readable. -/
theorem keeps_kfPostCreateHandler (hunknown : ∀ file, property file .unknown)
    (hpending : property input.file .pending) (hblock : property input.file .block)
    (hread : property input.file .allowRead) :
    (kfPostCreateHandler sha256 input).Keeps (AllCtx property) := by
  have hreplied : ∀ content, property input.file
      (.ofU8 (input.daemon.answer ⟨KeysasFilterOperation.scanFile.code, content⟩)) := by
    intro content
    rw [ofU8_answer_scanFile]
    rcases input.daemon.scanFile_cases (scannedFile content) with hreply | hreply
    · rwa [hreply]
    · rwa [hreply]
  have hasked : ∀ content, property input.file
      (.ofU8 (input.daemon.answer ⟨KeysasFilterOperation.userAllowFile.code, content⟩)) := by
    intro content
    rwa [ofU8_answer_userAllowFile]
  have hhash : (keysasGetFileNameHash sha256 input).Keeps (AllCtx property) := by
    refine keeps_bind keeps_get fun _ ↦ keeps_bind (keeps_require _ _) fun _ ↦
      keeps_bind (keeps_require _ _) fun _ ↦ keeps_bind (keeps_modify ?_) fun _ ↦
        keeps_bind (keeps_require _ _) fun _ ↦ keeps_modify ?_
    · exact fun _ hall ↦ hall.setFileId _
    · exact fun _ hall ↦ hall.setFileId _
  have hinstance : (findInstanceContext input.calls.findInstanceContext input.volume :
      Program Message (FilterState ν φ) Unit Unit).Keeps (AllCtx property) := by
    exact keeps_bind (keeps_require _ _) fun _ ↦ keeps_modify fun _ hall ↦ hall.withInstance _
  have hswitch : (authorizeByInstance input).Keeps (AllCtx property) := by
    refine keeps_bind keeps_get fun state ↦ ?_
    split
    · exact keeps_modify fun _ hall ↦ hall.setAuthorization hblock
    · exact keeps_keysasScanFileInUserMode hpending hasked
    · exact keeps_keysasScanFileInUserMode hpending hreplied
    · exact keeps_modify fun _ hall ↦ hall.setAuthorization hread
    · exact keeps_modify fun _ hall ↦ hall.setAuthorization hblock
  have hinitialize : (initializeFile sha256 input).Keeps (AllCtx property) := by
    refine keeps_bind (keeps_modify fun _ hall ↦ hall.setAuthorization hpending) fun _ ↦ ?_
    exact keeps_bind hhash fun _ ↦ keeps_bind hinstance fun _ ↦ hswitch
  have honce : (authorizeFileOnce sha256 input).Keeps (AllCtx property) := by
    refine keeps_bind keeps_get fun _ ↦ keeps_ite ?_ (keeps_pure _)
    refine keeps_bind (keeps_require _ _) fun _ ↦ keeps_bind keeps_get fun _ ↦ ?_
    exact keeps_ite hinitialize (keeps_pure _)
  refine keeps_bind (keeps_require _ _) fun _ ↦ keeps_bind (keeps_require _ _) fun _ ↦
    keeps_bind (keeps_findFileContext hunknown _ _) fun _ ↦
      keeps_bind (keeps_require _ _) fun _ ↦ keeps_bind honce fun _ ↦ ?_
  exact keeps_bind keeps_get fun _ ↦ keeps_pure _

/-- A write makes at most a new context. -/
theorem keeps_kfPreWriteHandler (hunknown : ∀ file, property file .unknown)
    (write : FileWrite ν φ) : (kfPreWriteHandler write).Keeps (AllCtx property) := by
  refine keeps_bind (keeps_require _ _) fun _ ↦ keeps_ite (keeps_pure _) ?_
  refine keeps_bind keeps_get fun _ ↦ keeps_bind (keeps_require _ _) fun _ ↦
    keeps_bind (keeps_require _ _) fun _ ↦ keeps_ite (keeps_pure _) ?_
  refine keeps_bind (keeps_findFileContext hunknown _ _) fun _ ↦
    keeps_bind (keeps_require _ _) fun _ ↦ keeps_bind keeps_get fun _ ↦ ?_
  exact keeps_ite (keeps_pure _) (keeps_pure _)

end Keeps

/-! ### Writing to a file -/

/-- The volume lets its files be written to. -/
def writableVolume (state : FilterState ν φ) (volume : ν) : Bool :=
  state.instances.lookup volume = some .allowAll ∨
    state.instances.lookup volume = some .allowWarning

/-- The handler does not come to a decision about the write: it is not filtered, or a call on the
way fails. -/
def leavesWriteEarly (state : FilterState ν φ) (write : FileWrite ν φ) : Bool :=
  !write.calls.getFileNameInformation || write.data.skipsWrite ||
    !(write.calls.getInstanceContext && (state.instances.lookup write.volume).isSome) ||
    !write.calls.acquireInstance ||
    writableVolume state write.volume &&
      !(findSucceeds state write.calls.find write.file && write.calls.acquireFile)

theorem getD_unknown_ne_iff {auth : Option KeysasAuthorization} :
    auth.getD .unknown ≠ .allowAll ∧ auth.getD .unknown ≠ .allowWarning ↔
      auth ≠ some .allowAll ∧ auth ≠ some .allowWarning := by
  cases auth with
  | none => simp
  | some auth => simp

/-- A write goes through when the handler does not come to a decision, and when the volume lets its
files be written to and everything is allowed for the file. -/
theorem kfPreWriteHandler_passes_iff {write : FileWrite ν φ} :
    ((kfPreWriteHandler write).run state).value ≠ .ok .complete ↔
      leavesWriteEarly state write = true ∨
        writableVolume state write.volume = true ∧ state.authorization write.file = .allowAll := by
  rw [kfPreWriteHandler, Program.run_require_bind]
  by_cases hname : write.calls.getFileNameInformation = true
  swap
  · simp [leavesWriteEarly, hname]
  rw [if_pos hname]
  by_cases hskips : write.data.skipsWrite = true
  · simp [leavesWriteEarly, hskips]
  rw [if_neg hskips, Program.run_get_bind, Program.run_require_bind]
  by_cases hinstance : (write.calls.getInstanceContext &&
      (state.instances.lookup write.volume).isSome) = true
  swap
  · simp [leavesWriteEarly, hinstance]
  rw [if_pos hinstance, Program.run_require_bind]
  by_cases hlock : write.calls.acquireInstance = true
  swap
  · simp [leavesWriteEarly, hlock]
  rw [if_pos hlock]
  by_cases hwritable : writableVolume state write.volume = true
  swap
  · have hblocked := hwritable
    simp only [writableVolume, decide_eq_true_eq, not_or] at hblocked
    rw [if_pos (getD_unknown_ne_iff.mpr hblocked), Program.run_pure]
    simp [leavesWriteEarly, hname, hskips, hinstance, hlock, hwritable]
  have hallowed := hwritable
  simp only [writableVolume, decide_eq_true_eq] at hallowed
  rw [if_neg fun hblocked ↦ not_or.mpr (getD_unknown_ne_iff.mp hblocked) hallowed, Program.run_bind]
  by_cases hfinds : findSucceeds state write.calls.find write.file = true
  swap
  · obtain ⟨after, hfind, -⟩ :=
      exists_run_findFileContext (Bool.eq_false_of_not_eq_true hfinds)
    rw [hfind]
    simp [leavesWriteEarly, hwritable, hfinds]
  rw [run_findFileContext hfinds]
  by_cases hacquire : write.calls.acquireFile = true
  swap
  · simp [leavesWriteEarly, hwritable, hacquire]
  simp only [Program.run_require_bind, if_pos hacquire, Program.run_get_bind,
    FilterState.authorization_withCtx, Program.run_ite]
  by_cases hall : state.authorization write.file = .allowAll
  · simp [hall, hwritable]
  · simp [leavesWriteEarly, hname, hskips, hinstance, hlock, hfinds, hacquire, hall]

end Handlers

/-! ### What the daemon says -/

/-- The authorization in the reply among the messages. -/
def repliedAuth (messages : List Message) : Option KeysasAuthorization :=
  messages.findSome? fun message ↦
    match message with
    | .replied result => some (.ofU8 result)
    | .sent _ => none

/-- What the daemon says about a file in the course of an event: in a reply, or in an update that
reaches the context of the file. -/
def saysOf [DecidableEq φ] (file : φ) (entry : Event ν φ × Reaction φ) :
    Option KeysasAuthorization :=
  match entry.1 with
  | .postCreate input => if input.file = file then repliedAuth entry.2.messages else none
  | .updateFileAuth _ auth => if entry.2.updated = some file then some auth.inKernel else none
  | _ => none

/-- Apart from the replies of the daemon, only an update says something about a file. -/
theorem exists_update_of_saysOf [DecidableEq φ] {file : φ} {event : Event ν φ}
    (hopens : ∀ input, event ≠ .postCreate input) {reaction : Reaction φ}
    {auth : KeysasAuthorization} (hsaid : saysOf file (event, reaction) = some auth) :
    ∃ fileId update, event = .updateFileAuth fileId update ∧ auth = update.inKernel := by
  cases event with
  | postCreate input => exact absurd rfl (hopens input)
  | updateFileAuth fileId update =>
    simp only [saysOf, Option.ite_none_right_eq_some, Option.some.injEq] at hsaid
    exact ⟨fileId, update, rfl, hsaid.2.symm⟩
  | _ => cases hsaid

/-- An event that does not open a file keeps a property of all contexts. Assumes: new contexts have
the property, and what an update of the daemon says has it for the file that it reaches. -/
theorem AllCtx.step [DecidableEq ν] [DecidableEq φ] {sha256 : Sha256}
    {property : φ → KeysasAuthorization → Prop} {state : FilterState ν φ}
    (hall : AllCtx property state) (hunknown : ∀ file, property file .unknown) {event : Event ν φ}
    (hopens : ∀ input, event ≠ .postCreate input)
    (hsaid : ∀ file auth, saysOf file (event, (minifilterStep sha256 state event).2) = some auth →
      property file auth) :
    AllCtx property (minifilterStep sha256 state event).1 := by
  cases event with
  | portConnect => exact hall
  | portDisconnect => exact hall
  | instanceSetup volume auth => exact hall
  | postCreate input => exact absurd rfl (hopens input)
  | preWrite write => exact keeps_kfPreWriteHandler hunknown write state hall
  | updateFileAuth fileId auth =>
    rw [minifilterStep] at hsaid ⊢
    rcases hwalk : Minifilter.walkFileAuth fileId (.ofU8 auth.toKernelU8) state.fileCtxList with
      _ | walked
    · exact hall
    obtain ⟨fileCtxList, updated⟩ := walked
    refine AllCtx.walkFileAuth hwalk hall fun file hupdated ↦ ?_
    rw [FileAuthorization.ofU8_toKernelU8]
    exact hsaid file auth.inKernel (by simp [saysOf, hwalk, hupdated])
  | updateUsbAuth volume auth =>
    rw [minifilterStep]
    split_ifs
    · exact hall
    · exact hall

/-! ### A volume with one file -/

/-- All calls succeed. -/
def openCalls : OpenCalls where
  getInstanceContext := true
  acquireInstance := true
  created := true
  getFileNameInformation := true
  find := ⟨true, true, true, true⟩
  acquireRead := true
  acquireWrite := true
  allocateHash := true
  hash := true
  findInstanceContext := true
  allocateRequest := true
  sendMessage := true

/-- A regular file. -/
def regularFile : CallbackData where
  userProcess := false
  isDirectory := false
  emptyName := false
  hasRelatedFileObject := false
  fileObjectFlags := 0
  options := 0
  operationFlags := 0

/-- A daemon that answers every question about a file in the same way. -/
def steadyDaemon (authorized : Bool) : Daemon where
  authorizeFile _ _ := .ok authorized
  usbAuthByVolume _ := none

/-- The file 1 of the volume 1 is opened. -/
def openOne (authorized : Bool) : FileOpen ℕ ℕ where
  volume := 1
  file := 1
  fileName := [0x45, 0x3A, 0x5C, 0x61]
  data := regularFile
  daemon := steadyDaemon authorized
  calls := openCalls

end Keysas.Minifilter
