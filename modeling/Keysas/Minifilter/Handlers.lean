import Keysas.Minifilter.Messages
import Keysas.Runs.HistoryRun
import Keysas.Runs.TracedProgram
import Keysas.Store.KeyedTable

/-!
# Handlers of the minifilter

The minifilter keeps an authorization for each volume that it is attached to and a context for each
file that was looked at. `kfPreCreateHandler` and `kfPostCreateHandler` stand around the opening of
a file, `kfPreWriteHandler` before a write, and `KeysasPortNotify` takes the updates of the daemon.

A handler holds the lock of the file context from its first look at the state of the file to its
last, so that one call of a handler is one step. The calls of the kernel that a handler makes are
parameters of the call: each succeeds or fails. A handler that fails on the way goes to its label
`cleanup` and lets the operation through, and this is the error of its `Program`. The trace has the
requests that are sent and the replies.

File contexts are never torn down here. A context whose `FltSetFileContext` fails stays in the list
without a file.
-/

set_option autoImplicit false
set_option relaxedAutoImplicit false

namespace Keysas.Minifilter

open Crypto Firewall Runs Store

/-! ### The state of the minifilter -/

/-- `KEYSAS_FILE_CTX`, with the file that it is attached to. -/
structure FileCtx (φ : Type) where
  attachedTo : Option φ
  authorization : KeysasAuthorization
  fileId : Option (List UInt8)

/-- The volumes and files are of any types. -/
structure FilterState (ν φ : Type) where
  /-- The daemon is connected: `ClientPort` is not null. -/
  clientPort : Bool
  /-- The authorizations in the instance contexts. -/
  instances : Table ν KeysasAuthorization
  /-- `FileCtxListHead`, the newest context first. -/
  fileCtxList : List (FileCtx φ)

/-- What the minifilter and the daemon send to each other in the course of a handler. -/
inductive Message where
  | sent (request : DriverRequest)
  | replied (result : UInt8)
  deriving DecidableEq

variable {ν φ : Type} [DecidableEq ν] [DecidableEq φ]

namespace FilterState

/-- The minifilter after `DriverEntry`. -/
def init : FilterState ν φ := ⟨false, ∅, []⟩

/-- The context of a file. -/
def fileCtx (state : FilterState ν φ) (file : φ) : Option (FileCtx φ) :=
  state.fileCtxList.find? fun ctx ↦ ctx.attachedTo = some file

/-- The authorization in the context of a file. -/
def authorization (state : FilterState ν φ) (file : φ) : KeysasAuthorization :=
  ((state.fileCtx file).map FileCtx.authorization).getD .unknown

/-- The identifier in the context of a file. -/
def fileId (state : FilterState ν φ) (file : φ) : Option (List UInt8) :=
  (state.fileCtx file).bind FileCtx.fileId

/-- Change the context of a file. -/
def modifyCtx (state : FilterState ν φ) (file : φ) (change : FileCtx φ → FileCtx φ) :
    FilterState ν φ :=
  { state with
    fileCtxList := state.fileCtxList.map fun ctx ↦
      if ctx.attachedTo = some file then change ctx else ctx }

def setAuthorization (state : FilterState ν φ) (file : φ) (auth : KeysasAuthorization) :
    FilterState ν φ :=
  state.modifyCtx file fun ctx ↦ { ctx with authorization := auth }

def setFileId (state : FilterState ν φ) (file : φ) (fileId : List UInt8) : FilterState ν φ :=
  state.modifyCtx file fun ctx ↦ { ctx with fileId := some fileId }

/-- A new context at the head of the list. -/
def insertCtx (state : FilterState ν φ) (attachedTo : Option φ) : FilterState ν φ :=
  { state with fileCtxList := ⟨attachedTo, .unknown, none⟩ :: state.fileCtxList }

/-- The state in which a volume has a context. -/
def withInstance (state : FilterState ν φ) (volume : ν) : FilterState ν φ :=
  if (state.instances.lookup volume).isNone then
    { state with instances := state.instances.insert volume .unknown }
  else state

end FilterState

/-! ### Contexts -/

/-- Which calls of `FindFileContext` succeed. -/
structure FindCalls where
  /-- `FltGetFileContext` finds the context, or finds that there is none. -/
  getFileContext : Bool
  allocateContext : Bool
  allocateResource : Bool
  setFileContext : Bool

/-- `FindFileContext`: a new context is put into the list before it is attached to the file. -/
def findFileContext (calls : FindCalls) (file : φ) :
    Program Message (FilterState ν φ) Unit Unit := do
  Program.require calls.getFileContext ()
  let state ← Program.get
  if (state.fileCtx file).isNone then
    Program.require calls.allocateContext ()
    Program.require calls.allocateResource ()
    Program.modify fun state ↦ state.insertCtx (if calls.setFileContext then some file else none)
    Program.require calls.setFileContext ()
  else return ()

/-- `FindInstanceContext`: a volume without a context gets one without an authorization. -/
def findInstanceContext (succeeds : Bool) (volume : ν) :
    Program Message (FilterState ν φ) Unit Unit := do
  Program.require succeeds ()
  Program.modify fun state ↦ state.withInstance volume

/-! ### Opening a file -/

/-- What a handler sees of the operation that it is called for. -/
structure CallbackData where
  /-- The operation is one of the daemon. -/
  userProcess : Bool
  isDirectory : Bool
  /-- The file object has no name of its own. -/
  emptyName : Bool
  hasRelatedFileObject : Bool
  fileObjectFlags : UInt32
  /-- The field `Options` of the parameters of a create. Where it lies, a write has its key. -/
  options : UInt32
  operationFlags : UInt8

def foVolumeOpen : UInt32 := 0x400000

def fileDirectoryFile : UInt32 := 1

/-- `SL_OPEN_TARGET_DIRECTORY`. For a write the same bit is `SL_WRITE_THROUGH`. -/
def slOpenTargetDirectory : UInt8 := 4

def slOpenPagingFile : UInt8 := 2

/-- The operation is about a directory or a volume by its file object. -/
def CallbackData.isDirectoryOrVolume (data : CallbackData) : Bool :=
  data.emptyName && !data.hasRelatedFileObject || data.isDirectory

/-- Which calls succeed while a file is opened. -/
structure OpenCalls where
  getInstanceContext : Bool
  acquireInstance : Bool
  /-- The file system creates or opens the file. -/
  created : Bool
  getFileNameInformation : Bool
  find : FindCalls
  acquireRead : Bool
  acquireWrite : Bool
  allocateHash : Bool
  hash : Bool
  findInstanceContext : Bool
  allocateRequest : Bool
  sendMessage : Bool

/-- A file is opened: the name that `IoQueryFileDosDeviceName` gives, and what the daemon answers.
-/
structure FileOpen (ν φ : Type) where
  volume : ν
  file : φ
  fileName : List UInt16
  data : CallbackData
  daemon : Daemon
  calls : OpenCalls

/-- The result of a handler that is called before its operation. -/
inductive PreopStatus where
  | successWithCallback
  | successNoCallback
  | complete
  deriving DecidableEq

/-- `KfPreCreateHandler`. -/
def kfPreCreateHandler (state : FilterState ν φ) (input : FileOpen ν φ) : PreopStatus :=
  if input.data.userProcess then .successNoCallback
  else if input.data.isDirectoryOrVolume then .successNoCallback
  else if input.data.options &&& fileDirectoryFile ≠ 0 then .successNoCallback
  else if input.data.operationFlags &&& slOpenTargetDirectory ≠ 0 then .successNoCallback
  else if input.data.operationFlags &&& slOpenPagingFile ≠ 0 then .successNoCallback
  else if input.data.fileObjectFlags &&& foVolumeOpen ≠ 0 then .successNoCallback
  else if !input.calls.getInstanceContext then .successNoCallback
  else
    match state.instances.lookup input.volume with
    | none => .successNoCallback
    | some auth =>
      if !input.calls.acquireInstance then .successNoCallback
      else
        match auth with
        | .block => .complete
        | .allowAll => .successNoCallback
        | _ => .successWithCallback

variable (sha256 : Sha256)

/-- `KeysasGetFileNameHash`: the identifier of a file is the hash of its name. The buffer for it has
been allocated when the hash fails. -/
def keysasGetFileNameHash (input : FileOpen ν φ) :
    Program Message (FilterState ν φ) Unit Unit := do
  let state ← Program.get
  Program.require (state.fileId input.file).isNone ()
  Program.require input.calls.allocateHash ()
  Program.modify fun state ↦ state.setFileId input.file (List.replicate 32 0)
  Program.require input.calls.hash ()
  Program.modify fun state ↦
    state.setFileId input.file (sha256.hash (bytesOfUnits input.fileName))

/-- `KEYSAS_REQUEST_BUFFER_SIZE`, in units of 16 bits. -/
def keysasRequestBufferSize : ℕ := 1024

/-- `RtlStringCbCopyUnicodeString` copies the name behind the identifier, with a zero unit. -/
def nameFits (fileName : List UInt16) : Bool :=
  2 * fileName.length + 2 ≤ 2 * keysasRequestBufferSize - 32

/-- The request of `KeysasScanFileInUserMode`. -/
def driverRequestFor (state : FilterState ν φ) (input : FileOpen ν φ)
    (operation : KeysasFilterOperation) : DriverRequest :=
  ⟨operation.code, fileContent ((state.fileId input.file).getD []) input.fileName⟩

/-- `KeysasScanFileInUserMode`, whose status is not looked at: without a reply the file stays
pending. -/
def keysasScanFileInUserMode (input : FileOpen ν φ) (operation : KeysasFilterOperation) :
    Program Message (FilterState ν φ) Unit Unit := do
  Program.modify fun state ↦ state.setAuthorization input.file .pending
  let state ← Program.get
  if state.clientPort && input.calls.allocateRequest && nameFits input.fileName then
    let request := driverRequestFor state input operation
    Program.emit (.sent request)
    if input.calls.sendMessage then
      Program.emit (.replied (input.daemon.answer request))
      Program.modify fun state ↦
        state.setAuthorization input.file (.ofU8 (input.daemon.answer request))
    else return ()
  else return ()

/-- The switch over the state of the instance in `KfPostCreateHandler`. -/
def authorizeByInstance (input : FileOpen ν φ) : Program Message (FilterState ν φ) Unit Unit := do
  let state ← Program.get
  match (state.instances.lookup input.volume).getD .unknown with
  | .block => Program.modify fun state ↦ state.setAuthorization input.file .block
  | .allowWarning => keysasScanFileInUserMode input .userAllowFile
  | .allowRead => keysasScanFileInUserMode input .scanFile
  | .allowAll => Program.modify fun state ↦ state.setAuthorization input.file .allowRead
  -- An instance that is unknown or pending should not happen.
  | _ => Program.modify fun state ↦ state.setAuthorization input.file .block

/-- The part of `KfPostCreateHandler` for a file that is not known yet: the file is pending from
here on, until it is authorized. -/
def initializeFile (input : FileOpen ν φ) : Program Message (FilterState ν φ) Unit Unit := do
  Program.modify fun state ↦ state.setAuthorization input.file .pending
  keysasGetFileNameHash sha256 input
  findInstanceContext input.calls.findInstanceContext input.volume
  authorizeByInstance input

/-- The look of `KfPostCreateHandler` at the authorization of the file. -/
def authorizeFileOnce (input : FileOpen ν φ) : Program Message (FilterState ν φ) Unit Unit := do
  let state ← Program.get
  if state.authorization input.file = .unknown then
    Program.require input.calls.acquireWrite ()
    -- It is looked at once more under the second lock.
    let state ← Program.get
    if state.authorization input.file = .unknown then initializeFile sha256 input
    else return ()
  else return ()

/-- `KfPostCreateHandler`: whether the open goes through, where the handler does not leave early. -/
def kfPostCreateHandler (input : FileOpen ν φ) :
    Program Message (FilterState ν φ) Unit Bool := do
  Program.require input.calls.created ()
  Program.require input.calls.getFileNameInformation ()
  findFileContext input.calls.find input.file
  Program.require input.calls.acquireRead ()
  authorizeFileOnce sha256 input
  let state ← Program.get
  return decide (state.authorization input.file ≠ .block)

/-! ### Writing to a file -/

/-- Which calls succeed before a write. -/
structure WriteCalls where
  getFileNameInformation : Bool
  getInstanceContext : Bool
  acquireInstance : Bool
  find : FindCalls
  acquireFile : Bool

/-- A write to a file. -/
structure FileWrite (ν φ : Type) where
  volume : ν
  file : φ
  data : CallbackData
  calls : WriteCalls

/-- The filter of `KfPreWriteHandler` lets the write through without a look at its file. The flag of
a volume is compared with 1, which it never is. -/
def CallbackData.skipsWrite (data : CallbackData) : Bool :=
  data.userProcess || (data.fileObjectFlags &&& foVolumeOpen = 1 || data.isDirectoryOrVolume) ||
    data.options &&& fileDirectoryFile ≠ 0 || data.operationFlags &&& slOpenTargetDirectory ≠ 0

/-- `KfPreWriteHandler`. -/
def kfPreWriteHandler (input : FileWrite ν φ) :
    Program Message (FilterState ν φ) Unit PreopStatus := do
  Program.require input.calls.getFileNameInformation ()
  if input.data.skipsWrite then return .successNoCallback
  else
    let state ← Program.get
    Program.require (input.calls.getInstanceContext &&
      (state.instances.lookup input.volume).isSome) ()
    Program.require input.calls.acquireInstance ()
    let auth := (state.instances.lookup input.volume).getD .unknown
    if auth ≠ .allowAll ∧ auth ≠ .allowWarning then return .complete
    else
      findFileContext input.calls.find input.file
      Program.require input.calls.acquireFile ()
      let state ← Program.get
      if state.authorization input.file ≠ .allowAll then return .complete
      else return .successNoCallback

/-! ### Updates of the daemon -/

/-- The walk of `KeysasPortNotify` through the list: it changes the first context with the
identifier, and gives the file of it. A context without an identifier is an access to null, which
ends the walk and stops the machine. -/
def walkFileAuth (fileId : List UInt8) (auth : KeysasAuthorization) :
    List (FileCtx φ) → Option (List (FileCtx φ) × Option φ)
  | [] => some ([], none)
  | ctx :: rest =>
    match ctx.fileId with
    | none => none
    | some id =>
      if id = fileId then some ({ ctx with authorization := auth } :: rest, ctx.attachedTo)
      else (walkFileAuth fileId auth rest).map fun walked ↦ (ctx :: walked.1, walked.2)

/-! ### Steps -/

/-- What happens to the minifilter. -/
inductive Event (ν φ : Type) where
  | portConnect
  | portDisconnect
  /-- `KfInstanceSetup` for a USB volume, with the authorization that it leaves. -/
  | instanceSetup (volume : ν) (auth : KeysasAuthorization)
  | postCreate (input : FileOpen ν φ)
  | preWrite (input : FileWrite ν φ)
  /-- `update_file_auth` of the daemon. -/
  | updateFileAuth (fileId : List UInt8) (auth : FileAuthorization)
  /-- `update_usb_auth` of the daemon, when the volume is found. -/
  | updateUsbAuth (volume : ν) (auth : UsbAuthorization)

/-- What an event leaves besides the state. -/
structure Reaction (φ : Type) where
  messages : List Message
  /-- The handler does not deny the operation. -/
  passes : Bool
  /-- The file whose context an update of the daemon has changed. -/
  updated : Option φ

/-- An event without a reaction. -/
def Reaction.silent : Reaction φ := ⟨[], true, none⟩

/-- One step of the minifilter. -/
def minifilterStep (state : FilterState ν φ) : Event ν φ → FilterState ν φ × Reaction φ
  | .portConnect => ({ state with clientPort := true }, .silent)
  | .portDisconnect => ({ state with clientPort := false }, .silent)
  | .instanceSetup volume auth =>
    ({ state with instances := state.instances.insert volume auth }, .silent)
  | .postCreate input =>
    let ending := (kfPostCreateHandler sha256 input).run state
    (ending.state, ⟨ending.trace, ending.value = .error () ∨ ending.value = .ok true, none⟩)
  | .preWrite input =>
    let ending := (kfPreWriteHandler input).run state
    (ending.state, ⟨ending.trace, ending.value ≠ .ok .complete, none⟩)
  | .updateFileAuth fileId auth =>
    match walkFileAuth fileId (.ofU8 auth.toKernelU8) state.fileCtxList with
    | none => (state, .silent)
    | some (fileCtxList, updated) =>
      ({ state with fileCtxList := fileCtxList }, ⟨[], true, updated⟩)
  | .updateUsbAuth volume auth =>
    if (state.instances.lookup volume).isSome then
      ({ state with instances := state.instances.insert volume (.ofU8 auth.toKernelU8) }, .silent)
    else (state, .silent)

/-- The runs of the minifilter whose steps satisfy a condition. -/
abbrev FilterRun (guard : FilterState ν φ → Event ν φ → Prop) :
    List (Event ν φ × Reaction φ) → FilterState ν φ → Prop :=
  Run (minifilterStep sha256) (fun _ state event ↦ guard state event) .init

end Keysas.Minifilter
