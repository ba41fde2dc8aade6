import Keysas.Runs.HistoryRun
import Keysas.Runs.TracedProgram
import Keysas.Rust.Text

/-!
# The udev event loop of keysas-io

keysas-io serves each websocket client with a thread that waits for block device events. An added
disk or partition is checked for a signature: an unsigned one is mounted and copied into the
station, a signed one receives the sanitized files. A removal forgets the product.

The thread keeps the products it has seen, by vendor, model and revision, and two lock files tell
the backend that it is busy. `handleEvent` is the body of the loop for one event. What the
surroundings answer while the event is handled is a parameter, `Outcomes`: the signature check, the
Yubikey challenge, the copies, the websocket and the lock files.

Every `?` of the source is an early return of the thread, and the trace records the calls that leave
the process: messages to the client, challenges, and the two device operations.
-/

set_option autoImplicit false
set_option relaxedAutoImplicit false

namespace Keysas.Io

open Runs RustStd

/-! ### Events and outcomes -/

/-- A udev block event: its action, its properties, and whether its device has a parent. -/
structure UdevEvent where
  action : Option OsString
  devtype : Option OsString
  idVendorId : Option OsString
  idModelId : Option OsString
  idRevision : Option OsString
  devname : Option OsString
  idSerial : Option OsString
  hasParent : Bool

/-- What the surroundings answer while one event is handled. -/
structure Outcomes where
  /-- The Yubikeys found before each message. -/
  listYubikey : ℕ → List String
  /-- Whether each message reaches the websocket. -/
  send : ℕ → Bool
  isSigned : Bool
  hmacChallenge : Option String
  copyDeviceIn : Bool
  moveDeviceOut : Bool
  /-- Whether the file operation of `busy_in` or `busy_out` succeeds. -/
  busy : Bool
  /-- Whether the file operation of `ready_in` or `ready_out` succeeds. -/
  ready : Bool

/-- The message with the known products and Yubikeys. -/
structure Usbkeys where
  usbIn : List String
  usbOut : List String
  usbUndef : List String
  /-- The `active` field of the Yubikey record. -/
  active : Bool
  /-- The `yubikeys` field of the Yubikey record. -/
  yubikeys : List String
  deriving DecidableEq

/-- The calls of the thread that act on its surroundings. -/
inductive Action where
  | send (keys : Usbkeys)
  | hmacChallenge (user : Option String)
  | copyDeviceIn (device : String)
  | moveDeviceOut (device : String)
  deriving DecidableEq

/-- Which of the lock directory and the two lock files exist. -/
structure LockFiles where
  varLockDir : Bool
  workingIn : Bool
  workingOut : Bool
  deriving DecidableEq

/-- The products seen so far and the lock files. -/
structure MonitorState where
  keysIn : List String
  keysOut : List String
  keysUndef : List String
  locks : LockFiles
  deriving DecidableEq

/-! ### Lock files -/

/-- `busy_in`: at most one file operation, which may fail. -/
def busyIn (succeeds : Bool) : Program Action MonitorState Unit Unit := do
  let state ← Program.get
  if !state.locks.varLockDir then
    Program.require succeeds ()
    Program.modify fun state ↦ { state with locks := { state.locks with varLockDir := true } }
  else if state.locks.workingOut then
    Program.require succeeds ()
    Program.modify fun state ↦ { state with locks := { state.locks with workingOut := false } }
  else if !state.locks.workingIn then
    Program.require succeeds ()
    Program.modify fun state ↦ { state with locks := { state.locks with workingIn := true } }

/-- `busy_out`. -/
def busyOut (succeeds : Bool) : Program Action MonitorState Unit Unit := do
  let state ← Program.get
  if !state.locks.varLockDir then
    Program.require succeeds ()
    Program.modify fun state ↦ { state with locks := { state.locks with varLockDir := true } }
  else if state.locks.workingIn then
    Program.require succeeds ()
    Program.modify fun state ↦ { state with locks := { state.locks with workingIn := false } }
  else if !state.locks.workingOut then
    Program.require succeeds ()
    Program.modify fun state ↦ { state with locks := { state.locks with workingOut := true } }

/-- `ready_in`. -/
def readyIn (succeeds : Bool) : Program Action MonitorState Unit Unit := do
  let state ← Program.get
  if state.locks.workingIn then
    Program.require succeeds ()
    Program.modify fun state ↦ { state with locks := { state.locks with workingIn := false } }

/-- `ready_out`. -/
def readyOut (succeeds : Bool) : Program Action MonitorState Unit Unit := do
  let state ← Program.get
  if state.locks.workingOut then
    Program.require succeeds ()
    Program.modify fun state ↦ { state with locks := { state.locks with workingOut := false } }

/-! ### Reading an event -/

/-- `format!("{}/{}/{}")` of the vendor, the model and the revision. -/
def productOf (vendor model revision : OsString) : String :=
  vendor.toStringLossy ++ "/" ++ model.toStringLossy ++ "/" ++ revision.toStringLossy

/-- `get_attr_udev`: the product of an event that has the three properties. -/
def getAttrUdev (event : UdevEvent) : Option String := do
  let idVendorId ← event.idVendorId
  let idModelId ← event.idModelId
  let idRevision ← event.idRevision
  return productOf idVendorId idModelId idRevision

/-- The product and the device node of an added device. Missing properties, properties that are not
UTF-8 and a device without a parent end the thread. -/
def readAddedDevice (event : UdevEvent) : Option (String × String) := do
  let idVendorId ← event.idVendorId
  let idModelId ← event.idModelId
  let idRevision ← event.idRevision
  let device ← event.devname
  let idSerial ← event.idSerial
  -- `parent().unwrap()` inside a log statement panics without a parent
  if event.hasParent then pure () else none
  let product := productOf idVendorId idModelId idRevision
  let _ ← idVendorId.toStr
  let _ ← idModelId.toStr
  let _ ← idRevision.toStr
  let device ← device.toStr
  let _ ← idSerial.toStr
  return (product, device)

/-- The action is `add` and the device is a disk or a partition. -/
def UdevEvent.isAddition (event : UdevEvent) : Bool :=
  event.action == some (.ofText "add") &&
    (event.devtype == some (.ofText "partition") || event.devtype == some (.ofText "disk"))

/-- The action is `remove`. -/
def UdevEvent.isRemoval (event : UdevEvent) : Bool :=
  event.action == some (.ofText "remove")

/-! ### The body of the loop -/

/-- The message number `count` of an event. -/
def sendKeys (yubikey : Bool) (outcomes : Outcomes) (count : ℕ)
    (usbIn usbOut usbUndef : List String) : Program Action MonitorState Unit Unit := do
  Program.emit (.send ⟨usbIn, usbOut, usbUndef, yubikey, outcomes.listYubikey count⟩)
  Program.require (outcomes.send count) ()

/-- The message number `count` of an event, with the products of the state. -/
def sendState (yubikey : Bool) (outcomes : Outcomes) (count : ℕ) :
    Program Action MonitorState Unit Unit := do
  let state ← Program.get
  sendKeys yubikey outcomes count state.keysIn state.keysOut state.keysUndef

/-- The call of `copy_device_in`. -/
def copyDeviceIn (outcomes : Outcomes) (device : String) :
    Program Action MonitorState Unit Unit := do
  Program.emit (.copyDeviceIn device)
  Program.require outcomes.copyDeviceIn ()

/-- The call of `move_device_out`. -/
def moveDeviceOut (outcomes : Outcomes) (device : String) :
    Program Action MonitorState Unit Unit := do
  Program.emit (.moveDeviceOut device)
  Program.require outcomes.moveDeviceOut ()

/-- The call of `hmac_challenge`. -/
def hmacChallenge (outcomes : Outcomes) : Program Action MonitorState Unit (Option String) := do
  Program.emit (.hmacChallenge outcomes.hmacChallenge)
  return outcomes.hmacChallenge

/-- An unsigned device whose product has not been seen. -/
def newUnsignedDevice (yubikey : Bool) (outcomes : Outcomes) (product device : String) :
    Program Action MonitorState Unit Unit := do
  busyIn outcomes.busy
  Program.modify fun state ↦ { state with keysIn := state.keysIn ++ [product] }
  sendState yubikey outcomes 1
  if yubikey then
    match ← hmacChallenge outcomes with
    | some _ =>
      copyDeviceIn outcomes device
      readyIn outcomes.ready
    | none => readyIn outcomes.ready
  else
    copyDeviceIn outcomes device
    readyIn outcomes.ready

/-- An unsigned partition whose product has been seen. -/
def seenUnsignedPartition (yubikey : Bool) (outcomes : Outcomes) (device : String) :
    Program Action MonitorState Unit Unit := do
  busyIn outcomes.busy
  sendState yubikey outcomes 1
  copyDeviceIn outcomes device
  readyIn outcomes.ready

/-- A signed device whose product has not been seen. A message that is not sent does not stop it. -/
def newSignedDevice (yubikey : Bool) (outcomes : Outcomes) (product device : String) :
    Program Action MonitorState Unit Unit := do
  busyOut outcomes.busy
  Program.modify fun state ↦ { state with keysOut := state.keysOut ++ [product] }
  let state ← Program.get
  Program.emit (.send ⟨state.keysIn, state.keysOut, state.keysUndef, yubikey,
    outcomes.listYubikey 1⟩)
  moveDeviceOut outcomes device
  readyOut outcomes.ready

/-- The branch of an added disk or partition. -/
def handleAddition (yubikey : Bool) (outcomes : Outcomes) (event : UdevEvent) :
    Program Action MonitorState Unit Unit := do
  sendKeys yubikey outcomes 0 [] [] []
  let (product, device) ← Program.ofExcept (okOr (readAddedDevice event) ())
  let state ← Program.get
  if !outcomes.isSigned then
    if !state.keysIn.contains product then
      newUnsignedDevice yubikey outcomes product device
    else if event.devtype == some (.ofText "partition") then
      seenUnsignedPartition yubikey outcomes device
  else if !state.keysOut.contains product then
    newSignedDevice yubikey outcomes product device

/-- The products that remain after a removal. A removal without a product, or with one that contains
`unknown`, forgets every input and output. -/
def forget (event : UdevEvent) (state : MonitorState) : MonitorState :=
  let product := (getAttrUdev event).getD "unknown"
  if contains product "unknown" then { state with keysIn := [], keysOut := [] }
  else
    { state with
      keysOut := state.keysOut.filter (· ≠ product)
      keysIn := state.keysIn.filter (· ≠ product)
      keysUndef := state.keysUndef.filter (· ≠ product) }

/-- The branch of a removal. -/
def handleRemoval (yubikey : Bool) (outcomes : Outcomes) (event : UdevEvent) :
    Program Action MonitorState Unit Unit := do
  Program.modify (forget event)
  sendState yubikey outcomes 0

/-- The body of the loop for one event. -/
def handleEvent (yubikey : Bool) (outcomes : Outcomes) (event : UdevEvent) :
    Program Action MonitorState Unit Unit :=
  if event.isAddition then handleAddition yubikey outcomes event
  else if event.isRemoval then handleRemoval yubikey outcomes event
  else pure ()

/-! ### The thread -/

/-- A client thread: its state, and whether it still runs. -/
structure Client where
  state : MonitorState
  running : Bool
  deriving DecidableEq

/-- A client that has just connected. -/
def Client.connected (locks : LockFiles) : Client :=
  ⟨⟨[], [], [], locks⟩, true⟩

/-- One event of the loop. A thread that has returned handles nothing. -/
def monitorStep (yubikey : Bool) (client : Client) (input : UdevEvent × Outcomes) :
    Client × List Action :=
  if client.running then
    let ending := (handleEvent yubikey input.2 input.1).run client.state
    (⟨ending.state, ending.value.isOk⟩, ending.trace)
  else (client, [])

end Keysas.Io
