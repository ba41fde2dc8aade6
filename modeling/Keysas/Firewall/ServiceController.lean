import Keysas.Keys.HybridKeys
import Keysas.Runs.TracedProgram
import Keysas.Rust.Text
import Keysas.Store.KeyedTable

/-!
# The service controller of the firewall

The controller decides which USB devices may be used. It keeps two tables by device node: the
devices that are not mounted, with the decision taken for them, and the mounted ones.

`authorizeUsb` evaluates a device unless its node already has an entry that is pending or allowing;
`overrideBlockedUsb` lets the user unblock a device; `updateUsb` moves a device to the mounted ones;
`removeUsb` and `forceRemoveUsb` forget it. Each operation is a program over the controller whose
trace is what it sends to the GUI, the file filter and sysfs.

The lemmas at the end say what each operation does to the two tables, as assignments to one key.
-/

set_option autoImplicit false
set_option relaxedAutoImplicit false

namespace Keysas.Firewall

open Crypto Keys Runs RustStd Store

/-! ### Data -/

/-- The authorization of a USB device. -/
inductive UsbAuthorization where
  | pending
  | block
  | allowRead
  | allowRW
  | allowAll
  deriving DecidableEq

/-- The authorization lets files be read. -/
def UsbAuthorization.isAllowing : UsbAuthorization → Bool
  | .pending => false
  | .block => false
  | .allowRead => true
  | .allowRW => true
  | .allowAll => true

/-- The policy of the administrator. -/
structure SecurityPolicy where
  disableUnsignedUsb : Bool
  allowUserUsbAuthorization : Bool
  allowUserFileRead : Bool
  allowUserFileWrite : Bool
  deriving DecidableEq

/-- A USB device as a monitor reports it. -/
structure UsbDevice where
  deviceId : OsString
  mntPoint : Option OsString
  vendor : OsString
  model : OsString
  revision : OsString
  serial : OsString
  usbSyspath : Option OsString
  deriving DecidableEq

/-- The fields that name the physical device, whatever node it is found under. -/
structure UsbIdentity where
  vendor : OsString
  model : OsString
  revision : OsString
  serial : OsString
  deriving DecidableEq

def UsbDevice.identity (device : UsbDevice) : UsbIdentity :=
  ⟨device.vendor, device.model, device.revision, device.serial⟩

/-- `get_name`. -/
def UsbDevice.getName (device : UsbDevice) : String :=
  device.vendor.toStringLossy ++ "-" ++ device.model.toStringLossy ++ "-" ++
    device.revision.toStringLossy ++ "-" ++ device.serial.toStringLossy

/-- A device and the decision taken for it. -/
structure UsbDevicePolicy where
  device : UsbDevice
  auth : UsbAuthorization
  deriving DecidableEq

/-- The devices of the controller by device node. -/
abbrev UsbTable := Table OsString UsbDevicePolicy

/-- The message that tells the GUI about a device. -/
structure UsbUpdateMessage where
  device : String
  path : String
  name : String
  authorization : UsbAuthorization
  deriving DecidableEq

/-- What the controller sends to its surroundings. -/
inductive Effect where
  | sendUsbUpdate (message : UsbUpdateMessage)
  /-- The policy applied by the file filter. -/
  | updateUsbAuth (policy : UsbDevicePolicy)
  /-- A `1` written to the `authorized` attribute under a sysfs path. -/
  | writeAuthorized (syspath : OsString)
  deriving DecidableEq

/-- The errors of the controller. -/
inductive UsbError where
  /-- The ED25519 signature is not base64. -/
  | parseEd25519
  /-- The ED25519 signature does not have 64 bytes. -/
  | ed25519Length (length : ℕ)
  /-- There is no second signature. -/
  | extractPq
  /-- The second signature is not base64. -/
  | parsePq
  /-- The second signature is not one of the scheme. -/
  | pqFromBytes
  /-- User overrides are disabled by the policy. -/
  | overrideDisabled
  /-- The device has no sysfs path. -/
  | noSyspath (deviceId : String)
  /-- The device is not blocked. -/
  | notBlocked (deviceId : String)
  /-- The device is not in the blocked list. -/
  | notFound (deviceId : String)
  /-- The sysfs attribute cannot be written. -/
  | reauthorize (deviceId : String)
  /-- The device is not in the unmounted list. -/
  | notUnmounted (deviceId : OsString)
  deriving DecidableEq

variable {schemes : Schemes}

variable (schemes) in
/-- The controller: its policy, the keys of the USB authority, and its two tables. -/
structure ServiceController where
  policy : SecurityPolicy
  usbCaPub : KeysasHybridPubKeys schemes
  unmountedUsb : UsbTable
  mountedUsb : UsbTable

/-- A controller that has just started. -/
def ServiceController.init (policy : SecurityPolicy) (usbCaPub : KeysasHybridPubKeys schemes) :
    ServiceController schemes :=
  ⟨policy, usbCaPub, ∅, ∅⟩

/-! ### Signatures of devices -/

/-- The text that the signature of an output device covers. -/
def signedData (device : UsbDevice) : String :=
  device.vendor.toStringLossy ++ "/" ++ device.model.toStringLossy ++ "/" ++
    device.revision.toStringLossy ++ "/" ++ device.serial.toStringLossy ++ "/" ++ "out"

/-- `validate_usb_signature`: the two signatures of a block are separated by `|`. What follows a
second separator is not looked at. -/
def validateUsbSignature (usbCaPub : KeysasHybridPubKeys schemes) (device : UsbDevice)
    (sigBlock : String) : Except UsbError Bool := do
  let signatures := split '|' sigBlock
  let sigCl := signatures.headD ""
  let sigClDec ← okOr (Base64.decode sigCl) .parseEd25519
  if sigClDec.length ≠ 64 then throw (.ed25519Length sigClDec.length)
  let sigPq ← okOr signatures.tail.head? .extractPq
  let sigPqDec ← okOr (Base64.decode sigPq) .parsePq
  let sigPq ← okOr (schemes.mlDsa87.signatureFromBytes sigPqDec) .pqFromBytes
  return verifyKeySignatures (Wire.Bincode.utf8 (signedData device)) ⟨sigClDec, sigPq⟩ usbCaPub

/-! ### Operations -/

/-- The assignment `get_mut(key).unwrap().auth = auth`. -/
def setAuth (table : UsbTable) (key : OsString) (auth : UsbAuthorization) : UsbTable :=
  match table.lookup key with
  | none => table
  | some entry => table.insert key { entry with auth := auth }

/-- The decision of the policy for a device and its signature. -/
def evaluateUsb (controller : ServiceController schemes) (device : UsbDevice)
    (signature : Option String) : Except UsbError UsbAuthorization :=
  match signature with
  | some sig =>
    match validateUsbSignature controller.usbCaPub device sig with
    | .ok true => .ok (if controller.policy.allowUserFileWrite then .allowRW else .allowRead)
    | .ok false => .ok (if controller.policy.disableUnsignedUsb then .allowAll else .block)
    | .error error => .error error
  | none => .ok (if controller.policy.disableUnsignedUsb then .allowAll else .block)

/-- The part of `authorize_usb` for a device whose node has no entry. -/
def authorizeNewUsb (device : UsbDevice) (signature : Option String) :
    Program Effect (ServiceController schemes) UsbError Bool := do
  Program.modify fun controller ↦
    { controller with
      unmountedUsb := controller.unmountedUsb.insert device.deviceId ⟨device, .pending⟩ }
  let controller ← Program.get
  match evaluateUsb controller device signature with
  | .error error =>
    Program.modify fun controller ↦
      { controller with
        unmountedUsb := setAuth controller.unmountedUsb device.deviceId .block }
    Program.ofExcept (.error error)
  | .ok auth =>
    Program.modify fun controller ↦
      { controller with unmountedUsb := setAuth controller.unmountedUsb device.deviceId auth }
    if auth = .block then
      Program.emit (.sendUsbUpdate ⟨device.deviceId.toStringLossy, "", device.getName, auth⟩)
    return auth.isAllowing

/-- `authorize_usb`: an entry that is pending refuses the device, one that allows accepts it as it
is, and one that blocks is evaluated anew. -/
def authorizeUsb (device : UsbDevice) (signature : Option String) :
    Program Effect (ServiceController schemes) UsbError Bool := do
  let controller ← Program.get
  match controller.unmountedUsb.lookup device.deviceId with
  | some existing =>
    match existing.auth with
    | .pending => return false
    | .block =>
      Program.modify fun controller ↦
        { controller with unmountedUsb := controller.unmountedUsb.erase device.deviceId }
      authorizeNewUsb device signature
    | _ => return true
  | none => authorizeNewUsb device signature

/-- The sysfs path of a blocked device, which `override_blocked_usb` looks up first. -/
def blockedSyspath (table : UsbTable) (deviceId : String) : Except UsbError OsString :=
  match table.lookup (.ofText deviceId) with
  | some entry =>
    if entry.auth = .block then okOr entry.device.usbSyspath (.noSyspath deviceId)
    else .error (.notBlocked deviceId)
  | none => .error (.notFound deviceId)

/-- `override_blocked_usb`: the entry is changed before the sysfs attribute is written, and stays
changed when the write fails. -/
def overrideBlockedUsb (deviceId : String) (writeSucceeds : Bool) :
    Program Effect (ServiceController schemes) UsbError Unit := do
  let controller ← Program.get
  Program.require controller.policy.allowUserUsbAuthorization .overrideDisabled
  let syspath ← Program.ofExcept (blockedSyspath controller.unmountedUsb deviceId)
  let newAuth : UsbAuthorization :=
    if controller.policy.allowUserFileWrite then .allowRW else .allowRead
  Program.modify fun controller ↦
    { controller with unmountedUsb := setAuth controller.unmountedUsb (.ofText deviceId) newAuth }
  Program.emit (.writeAuthorized syspath)
  Program.require writeSucceeds (.reauthorize deviceId)

/-- `update_usb`: the entry moves to the mounted devices, with the mount point of the report. -/
def updateUsb (device : UsbDevice) :
    Program Effect (ServiceController schemes) UsbError Unit := do
  let controller ← Program.get
  let entry ← Program.ofExcept
    (okOr (controller.unmountedUsb.lookup device.deviceId) (.notUnmounted device.deviceId))
  let policy := { entry with device := { entry.device with mntPoint := device.mntPoint } }
  Program.modify fun controller ↦
    { controller with
      unmountedUsb := controller.unmountedUsb.erase device.deviceId
      mountedUsb := controller.mountedUsb.insert device.deviceId policy }
  Program.emit (.updateUsbAuth policy)
  Program.emit (.sendUsbUpdate ⟨device.deviceId.toStringLossy,
    (policy.device.mntPoint.map OsString.toStringLossy).getD "", policy.device.getName,
    policy.auth⟩)

/-- `unmounted_usb_ids_with_syspath_prefix`: the nodes of the unmounted devices under a sysfs
path. -/
def unmountedUsbIdsWithSyspathPrefix (controller : ServiceController schemes)
    (syspath : OsString) : List OsString :=
  (controller.unmountedUsb.entries.filter fun entry ↦
    entry.2.device.usbSyspath.any fun path ↦ path.startsWithPath syspath).map Sigma.fst

/-- `force_remove_usb`. -/
def forceRemoveUsb (deviceId : OsString) :
    Program Effect (ServiceController schemes) UsbError Unit :=
  Program.modify fun controller ↦
    { controller with unmountedUsb := controller.unmountedUsb.erase deviceId }

/-- `remove_usb`: a mounted device is forgotten and blocked in the file filter. A device that is not
mounted is forgotten unless it is blocked: its removal was then caused by the block itself. -/
def removeUsb (deviceId : OsString) :
    Program Effect (ServiceController schemes) UsbError Unit := do
  let controller ← Program.get
  match controller.mountedUsb.lookup deviceId with
  | some entry =>
    Program.modify fun controller ↦
      { controller with mountedUsb := controller.mountedUsb.erase deviceId }
    Program.emit (.updateUsbAuth ⟨entry.device, .block⟩)
  | none =>
    match controller.unmountedUsb.lookup deviceId with
    | some entry =>
      if entry.auth = .block then return ()
      else
        Program.modify fun controller ↦
          { controller with unmountedUsb := controller.unmountedUsb.erase deviceId }
    | none => return ()

/-- `request_usb_update`: the authorization of a mounted device goes to the file filter as the GUI
asks for it. `applied` is what the filter returns. -/
def requestUsbUpdate {ε : Type} (update : UsbUpdateMessage) (applied : Except ε Unit) :
    Program Effect (ServiceController schemes) ε Unit := do
  let controller ← Program.get
  match controller.mountedUsb.lookup (.ofText update.device) with
  | some entry =>
    Program.emit (.updateUsbAuth ⟨entry.device, update.authorization⟩)
    Program.ofExcept applied
  | none => return ()

/-- The entry that `recover_mounted_devices` makes for a sentinel whose device is mounted: the
sentinel attests that the device was certified before the daemon started. -/
def recoveredPolicy (policy : SecurityPolicy) (devName mntPoint : String) : UsbDevicePolicy where
  device :=
    { deviceId := .ofText ("/dev/" ++ devName)
      mntPoint := some (.ofText mntPoint)
      vendor := ⟨[]⟩
      model := ⟨[]⟩
      revision := ⟨[]⟩
      serial := ⟨[]⟩
      usbSyspath := none }
  auth := if policy.allowUserFileWrite then .allowRW else .allowRead

/-- The pass of `recover_mounted_devices` over one sentinel. -/
def recoverMountedDevice (devName mntPoint : String) :
    Program Effect (ServiceController schemes) UsbError Unit := do
  let controller ← Program.get
  let policy := recoveredPolicy controller.policy devName mntPoint
  Program.emit (.updateUsbAuth policy)
  Program.modify fun controller ↦
    { controller with mountedUsb := controller.mountedUsb.insert policy.device.deviceId policy }

/-! ### Queries -/

/-- `get_usb_auth`. -/
def getUsbAuth (controller : ServiceController schemes) (deviceId : OsString) :
    Option UsbAuthorization :=
  (controller.mountedUsb.lookup deviceId).map UsbDevicePolicy.auth

/-- `get_usb_auth_by_mount`: the first of the mounted devices with the mount point, in an order of
iteration over the table. -/
def getUsbAuthByMount (values : List UsbDevicePolicy) (mntPoint : OsString) :
    Option UsbAuthorization :=
  (values.find? fun entry ↦ entry.device.mntPoint == some mntPoint).map UsbDevicePolicy.auth

/-! ### What the operations do to the tables -/

theorem assigns_setAuth {table : UsbTable} {key : OsString} {entry : UsbDevicePolicy}
    (hentry : table.lookup key = some entry) (auth : UsbAuthorization) :
    Assigns table (setAuth table key auth) key (some { entry with auth := auth }) := by
  rw [setAuth, hentry]
  exact assigns_insert table key _

/-- The authorization that an evaluation leaves in the entry: an error blocks. -/
def decidedAuth (evaluation : Except UsbError UsbAuthorization) : UsbAuthorization :=
  match evaluation with
  | .error _ => .block
  | .ok auth => auth

section Operations

variable (controller : ServiceController schemes)

@[simp] theorem evaluateUsb_withUnmounted (table : UsbTable) (device : UsbDevice)
    (signature : Option String) :
    evaluateUsb { controller with unmountedUsb := table } device signature =
      evaluateUsb controller device signature := rfl

/-- A device without an entry is evaluated and gets an entry with the decision. -/
theorem authorizeNewUsb_spec (device : UsbDevice) (signature : Option String) :
    ∃ table, Assigns controller.unmountedUsb table device.deviceId
        (some ⟨device, decidedAuth (evaluateUsb controller device signature)⟩) ∧
      ((authorizeNewUsb device signature).run controller).state =
        { controller with unmountedUsb := table } ∧
      ((authorizeNewUsb device signature).run controller).value =
        (evaluateUsb controller device signature).map UsbAuthorization.isAllowing := by
  have hinserted := assigns_insert controller.unmountedUsb device.deviceId
    (⟨device, .pending⟩ : UsbDevicePolicy)
  have hassigns := fun auth ↦ hinserted.trans (assigns_setAuth hinserted.lookup_self auth)
  simp only [authorizeNewUsb, Program.run_modify_bind, Program.run_get_bind,
    evaluateUsb_withUnmounted]
  cases evaluateUsb controller device signature with
  | error error => exact ⟨_, hassigns .block, rfl, rfl⟩
  | ok auth =>
    refine ⟨_, hassigns auth, ?_, ?_⟩
    · by_cases hauth : auth = .block <;> simp [hauth]
    · by_cases hauth : auth = .block <;> simp [hauth, Except.map]

/-- An entry that allows accepts the device as it is. Assumes: the entry allows. -/
theorem authorizeUsb_of_allowing {device : UsbDevice} {existing : UsbDevicePolicy}
    (hexisting : controller.unmountedUsb.lookup device.deviceId = some existing)
    (hallowing : existing.auth.isAllowing) (signature : Option String) :
    (authorizeUsb device signature).run controller = ⟨[], controller, .ok true⟩ := by
  rw [authorizeUsb]
  simp only [Program.run_get_bind, hexisting]
  cases hauth : existing.auth with
  | pending => simp [hauth, UsbAuthorization.isAllowing] at hallowing
  | block => simp [hauth, UsbAuthorization.isAllowing] at hallowing
  | allowRead => rfl
  | allowRW => rfl
  | allowAll => rfl

/-- A device is evaluated when its node has no entry or one that blocks. Assumes: an entry of the
node blocks. -/
theorem authorizeUsb_evaluated {device : UsbDevice}
    (hblocked : ∀ existing, controller.unmountedUsb.lookup device.deviceId = some existing →
      existing.auth = .block) (signature : Option String) :
    ∃ table, Assigns controller.unmountedUsb table device.deviceId
        (some ⟨device, decidedAuth (evaluateUsb controller device signature)⟩) ∧
      ((authorizeUsb device signature).run controller).state =
        { controller with unmountedUsb := table } ∧
      ((authorizeUsb device signature).run controller).value =
        (evaluateUsb controller device signature).map UsbAuthorization.isAllowing := by
  rw [authorizeUsb]
  simp only [Program.run_get_bind]
  cases hlookup : controller.unmountedUsb.lookup device.deviceId with
  | none => exact authorizeNewUsb_spec controller device signature
  | some existing =>
    simp only [hblocked existing hlookup, Program.run_modify_bind]
    obtain ⟨table, hassigns, hstate, hvalue⟩ := authorizeNewUsb_spec
      { controller with unmountedUsb := controller.unmountedUsb.erase device.deviceId }
      device signature
    exact ⟨table, (assigns_erase _ _).trans hassigns, hstate, hvalue⟩

/-- The three cases of `authorize_usb`: the entry of the node is pending, it allows, or the device
is evaluated. -/
theorem authorizeUsb_cases (device : UsbDevice) (signature : Option String) :
    (∃ existing, controller.unmountedUsb.lookup device.deviceId = some existing ∧
      existing.auth = .pending ∧
      (authorizeUsb device signature).run controller = ⟨[], controller, .ok false⟩) ∨
    (∃ existing, controller.unmountedUsb.lookup device.deviceId = some existing ∧
      existing.auth.isAllowing ∧
      (authorizeUsb device signature).run controller = ⟨[], controller, .ok true⟩) ∨
    ((∀ existing, controller.unmountedUsb.lookup device.deviceId = some existing →
        existing.auth = .block) ∧
      ∃ table, Assigns controller.unmountedUsb table device.deviceId
          (some ⟨device, decidedAuth (evaluateUsb controller device signature)⟩) ∧
        ((authorizeUsb device signature).run controller).state =
          { controller with unmountedUsb := table } ∧
        ((authorizeUsb device signature).run controller).value =
          (evaluateUsb controller device signature).map UsbAuthorization.isAllowing) := by
  cases hlookup : controller.unmountedUsb.lookup device.deviceId with
  | none =>
    have hblocked : ∀ existing, controller.unmountedUsb.lookup device.deviceId = some existing →
        existing.auth = .block := by simp [hlookup]
    exact .inr (.inr ⟨by simp, authorizeUsb_evaluated controller hblocked signature⟩)
  | some existing =>
    by_cases hpending : existing.auth = .pending
    · refine .inl ⟨existing, rfl, hpending, ?_⟩
      simp [authorizeUsb, hlookup, hpending]
    by_cases hblock : existing.auth = .block
    · have hblocked : ∀ other, controller.unmountedUsb.lookup device.deviceId = some other →
          other.auth = .block := by simp [hlookup, hblock]
      exact .inr (.inr ⟨by simp [hblock], authorizeUsb_evaluated controller hblocked signature⟩)
    · have hallowing : existing.auth.isAllowing := by
        cases hauth : existing.auth <;> simp_all [UsbAuthorization.isAllowing]
      exact .inr (.inl ⟨existing, rfl, hallowing,
        authorizeUsb_of_allowing controller hlookup hallowing signature⟩)

/-- The authorization that an override gives. -/
def overrideAuth (policy : SecurityPolicy) : UsbAuthorization :=
  if policy.allowUserFileWrite then .allowRW else .allowRead

theorem isAllowing_overrideAuth (policy : SecurityPolicy) : (overrideAuth policy).isAllowing := by
  unfold overrideAuth
  split_ifs <;> rfl

/-- The override of a device gets as far as writing the sysfs attribute: overrides are allowed, and
the device is blocked and has a sysfs path. -/
def reachesWrite (deviceId : String) : Bool :=
  controller.policy.allowUserUsbAuthorization &&
    (controller.unmountedUsb.lookup (.ofText deviceId)).any fun entry ↦
      entry.auth = .block && entry.device.usbSyspath.isSome

/-- An override that does not get as far as the write changes nothing and fails. -/
theorem overrideBlockedUsb_of_not_reachesWrite {deviceId : String}
    (hreaches : reachesWrite controller deviceId = false) (writeSucceeds : Bool) :
    ∃ error, (overrideBlockedUsb deviceId writeSucceeds).run controller =
      ⟨[], controller, .error error⟩ := by
  rw [overrideBlockedUsb]
  simp only [Program.run_get_bind, Program.run_require_bind]
  by_cases hallowed : controller.policy.allowUserUsbAuthorization
  swap
  · exact ⟨.overrideDisabled, by simp [hallowed]⟩
  have hsyspath : ∃ error, blockedSyspath controller.unmountedUsb deviceId = .error error := by
    rw [blockedSyspath]
    cases hlookup : controller.unmountedUsb.lookup (.ofText deviceId) with
    | none => exact ⟨.notFound deviceId, rfl⟩
    | some entry =>
      by_cases hblock : entry.auth = .block
      · have hnone : entry.device.usbSyspath = none := by
          simpa [reachesWrite, hallowed, hlookup, hblock] using hreaches
        exact ⟨.noSyspath deviceId, by simp [hblock, hnone, okOr]⟩
      · exact ⟨.notBlocked deviceId, by simp [hblock]⟩
  obtain ⟨error, herror⟩ := hsyspath
  exact ⟨error, by simp [hallowed, herror]⟩

/-- An override that gets as far as the write makes the entry allow, and succeeds when the write
does. -/
theorem overrideBlockedUsb_of_reachesWrite {deviceId : String}
    (hreaches : reachesWrite controller deviceId) (writeSucceeds : Bool) :
    ∃ entry table, controller.unmountedUsb.lookup (.ofText deviceId) = some entry ∧
      entry.auth = .block ∧
      Assigns controller.unmountedUsb table (.ofText deviceId)
        (some { entry with auth := overrideAuth controller.policy }) ∧
      ((overrideBlockedUsb deviceId writeSucceeds).run controller).state =
        { controller with unmountedUsb := table } ∧
      ((overrideBlockedUsb deviceId writeSucceeds).run controller).value =
        if writeSucceeds then .ok () else .error (.reauthorize deviceId) := by
  cases hlookup : controller.unmountedUsb.lookup (.ofText deviceId) with
  | none => simp [reachesWrite, hlookup] at hreaches
  | some entry =>
    obtain ⟨hallowed, hblock, hsome⟩ : controller.policy.allowUserUsbAuthorization = true ∧
        entry.auth = .block ∧ entry.device.usbSyspath.isSome := by
      simpa [reachesWrite, hlookup] using hreaches
    obtain ⟨syspath, hsyspath⟩ := Option.isSome_iff_exists.mp hsome
    have hblocked : blockedSyspath controller.unmountedUsb deviceId = .ok syspath := by
      simp [blockedSyspath, hlookup, hblock, hsyspath, okOr]
    refine ⟨entry, _, rfl, hblock, assigns_setAuth hlookup _, ?_, ?_⟩
    · rw [overrideBlockedUsb]
      simp [hallowed, hblocked, Program.require, overrideAuth]
    · rw [overrideBlockedUsb]
      simp [hallowed, hblocked, Program.require]

/-- The two cases of `update_usb`: there is no entry to move, or it moves. -/
theorem updateUsb_cases (device : UsbDevice) :
    (controller.unmountedUsb.lookup device.deviceId = none ∧
      (updateUsb device).run controller =
        ⟨[], controller, .error (.notUnmounted device.deviceId)⟩) ∨
    (∃ entry unmounted mounted,
      controller.unmountedUsb.lookup device.deviceId = some entry ∧
      Assigns controller.unmountedUsb unmounted device.deviceId none ∧
      Assigns controller.mountedUsb mounted device.deviceId
        (some { entry with device := { entry.device with mntPoint := device.mntPoint } }) ∧
      ((updateUsb device).run controller).state =
        { controller with unmountedUsb := unmounted, mountedUsb := mounted } ∧
      ((updateUsb device).run controller).value = .ok ()) := by
  rw [updateUsb]
  simp only [Program.run_get_bind]
  cases hlookup : controller.unmountedUsb.lookup device.deviceId with
  | none => exact .inl ⟨rfl, rfl⟩
  | some entry =>
    exact .inr ⟨entry, _, _, rfl, assigns_erase _ _, assigns_insert _ _ _, rfl, rfl⟩

/-- The three cases of `remove_usb`: a mounted entry goes, or else an unmounted one that does not
block, or nothing changes. -/
theorem removeUsb_cases (deviceId : OsString) :
    (∃ table, Assigns controller.mountedUsb table deviceId none ∧
      ((removeUsb deviceId).run controller).state = { controller with mountedUsb := table }) ∨
    (controller.mountedUsb.lookup deviceId = none ∧
      ∃ table, Assigns controller.unmountedUsb table deviceId none ∧
      ((removeUsb deviceId).run controller).state = { controller with unmountedUsb := table }) ∨
    (controller.mountedUsb.lookup deviceId = none ∧
      ((removeUsb deviceId).run controller).state = controller) := by
  rw [removeUsb]
  simp only [Program.run_get_bind]
  cases hmounted : controller.mountedUsb.lookup deviceId with
  | some entry => exact .inl ⟨_, assigns_erase _ _, rfl⟩
  | none =>
    cases hunmounted : controller.unmountedUsb.lookup deviceId with
    | none => exact .inr (.inr ⟨rfl, rfl⟩)
    | some entry =>
      by_cases hblock : entry.auth = .block
      · exact .inr (.inr ⟨rfl, by simp [hblock]⟩)
      · exact .inr (.inl ⟨rfl, _, assigns_erase _ _, by simp [hblock]⟩)

end Operations

end Keysas.Firewall
