import Keysas.Firewall.SignatureReaders

/-!
# What the controller leaves behind when it fails

Two operations of the controller decide first and can fail afterwards, or fail where the decision
does not depend on what failed.

`override_blocked_usb` makes the entry of a blocked device allow before it writes the sysfs
attribute, and the write fails when the device has been unplugged. `keepsTables_iff` says that the
tables survive every failure but that one, and `authorizeUsb_of_failed_override` what the entry left
behind is good for: it accepts any device that is found at the node next.

`authorize_usb` under a policy that accepts unsigned devices still takes a signature apart, and a
text that is not a signature is an error that blocks. `admits_iff` says that such a policy admits
the devices that have no signature and those whose signature has the form of one, valid or not, and
no others. A disk that was never signed has the empty text on Linux.
-/

set_option autoImplicit false
set_option relaxedAutoImplicit false

namespace Keysas.Firewall

open Crypto Keys Runs RustStd Store

variable {schemes : Schemes}

/-! ### Failing overrides -/

/-- A failure of `override_blocked_usb` leaves the two tables as they were. -/
def KeepsTables (controller : ServiceController schemes) (deviceId : String)
    (writeSucceeds : Bool) : Prop :=
  let ending := (overrideBlockedUsb deviceId writeSucceeds).run controller
  ∀ error, ending.value = .error error →
    ending.state.unmountedUsb = controller.unmountedUsb ∧
      ending.state.mountedUsb = controller.mountedUsb

/-- An override whose write fails leaves an entry that allows where one blocked. Assumes: the
override gets as far as the write. -/
theorem override_of_write_fails (controller : ServiceController schemes) {deviceId : String}
    (hreaches : reachesWrite controller deviceId) :
    ∃ entry, controller.unmountedUsb.lookup (.ofText deviceId) = some entry ∧
      entry.auth = .block ∧
      ((overrideBlockedUsb deviceId false).run controller).state.unmountedUsb.lookup
          (.ofText deviceId) = some { entry with auth := overrideAuth controller.policy } ∧
      ((overrideBlockedUsb deviceId false).run controller).value =
        .error (.reauthorize deviceId) := by
  obtain ⟨entry, table, hlookup, hblock, hassigns, hstate, hvalue⟩ :=
    overrideBlockedUsb_of_reachesWrite controller hreaches false
  refine ⟨entry, hlookup, hblock, ?_, hvalue⟩
  rw [hstate]
  exact hassigns.lookup_self

/-- An override whose write fails changes the table of unmounted devices. Assumes: the override gets
as far as the write. -/
theorem not_keepsTables_of_write_fails (controller : ServiceController schemes) {deviceId : String}
    (hreaches : reachesWrite controller deviceId) :
    ¬ KeepsTables controller deviceId false := by
  intro hkeeps
  obtain ⟨entry, hlookup, hblock, hafter, hvalue⟩ := override_of_write_fails controller hreaches
  obtain ⟨hunmounted, -⟩ := hkeeps _ hvalue
  rw [hunmounted, hlookup] at hafter
  have hauth : entry.auth = overrideAuth controller.policy :=
    congrArg UsbDevicePolicy.auth (Option.some.inj hafter)
  have hallowing := isAllowing_overrideAuth controller.policy
  rw [← hauth, hblock] at hallowing
  exact Bool.noConfusion hallowing

/-- A failing override leaves the tables as they were if and only if it fails before the write of
the sysfs attribute: overrides are forbidden, or the device is not blocked or has no sysfs path. -/
theorem keepsTables_iff (controller : ServiceController schemes) (deviceId : String)
    (writeSucceeds : Bool) :
    KeepsTables controller deviceId writeSucceeds ↔
      reachesWrite controller deviceId = false ∨ writeSucceeds = true := by
  constructor
  · intro hkeeps
    by_contra hfails
    obtain ⟨hreaches, hwrite⟩ := not_or.mp hfails
    obtain rfl : writeSucceeds = false := by simpa using hwrite
    have hreached : reachesWrite controller deviceId = true := by simpa using hreaches
    exact not_keepsTables_of_write_fails controller hreached hkeeps
  · rintro (hreaches | rfl) error hvalue
    · obtain ⟨other, hending⟩ :=
        overrideBlockedUsb_of_not_reachesWrite controller hreaches writeSucceeds
      rw [hending]
      exact ⟨rfl, rfl⟩
    · cases hreaches : reachesWrite controller deviceId with
      | false =>
        obtain ⟨other, hending⟩ := overrideBlockedUsb_of_not_reachesWrite controller hreaches true
        rw [hending]
        exact ⟨rfl, rfl⟩
      | true =>
        obtain ⟨entry, table, -, -, -, -, hok⟩ :=
          overrideBlockedUsb_of_reachesWrite controller hreaches true
        rw [hok] at hvalue
        cases hvalue

/-- The entry that a failed override leaves accepts any device of the node, whatever its identity
and its signature. Assumes: the override gets as far as the write. -/
theorem authorizeUsb_of_failed_override (controller : ServiceController schemes)
    {deviceId : String} (hreaches : reachesWrite controller deviceId) {device : UsbDevice}
    (hnode : device.deviceId = .ofText deviceId) (signature : Option String) :
    ((authorizeUsb device signature).run
      ((overrideBlockedUsb deviceId false).run controller).state).value = .ok true := by
  obtain ⟨entry, -, -, hafter, -⟩ := override_of_write_fails controller hreaches
  rw [← hnode] at hafter
  rw [authorizeUsb_of_allowing _ hafter (isAllowing_overrideAuth controller.policy)]

/-- A policy that lets the user unblock devices and write to them. -/
def unblockPolicy : SecurityPolicy :=
  ⟨false, true, true, true⟩

/-- A controller that has blocked an unsigned device. -/
def blockingController : ServiceController transparentSchemes :=
  ((authorizeUsb unsignedDevice none).run (.init unblockPolicy (transparentPubKeys 0))).state

/-- The tables do not always survive a failing override: the device is unplugged before the user
unblocks it. -/
theorem not_keepsTables : ¬ KeepsTables blockingController "/dev/sdb1" false :=
  not_keepsTables_of_write_fails blockingController (by decide)

/-! ### Signatures under a policy that needs none -/

variable (schemes) in
/-- A text has the form of the signature of a device: two pieces that are base64, the first of 64
bytes and the second a signature of the second scheme. -/
def HasSignatureForm (sigBlock : String) : Prop :=
  ∃ sigCl sigPq rest classic pqBytes pq,
    split '|' sigBlock = sigCl :: sigPq :: rest ∧
    Base64.decode sigCl = some classic ∧ classic.length = 64 ∧
    Base64.decode sigPq = some pqBytes ∧ schemes.mlDsa87.signatureFromBytes pqBytes = some pq

/-- The evaluation of a signature comes to an end exactly for the texts of that form. -/
theorem exists_validateUsbSignature_iff {usbCaPub : KeysasHybridPubKeys schemes}
    {device : UsbDevice} {sigBlock : String} :
    (∃ valid, validateUsbSignature usbCaPub device sigBlock = .ok valid) ↔
      HasSignatureForm schemes sigBlock := by
  constructor
  · rintro ⟨valid, hvalid⟩
    obtain ⟨sigCl, sigPq, rest, classic, pqBytes, pq,
      hsplit, hclassic, hlength, hpqBytes, hpq, -⟩ := validateUsbSignature_eq_ok_iff.mp hvalid
    exact ⟨sigCl, sigPq, rest, classic, pqBytes, pq, hsplit, hclassic, hlength, hpqBytes, hpq⟩
  · rintro ⟨sigCl, sigPq, rest, classic, pqBytes, pq, hsplit, hclassic, hlength, hpqBytes, hpq⟩
    exact ⟨_, validateUsbSignature_eq_ok_iff.mpr
      ⟨sigCl, sigPq, rest, classic, pqBytes, pq, hsplit, hclassic, hlength, hpqBytes, hpq, rfl⟩⟩

/-- `authorize_usb` accepts a device and leaves an entry of its node that allows. -/
def Admits (controller : ServiceController schemes) (device : UsbDevice)
    (signature : Option String) : Prop :=
  let ending := (authorizeUsb device signature).run controller
  ending.value = .ok true ∧
    ∃ entry, ending.state.unmountedUsb.lookup device.deviceId = some entry ∧
      entry.auth.isAllowing

/-- A device that is not tracked is admitted when its evaluation allows. Assumes: its node has no
entry. -/
theorem admits_iff_evaluateUsb {controller : ServiceController schemes} {device : UsbDevice}
    (huntracked : controller.unmountedUsb.lookup device.deviceId = none)
    (signature : Option String) :
    Admits controller device signature ↔
      ∃ auth, evaluateUsb controller device signature = .ok auth ∧ auth.isAllowing := by
  have hblocked : ∀ existing, controller.unmountedUsb.lookup device.deviceId = some existing →
      existing.auth = .block := by simp [huntracked]
  obtain ⟨table, hassigns, hstate, hvalue⟩ :=
    authorizeUsb_evaluated controller hblocked signature
  show (_ = _ ∧ _) ↔ _
  rw [hvalue, hstate, hassigns.lookup_self]
  cases evaluateUsb controller device signature with
  | error error => simp [Except.map]
  | ok auth => simp [Except.map, decidedAuth]

/-- Under a policy that accepts unsigned devices an evaluation allows whatever it decides.
Assumes: the policy accepts unsigned devices. -/
theorem evaluateUsb_allows_iff {controller : ServiceController schemes}
    (hdisable : controller.policy.disableUnsignedUsb = true) (device : UsbDevice)
    (signature : Option String) :
    (∃ auth, evaluateUsb controller device signature = .ok auth ∧ auth.isAllowing) ↔
      ∀ sigBlock, signature = some sigBlock → HasSignatureForm schemes sigBlock := by
  cases signature with
  | none => simp [evaluateUsb, hdisable, UsbAuthorization.isAllowing]
  | some sigBlock =>
    simp only [Option.some.injEq, forall_eq']
    rw [← @exists_validateUsbSignature_iff schemes controller.usbCaPub device]
    rcases hvalid : validateUsbSignature controller.usbCaPub device sigBlock with error | _ | _
    · simp [evaluateUsb, hvalid]
    · simp [evaluateUsb, hvalid, hdisable, UsbAuthorization.isAllowing]
    · have hallowing := isAllowing_overrideAuth controller.policy
      rw [overrideAuth] at hallowing
      simp [evaluateUsb, hvalid, hallowing]

/-- A policy that accepts unsigned devices admits a device if and only if it has no signature or one
of the form of a signature. Assumes: the policy accepts unsigned devices, and the node of the device
has no entry. -/
theorem admits_iff {controller : ServiceController schemes} {device : UsbDevice}
    (hdisable : controller.policy.disableUnsignedUsb = true)
    (huntracked : controller.unmountedUsb.lookup device.deviceId = none)
    (signature : Option String) :
    Admits controller device signature ↔
      ∀ sigBlock, signature = some sigBlock → HasSignatureForm schemes sigBlock := by
  rw [admits_iff_evaluateUsb huntracked, evaluateUsb_allows_iff hdisable]

/-- A controller that has just started with a policy that accepts every device. -/
def permissiveController : ServiceController transparentSchemes :=
  .init ⟨true, true, true, true⟩ (transparentPubKeys 0)

/-- A device without a signature is admitted. -/
theorem admits_unsigned : Admits permissiveController unsignedDevice none :=
  (admits_iff rfl rfl none).mpr fun _ hsignature ↦ by cases hsignature

/-- The empty text does not have the form of a signature. -/
theorem not_hasSignatureForm_empty : ¬ HasSignatureForm schemes "" := by
  rintro ⟨sigCl, sigPq, rest, -, -, -, hsplit, -⟩
  rw [split_empty] at hsplit
  cases hsplit

/-- A policy that accepts every device does not admit every device: Linux reads the empty text from
a disk that was never signed, and the evaluation of the empty text is an error. -/
theorem not_admits_blank :
    extractSignature blankDisk = .ok (some "") ∧
      permissiveController.policy.disableUnsignedUsb = true ∧
      permissiveController.unmountedUsb.lookup unsignedDevice.deviceId = none ∧
      ¬ Admits permissiveController unsignedDevice (some "") := by
  have hzeros : sizeField blankDisk = [0, 0, 0, 0] := by
    rw [sizeField, blankDisk, List.drop_replicate, List.take_replicate]
    rfl
  obtain ⟨hsize, hzero⟩ := sizeField_eq_zeros_iff.mp hzeros
  refine ⟨(readers_of_size_zero hsize hzero).1, rfl, rfl, ?_⟩
  rw [admits_iff_evaluateUsb rfl, evaluateUsb_allows_iff rfl]
  exact fun hform ↦ not_hasSignatureForm_empty (hform "" rfl)

end Keysas.Firewall
