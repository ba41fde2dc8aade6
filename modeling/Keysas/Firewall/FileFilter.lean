import Mathlib.Data.Finset.Basic
import Keysas.Firewall.FileAuthorization

/-!
# The file filter on Linux

The filter enforces the authorization of a USB device with a fanotify mark on its mount point. While
a mount is marked, the kernel asks the daemon about every file that is opened on it, and the event
loop answers with `authorizeFile`; on a mount without a mark it does not ask, and every open goes
through.

`updateUsbAuth` adds the mark for the authorizations that allow something and removes it for the
others, so that blocking a device opens it. `permits_updateUsbAuth` says what is permitted after an
update, and `enforcedInOrder_iff` that the authorizations are enforced in their order exactly when
the lower of two is not `block`.

What the kernel does is a parameter: the answer to each call that changes a mark, and the events.
-/

set_option autoImplicit false
set_option relaxedAutoImplicit false

namespace Keysas.Firewall

open Keys RustStd

variable {schemes : Schemes}

/-! ### Marks -/

/-- `as_u8`: the authorizations from the least to the most permissive. -/
def UsbAuthorization.asU8 : UsbAuthorization → ℕ
  | .pending => 0
  | .block => 1
  | .allowRead => 2
  | .allowRW => 3
  | .allowAll => 4

theorem UsbAuthorization.asU8_injective : Function.Injective UsbAuthorization.asU8 := by
  intro first second heq
  cases first <;> cases second <;> first | rfl | cases heq

/-- The authorizations that allow something are those beyond `block`. -/
theorem UsbAuthorization.isAllowing_iff {auth : UsbAuthorization} :
    auth.isAllowing ↔ UsbAuthorization.block.asU8 < auth.asU8 := by
  cases auth <;> decide

/-- The filter: whether its descriptor is open, and the mount points that the kernel has marked for
it. -/
structure LinuxFileFilter where
  fdOpen : Bool
  marks : Finset OsString

/-- What a call of `fanotify_mark` asks for. -/
inductive MarkFlag where
  | add
  | remove
  deriving DecidableEq

/-- The answer of the kernel to a call of `fanotify_mark`. -/
inductive MarkAnswer where
  | done
  /-- `ENOENT`: there is no mark on the mount, or nothing is mounted there. -/
  | noEntry
  /-- Any other error. -/
  | failed (errno : ℕ)
  deriving DecidableEq

/-- The marks after a call of `fanotify_mark`. -/
def fanotifyMark (marks : Finset OsString) (flag : MarkFlag) (mntPoint : OsString) :
    MarkAnswer → Finset OsString
  | .done =>
    match flag with
    | .add => insert mntPoint marks
    | .remove => marks.erase mntPoint
  | .noEntry => marks.erase mntPoint
  | .failed _ => marks

/-- The errors of the filter. -/
inductive FilterError where
  /-- The device has no mount point. -/
  | noMountPoint
  /-- The descriptor is closed. -/
  | fdClosed
  /-- The mount point has a zero byte. -/
  | invalidMountPoint
  /-- The kernel refuses the change. -/
  | mark (flag : MarkFlag) (mntPoint : OsString)
  deriving DecidableEq

/-- `update_usb_auth`: the mark is added for the authorizations that allow something and removed for
the others. That there is nothing to remove is not an error. -/
def updateUsbAuth (filter : LinuxFileFilter) (update : UsbDevicePolicy) (answer : MarkAnswer) :
    LinuxFileFilter × Except FilterError Unit :=
  match update.device.mntPoint with
  | none => (filter, .error .noMountPoint)
  | some mntPoint =>
    if !filter.fdOpen then (filter, .error .fdClosed)
    else if 0 ∈ mntPoint.bytes then (filter, .error .invalidMountPoint)
    else
      let flag := if update.auth.isAllowing then MarkFlag.add else .remove
      let reached := { filter with marks := fanotifyMark filter.marks flag mntPoint answer }
      match answer with
      | .done => (reached, .ok ())
      | .noEntry => (reached, if flag = .add then .error (.mark flag mntPoint) else .ok ())
      | .failed _ => (reached, .error (.mark flag mntPoint))

/-- An update that succeeds leaves the descriptor open, and the mount marked exactly when the
authorization allows something. -/
theorem mem_marks_updateUsbAuth {filter : LinuxFileFilter} {update : UsbDevicePolicy}
    {mntPoint : OsString} {answer : MarkAnswer} (hmounted : update.device.mntPoint = some mntPoint)
    (hok : (updateUsbAuth filter update answer).2 = .ok ()) :
    (updateUsbAuth filter update answer).1.fdOpen = true ∧
      (mntPoint ∈ (updateUsbAuth filter update answer).1.marks ↔ update.auth.isAllowing) := by
  by_cases hopen : filter.fdOpen
  swap
  · simp [updateUsbAuth, hmounted, hopen] at hok
  by_cases hzero : 0 ∈ mntPoint.bytes
  · simp [updateUsbAuth, hmounted, hopen, hzero] at hok
  by_cases hallowing : update.auth.isAllowing
  · rcases answer with _ | _ | errno
    · simp [updateUsbAuth, hmounted, hopen, hzero, hallowing, fanotifyMark]
    · simp [updateUsbAuth, hmounted, hopen, hzero, hallowing] at hok
    · simp [updateUsbAuth, hmounted, hopen, hzero] at hok
  · rcases answer with _ | _ | errno
    · simp [updateUsbAuth, hmounted, hopen, hzero, hallowing, fanotifyMark]
    · simp [updateUsbAuth, hmounted, hopen, hzero, hallowing, fanotifyMark]
    · simp [updateUsbAuth, hmounted, hopen, hzero] at hok

/-! ### Opens -/

/-- A process opens a file: the mount of the file, the process, and the path that the descriptor of
the event resolves to. -/
structure FileOpen where
  mntPoint : OsString
  pid : ℤ
  path : Option OsString

section Opens

variable (controller : Option (ServiceController schemes)) (gui : RequestFileAuth)
  (files : FileSystem) (daemonPid : ℤ)

/-- The answer of the event loop: the daemon itself is let through, and errors deny. There is no
controller when its lock is poisoned. -/
def allowEvent (event : FileOpen) : Bool :=
  if event.pid = daemonPid then true
  else
    match controller with
    | none => false
    | some controller =>
      match authorizeFile controller gui files ⟨event.path⟩ false with
      | .ok allow => allow
      | .error _ => false

/-- An open is permitted: the kernel asks the filter only on a marked mount. -/
def permits (filter : LinuxFileFilter) (event : FileOpen) : Bool :=
  if filter.fdOpen && event.mntPoint ∈ filter.marks then
    allowEvent controller gui files daemonPid event
  else true

/-- After an update that succeeds the opens on the mount go to the event loop when the authorization
allows something, and go through otherwise. -/
theorem permits_updateUsbAuth {filter : LinuxFileFilter} {update : UsbDevicePolicy}
    {answer : MarkAnswer} {event : FileOpen}
    (hmounted : update.device.mntPoint = some event.mntPoint)
    (hok : (updateUsbAuth filter update answer).2 = .ok ()) :
    permits controller gui files daemonPid (updateUsbAuth filter update answer).1 event =
      if update.auth.isAllowing then allowEvent controller gui files daemonPid event else true := by
  obtain ⟨hopen, hmark⟩ := mem_marks_updateUsbAuth hmounted hok
  by_cases hallowing : update.auth.isAllowing
  · rw [permits, if_pos hallowing, if_pos]
    simp only [hopen, hmark, hallowing, decide_true, Bool.and_self]
  · rw [permits, if_neg hallowing, if_neg]
    simp only [hmark, hallowing, decide_false, Bool.and_false, Bool.false_eq_true,
      not_false_eq_true]

/-- An open is permitted under the second authorization when it is under the first one, and under
`block` it is not. -/
def EnforcedInOrder (filter : LinuxFileFilter) (device : UsbDevice)
    (first second : UsbAuthorization) (firstAnswer secondAnswer : MarkAnswer) (event : FileOpen) :
    Prop :=
  (permits controller gui files daemonPid (updateUsbAuth filter ⟨device, first⟩ firstAnswer).1
      event →
    permits controller gui files daemonPid (updateUsbAuth filter ⟨device, second⟩ secondAnswer).1
      event) ∧
  (first = .block →
    ¬ permits controller gui files daemonPid (updateUsbAuth filter ⟨device, first⟩ firstAnswer).1
      event)

/-- Two authorizations are enforced in their order if and only if the lower one is not `block`.
Assumes: the device is mounted where the file is, both updates succeed, and the file is opened by
another process than the daemon. -/
theorem enforcedInOrder_iff {filter : LinuxFileFilter} {device : UsbDevice}
    {first second : UsbAuthorization} {firstAnswer secondAnswer : MarkAnswer} {event : FileOpen}
    (hmounted : device.mntPoint = some event.mntPoint)
    (hblock : UsbAuthorization.block.asU8 ≤ first.asU8) (horder : first.asU8 ≤ second.asU8)
    (hfirst : (updateUsbAuth filter ⟨device, first⟩ firstAnswer).2 = .ok ())
    (hsecond : (updateUsbAuth filter ⟨device, second⟩ secondAnswer).2 = .ok ())
    (_hpid : event.pid ≠ daemonPid) :
    EnforcedInOrder controller gui files daemonPid filter device first second firstAnswer
      secondAnswer event ↔ first ≠ .block := by
  have hafterFirst := permits_updateUsbAuth controller gui files daemonPid hmounted hfirst
  have hafterSecond := permits_updateUsbAuth controller gui files daemonPid hmounted hsecond
  rw [EnforcedInOrder, hafterFirst, hafterSecond]
  constructor
  · rintro ⟨-, hcloses⟩ rfl
    exact hcloses rfl rfl
  · intro hne
    have hbeyond : UsbAuthorization.block.asU8 < first.asU8 :=
      lt_of_le_of_ne hblock fun heq ↦ hne (UsbAuthorization.asU8_injective heq).symm
    rw [if_pos (UsbAuthorization.isAllowing_iff.mpr hbeyond),
      if_pos (UsbAuthorization.isAllowing_iff.mpr (hbeyond.trans_le horder))]
    exact ⟨id, fun hfalse ↦ absurd hfalse hne⟩

end Opens

/-- A mounted device. -/
def mountedDevice : UsbDevice where
  deviceId := .ofText "/dev/sdb1"
  mntPoint := some (.ofText "/media/usb")
  vendor := ⟨[]⟩
  model := ⟨[]⟩
  revision := ⟨[]⟩
  serial := ⟨[]⟩
  usbSyspath := none

/-- A file on the mounted device that a process opens. -/
def openedFile : FileOpen where
  mntPoint := .ofText "/media/usb"
  pid := 1
  path := some (.ofText "/media/usb/a.txt")

/-- A filter that has marked nothing. -/
def newFilter : LinuxFileFilter where
  fdOpen := true
  marks := ∅

/-- The order from `allowRead` to `allowAll` is enforced. -/
theorem enforcedInOrder_allowRead :
    EnforcedInOrder (some (.init strictPolicy (transparentPubKeys 0))) (fun _ ↦ .ok false)
      (loneFile (.ofText "/media/usb/a.txt")) 2 newFilter mountedDevice .allowRead .allowAll .done
      .done openedFile ↔ UsbAuthorization.allowRead ≠ .block :=
  enforcedInOrder_iff _ _ _ 2 rfl (by decide) (by decide) (by decide) (by decide) (by decide)

/-- Not every pair of authorizations is enforced in its order: a file that the user refuses under
`allowRead` is opened under `block`. -/
theorem not_forall_enforcedInOrder :
    ¬ ∀ (schemes : Schemes) (controller : Option (ServiceController schemes))
      (gui : RequestFileAuth) (files : FileSystem) (daemonPid : ℤ) (filter : LinuxFileFilter)
      (device : UsbDevice) (first second : UsbAuthorization) (firstAnswer secondAnswer : MarkAnswer)
      (event : FileOpen),
      device.mntPoint = some event.mntPoint → UsbAuthorization.block.asU8 ≤ first.asU8 →
        first.asU8 ≤ second.asU8 →
        (updateUsbAuth filter ⟨device, first⟩ firstAnswer).2 = .ok () →
        (updateUsbAuth filter ⟨device, second⟩ secondAnswer).2 = .ok () →
        event.pid ≠ daemonPid →
        EnforcedInOrder controller gui files daemonPid filter device first second firstAnswer
          secondAnswer event := by
  intro henforced
  have hrefused := (henforced transparentSchemes (some (.init strictPolicy (transparentPubKeys 0)))
    (fun _ ↦ .ok false) (loneFile (.ofText "/media/usb/a.txt")) 2 newFilter mountedDevice .block
    .allowRead .noEntry .done openedFile rfl (by decide) (by decide) (by decide) (by decide)
    (by decide)).1
  have hblocked : permits (some (.init strictPolicy (transparentPubKeys 0))) (fun _ ↦ .ok false)
      (loneFile (.ofText "/media/usb/a.txt")) 2
      (updateUsbAuth newFilter ⟨mountedDevice, .block⟩ .noEntry).1 openedFile = true := by
    decide
  exact absurd (hrefused hblocked) (by decide)

end Keysas.Firewall
