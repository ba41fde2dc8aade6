import Keysas.Firewall.UsbGrantSoundness

/-!
# Stale grants under the USB monitors

A monitor thread watches for devices, asks the controller to authorize each one it finds, and
reports the mount point of an accepted one. The Linux monitor also reports removals. The Windows
monitor does not: it only compares the drive letters it sees, and a drive that goes away leaves its
entry among the mounted devices of the controller.

`System` is the controller with the position of its monitor, the drives that Windows has attached,
and the result of the last call of `authorize_usb` for each device node. The events are what the two
monitors and the users do, in any order in which the monitors issue them.

`NoStaleGrant` says that a device refused by its last authorization has no allowing authorization,
neither by its node nor by its mount point, and stands in at most one table. The only event that
can break it is a refusal while the mounted devices still have an entry for the node or for a mount
point where it is attached. `noStaleGrant_of_run` says that it holds in every run without such an
event.
-/

set_option autoImplicit false
set_option relaxedAutoImplicit false

namespace Keysas.Firewall

open Crypto Keys Runs RustStd Store

variable {schemes : Schemes}

/-! ### Monitors -/

/-- The system on which the daemon runs. -/
inductive Platform where
  | linux
  | windows
  deriving DecidableEq

/-- The position of a monitor thread: it waits for a device, or it has an acceptance and not yet
reported the mount point, on Windows that of the drive. -/
inductive Phase where
  | waiting
  | accepted (device : UsbDevice) (drive : Option OsString)
  deriving DecidableEq

/-- What the monitors, the users and the hardware do. -/
inductive MonitorEvent where
  /-- A device is found and authorized, on Windows at a drive. -/
  | found (device : UsbDevice) (signature : Option String) (drive : Option OsString)
  /-- The accepted device is mounted and reported. -/
  | mounted (mntPoint : OsString)
  /-- All attempts to mount the accepted device fail, on Linux. -/
  | mountFailed
  /-- A drive is detached, on Windows. The monitor reports nothing. -/
  | detached (drive : OsString)
  /-- A partition is removed, on Linux. -/
  | partitionRemoved (deviceId : OsString)
  /-- A USB device is unplugged, on Linux. -/
  | usbRemoved (syspath : OsString)
  /-- A user unblocks a device. -/
  | overridden (deviceId : String) (writeSucceeds : Bool)

variable (schemes) in
/-- The controller with what surrounds it. -/
structure System where
  platform : Platform
  controller : ServiceController schemes
  phase : Phase
  /-- The device nodes of the attached drives and their mount points, on Windows. -/
  drives : List (OsString × OsString)
  /-- Whether the last authorization of a device node accepted it. -/
  verdict : OsString → Option Bool

/-- A system that has just started. -/
def System.init (platform : Platform) (policy : SecurityPolicy)
    (usbCaPub : KeysasHybridPubKeys schemes) : System schemes :=
  ⟨platform, .init policy usbCaPub, .waiting, [], fun _ ↦ none⟩

/-- The monitors issue the event in this state. -/
def issued (system : System schemes) : MonitorEvent → Bool
  | .found device _ drive =>
    decide (system.phase = .waiting) && decide (device.mntPoint = none) &&
      match system.platform, drive with
      | .linux, none => true
      | .windows, some drive => system.drives.all fun attached ↦ attached.2 ≠ drive
      | _, _ => false
  | .mounted mntPoint =>
    match system.phase with
    | .waiting => false
    | .accepted _ none => true
    | .accepted _ (some drive) => mntPoint = drive
  | .mountFailed => system.platform = .linux && system.phase ≠ .waiting
  | .detached _ => system.platform = .windows
  | .partitionRemoved _ => system.platform = .linux && system.phase = .waiting
  | .usbRemoved _ => system.platform = .linux && system.phase = .waiting
  | .overridden _ _ => true

/-- The attached drives once a device is found. -/
def attachedDrives (system : System schemes) (device : UsbDevice) (drive : Option OsString) :
    List (OsString × OsString) :=
  (drive.map fun mntPoint ↦ (device.deviceId, mntPoint)).toList ++ system.drives

/-- A result of `authorize_usb` on which the monitors go on to mount the device. -/
def isAcceptance : Except UsbError Bool → Bool
  | .ok accepts => accepts
  | .error _ => false

/-- The call of `authorize_usb` by a monitor, and what the monitor does with the result. -/
def foundStep (system : System schemes) (device : UsbDevice) (signature : Option String)
    (drive : Option OsString) : System schemes :=
  let ending := (authorizeUsb device signature).run system.controller
  { system with
    controller := ending.state
    phase := if isAcceptance ending.value then .accepted device drive else .waiting
    drives := attachedDrives system device drive
    verdict :=
      Function.update system.verdict device.deviceId (some (isAcceptance ending.value)) }

/-- The next state of the system. -/
def systemStep (system : System schemes) : MonitorEvent → System schemes × Unit
  | .found device signature drive => (foundStep system device signature drive, ())
  | .mounted mntPoint =>
    match system.phase with
    | .waiting => (system, ())
    | .accepted device _ =>
      let report := { device with mntPoint := some mntPoint }
      ({ system with
          controller := ((updateUsb report).run system.controller).state
          phase := .waiting }, ())
  | .mountFailed => ({ system with phase := .waiting }, ())
  | .detached drive =>
    ({ system with drives := system.drives.filter fun attached ↦ attached.2 ≠ drive }, ())
  | .partitionRemoved deviceId =>
    ({ system with controller := ((removeUsb deviceId).run system.controller).state }, ())
  | .usbRemoved syspath =>
    let deviceIds := unmountedUsbIdsWithSyspathPrefix system.controller syspath
    ({ system with
        controller := deviceIds.foldl
          (fun controller deviceId ↦ ((forceRemoveUsb deviceId).run controller).state)
          system.controller }, ())
  | .overridden deviceId writeSucceeds =>
    ({ system with
        controller :=
          ((overrideBlockedUsb deviceId writeSucceeds).run system.controller).state }, ())

/-! ### The property -/

/-- The mounted devices in an order in which the table may be iterated over. -/
def IsMountedOrder (controller : ServiceController schemes)
    (values : List UsbDevicePolicy) : Prop :=
  values.Perm (controller.mountedUsb.entries.map Sigma.snd)

/-- A device refused by its last authorization has no allowing authorization and stands in at most
one table. -/
def NoStaleGrant (system : System schemes) : Prop :=
  ∀ deviceId, system.verdict deviceId = some false →
    (∀ auth, getUsbAuth system.controller deviceId = some auth → auth.isAllowing = false) ∧
    (∀ mntPoint values auth, (deviceId, mntPoint) ∈ system.drives →
      IsMountedOrder system.controller values →
      getUsbAuthByMount values mntPoint = some auth → auth.isAllowing = false) ∧
    ¬ (deviceId ∈ system.controller.unmountedUsb ∧ deviceId ∈ system.controller.mountedUsb)

/-! ### The condition -/

/-- The controller has to refuse the device: its entry is pending, or it is evaluated, its signature
does not verify, and the policy or the form of the signature does not let it pass without one. -/
def refuses (controller : ServiceController schemes) (device : UsbDevice)
    (signature : Option String) : Bool :=
  match controller.unmountedUsb.lookup device.deviceId with
  | some existing =>
    !existing.auth.isAllowing &&
      (existing.auth = .pending || !acceptsNew controller device signature)
  | none => !acceptsNew controller device signature
where
  acceptsNew (controller : ServiceController schemes) (device : UsbDevice) :
      Option String → Bool
    | none => controller.policy.disableUnsignedUsb
    | some sigBlock =>
      match validateUsbSignature controller.usbCaPub device sigBlock with
      | .ok valid => valid || controller.policy.disableUnsignedUsb
      | .error _ => false

/-- No mounted device has the node of the device, and none has a mount point at which the device is
attached, `drive` included. -/
def unmountedEverywhere (system : System schemes) (device : UsbDevice) (drive : Option OsString) :
    Bool :=
  (system.controller.mountedUsb.lookup device.deviceId).isNone &&
    system.controller.mountedUsb.entries.all fun entry ↦
      (attachedDrives system device drive).all fun attached ↦
        attached.1 ≠ device.deviceId || decide (entry.2.device.mntPoint ≠ some attached.2)

/-- The event is not a refusal of a device that still counts as mounted. -/
def refusesOnlyUnmounted (system : System schemes) : MonitorEvent → Bool
  | .found device signature drive =>
    !refuses system.controller device signature || unmountedEverywhere system device drive
  | _ => true

/-- A new device is accepted exactly when its evaluation allows it. -/
theorem isAcceptance_evaluateUsb (controller : ServiceController schemes) (device : UsbDevice)
    (signature : Option String) :
    isAcceptance ((evaluateUsb controller device signature).map UsbAuthorization.isAllowing) =
      refuses.acceptsNew controller device signature := by
  cases signature with
  | none =>
    cases hdisable : controller.policy.disableUnsignedUsb <;>
      simp [evaluateUsb, refuses.acceptsNew, isAcceptance, Except.map, hdisable,
        UsbAuthorization.isAllowing]
  | some sigBlock =>
    rcases hvalid : validateUsbSignature controller.usbCaPub device sigBlock with error | _ | _
    · simp [evaluateUsb, refuses.acceptsNew, isAcceptance, Except.map, hvalid]
    · cases hdisable : controller.policy.disableUnsignedUsb <;>
        simp [evaluateUsb, refuses.acceptsNew, isAcceptance, Except.map, hvalid, hdisable,
          UsbAuthorization.isAllowing]
    · cases hwrite : controller.policy.allowUserFileWrite <;>
        simp [evaluateUsb, refuses.acceptsNew, isAcceptance, Except.map, hvalid, hwrite,
          UsbAuthorization.isAllowing]

/-- The monitors accept a device exactly when the controller does not have to refuse it. -/
theorem isAcceptance_authorizeUsb (controller : ServiceController schemes) (device : UsbDevice)
    (signature : Option String) :
    isAcceptance ((authorizeUsb device signature).run controller).value =
      !refuses controller device signature := by
  rcases authorizeUsb_cases controller device signature with
    ⟨existing, hlookup, hpending, hending⟩ | ⟨existing, hlookup, hallowing, hending⟩ |
    ⟨hblocked, -, -, -, hvalue⟩
  · simp [refuses, hlookup, hpending, hending, isAcceptance, UsbAuthorization.isAllowing]
  · simp [refuses, hlookup, hallowing, hending, isAcceptance]
  · rw [hvalue, isAcceptance_evaluateUsb]
    cases hlookup : controller.unmountedUsb.lookup device.deviceId with
    | none => simp [refuses, hlookup]
    | some existing =>
      simp [refuses, hlookup, hblocked existing hlookup, UsbAuthorization.isAllowing]

/-! ### What leaves the mounted devices alone -/

theorem mountedUsb_authorizeUsb (controller : ServiceController schemes) (device : UsbDevice)
    (signature : Option String) :
    ((authorizeUsb device signature).run controller).state.mountedUsb = controller.mountedUsb := by
  rcases authorizeUsb_cases controller device signature with
    ⟨_, _, _, hending⟩ | ⟨_, _, _, hending⟩ | ⟨_, _, _, hstate, _⟩
  · rw [hending]
  · rw [hending]
  · rw [hstate]

theorem mountedUsb_overrideBlockedUsb (controller : ServiceController schemes) (deviceId : String)
    (writeSucceeds : Bool) :
    ((overrideBlockedUsb deviceId writeSucceeds).run controller).state.mountedUsb =
      controller.mountedUsb := by
  by_cases hreaches : reachesWrite controller deviceId
  · obtain ⟨_, _, _, _, _, hstate, _⟩ :=
      overrideBlockedUsb_of_reachesWrite controller hreaches writeSucceeds
    rw [hstate]
  · obtain ⟨_, hending⟩ :=
      overrideBlockedUsb_of_not_reachesWrite controller (by simpa using hreaches) writeSucceeds
    rw [hending]

theorem mountedUsb_foldl_forceRemoveUsb (deviceIds : List OsString)
    (controller : ServiceController schemes) :
    (deviceIds.foldl (fun controller deviceId ↦ ((forceRemoveUsb deviceId).run controller).state)
      controller).mountedUsb = controller.mountedUsb := by
  induction deviceIds generalizing controller with
  | nil => rfl
  | cons deviceId others ih => exact ih _

/-! ### The invariant -/

/-- What holds in every state: a refused device is neither mounted by its node nor at one of its
drives, an acceptance that the monitor holds is the last verdict, and its drive is no other
device's. -/
structure StaleInvariant (system : System schemes) : Prop where
  mounted_none : ∀ deviceId, system.verdict deviceId = some false →
    system.controller.mountedUsb.lookup deviceId = none
  mntPoint_ne : ∀ deviceId mntPoint, system.verdict deviceId = some false →
    (deviceId, mntPoint) ∈ system.drives →
      AllEntries (fun _ entry ↦ entry.device.mntPoint ≠ some mntPoint) system.controller.mountedUsb
  accepted : ∀ device drive, system.phase = .accepted device drive →
    system.verdict device.deviceId = some true
  drive_eq : ∀ device drive deviceId, system.phase = .accepted device (some drive) →
    (deviceId, drive) ∈ system.drives → deviceId = device.deviceId
  drives_nil : ∀ device, system.phase = .accepted device none → system.drives = []
  linux : system.platform = .linux → system.drives = []

theorem StaleInvariant.init (platform : Platform) (policy : SecurityPolicy)
    (usbCaPub : KeysasHybridPubKeys schemes) :
    StaleInvariant (System.init platform policy usbCaPub) where
  mounted_none deviceId hverdict := by cases hverdict
  mntPoint_ne deviceId mntPoint hverdict _ := by cases hverdict
  accepted device drive hphase := by cases hphase
  drive_eq device drive deviceId hphase _ := by cases hphase
  drives_nil device hphase := by cases hphase
  linux _ := rfl

/-- A system that satisfies the invariant grants nothing stale. -/
theorem StaleInvariant.noStaleGrant {system : System schemes} (hinvariant : StaleInvariant system) :
    NoStaleGrant system := by
  intro deviceId hverdict
  have hmounted := hinvariant.mounted_none deviceId hverdict
  refine ⟨?_, ?_, ?_⟩
  · intro auth hauth
    rw [getUsbAuth, hmounted] at hauth
    cases hauth
  · intro mntPoint values auth hdrive horder hauth
    obtain ⟨entry, hentry, -⟩ := Option.map_eq_some_iff.mp hauth
    obtain ⟨⟨key, found⟩, hmem, rfl⟩ :=
      List.mem_map.mp (horder.mem_iff.mp (List.mem_of_find?_eq_some hentry))
    have hlookup := AList.mem_lookup_iff.mpr hmem
    have hne := hinvariant.mntPoint_ne deviceId mntPoint hverdict hdrive key found hlookup
    exact absurd (by simpa using List.find?_some hentry) hne
  · rintro ⟨-, hmem⟩
    rw [← AList.lookup_isSome, hmounted] at hmem
    cases hmem

/-! ### Steps -/

section Steps

variable {system : System schemes}

/-- The invariant survives what adds no mounted device and leaves the monitor alone. -/
theorem StaleInvariant.keep (hinvariant : StaleInvariant system)
    {controller : ServiceController schemes}
    (hmounted : ∀ key entry, controller.mountedUsb.lookup key = some entry →
      system.controller.mountedUsb.lookup key = some entry) :
    StaleInvariant { system with controller := controller } where
  mounted_none deviceId hverdict := by
    have hbefore := hinvariant.mounted_none deviceId hverdict
    cases hlookup : controller.mountedUsb.lookup deviceId with
    | none => rfl
    | some entry =>
      rw [hmounted deviceId entry hlookup] at hbefore
      cases hbefore
  mntPoint_ne deviceId mntPoint hverdict hdrive key entry hlookup :=
    hinvariant.mntPoint_ne deviceId mntPoint hverdict hdrive key entry (hmounted key entry hlookup)
  accepted := hinvariant.accepted
  drive_eq := hinvariant.drive_eq
  drives_nil := hinvariant.drives_nil
  linux := hinvariant.linux

/-- The invariant survives when the monitor goes back to waiting. Assumes: the refused devices are
not mounted. -/
theorem StaleInvariant.wait (hinvariant : StaleInvariant system)
    {controller : ServiceController schemes}
    (hnone : ∀ deviceId, system.verdict deviceId = some false →
      controller.mountedUsb.lookup deviceId = none)
    (hne : ∀ deviceId mntPoint, system.verdict deviceId = some false →
      (deviceId, mntPoint) ∈ system.drives →
        AllEntries (fun _ entry ↦ entry.device.mntPoint ≠ some mntPoint) controller.mountedUsb) :
    StaleInvariant { system with controller := controller, phase := .waiting } where
  mounted_none := hnone
  mntPoint_ne := hne
  accepted device drive hphase := by cases hphase
  drive_eq device drive deviceId hphase _ := by cases hphase
  drives_nil device hphase := by cases hphase
  linux := hinvariant.linux

section Found

variable {device : UsbDevice} {signature : Option String} {drive : Option OsString}

/-- The drives that are attached are that of the device and those from before. -/
theorem mem_attachedDrives {deviceId mntPoint : OsString}
    (hmem : (deviceId, mntPoint) ∈ attachedDrives system device drive) :
    (deviceId = device.deviceId ∧ drive = some mntPoint) ∨
      (deviceId, mntPoint) ∈ system.drives := by
  rcases List.mem_append.mp hmem with hnew | hold
  · cases drive with
    | none => simp at hnew
    | some attached => exact .inl (by simpa [eq_comm] using hnew)
  · exact .inr hold

/-- A device that is refused after an authorization is the one of the call, or was refused before.
Assumes: the call does not refuse a device that still counts as mounted. -/
theorem verdict_foundStep_cases
    (hrefuses : refusesOnlyUnmounted system (.found device signature drive)) {deviceId : OsString}
    (hverdict : (foundStep system device signature drive).verdict deviceId = some false) :
    (deviceId = device.deviceId ∧ unmountedEverywhere system device drive) ∨
      (deviceId ≠ device.deviceId ∧ system.verdict deviceId = some false) := by
  have haccepts := isAcceptance_authorizeUsb system.controller device signature
  by_cases hself : deviceId = device.deviceId
  · subst hself
    have hrefused : refuses system.controller device signature = true := by
      simpa [foundStep, haccepts] using hverdict
    exact .inl ⟨rfl, by simpa [refusesOnlyUnmounted, hrefused] using hrefuses⟩
  · exact .inr ⟨hself, by simpa [foundStep, hself] using hverdict⟩

/-- An acceptance that the monitor holds after an authorization is that of the call. -/
theorem of_phase_foundStep {accepted : UsbDevice} {acceptedDrive : Option OsString}
    (hphase : (foundStep system device signature drive).phase = .accepted accepted acceptedDrive) :
    isAcceptance ((authorizeUsb device signature).run system.controller).value = true ∧
      device = accepted ∧ drive = acceptedDrive := by
  by_cases haccepted : isAcceptance ((authorizeUsb device signature).run system.controller).value
  · exact ⟨haccepted, by simpa [foundStep, haccepted] using hphase⟩
  · simp [foundStep, haccepted] at hphase

/-- An authorization keeps the invariant. Assumes: the monitor issues it, and it does not refuse a
device that still counts as mounted. -/
theorem StaleInvariant.found (hinvariant : StaleInvariant system)
    (hissued : issued system (.found device signature drive))
    (hrefuses : refusesOnlyUnmounted system (.found device signature drive)) :
    StaleInvariant (foundStep system device signature drive) := by
  have hmounted := mountedUsb_authorizeUsb system.controller device signature
  obtain ⟨-, hplatform⟩ := Bool.and_eq_true_iff.mp hissued
  constructor
  case mounted_none =>
    intro deviceId hrefused
    simp only [foundStep, hmounted]
    rcases verdict_foundStep_cases hrefuses hrefused with ⟨rfl, hunmounted⟩ | ⟨-, hbefore⟩
    · exact Option.isNone_iff_eq_none.mp (Bool.and_eq_true_iff.mp hunmounted).1
    · exact hinvariant.mounted_none deviceId hbefore
  case mntPoint_ne =>
    intro deviceId mntPoint hrefused hdrive
    simp only [foundStep, hmounted]
    rcases verdict_foundStep_cases hrefuses hrefused with ⟨rfl, hunmounted⟩ | ⟨hother, hbefore⟩
    · intro key entry hlookup
      have hentries := List.all_eq_true.mp (Bool.and_eq_true_iff.mp hunmounted).2 ⟨key, entry⟩
        (AList.mem_lookup_iff.mp hlookup)
      have hattached := List.all_eq_true.mp hentries (device.deviceId, mntPoint) hdrive
      simpa using hattached
    · rcases mem_attachedDrives hdrive with ⟨hself, -⟩ | hattached
      · exact absurd hself hother
      · exact hinvariant.mntPoint_ne deviceId mntPoint hbefore hattached
  case accepted =>
    intro accepted acceptedDrive hphase
    obtain ⟨haccepted, rfl, -⟩ := of_phase_foundStep hphase
    simp [foundStep, haccepted]
  case drive_eq =>
    intro accepted acceptedDrive deviceId hphase hdrive
    obtain ⟨-, rfl, rfl⟩ := of_phase_foundStep hphase
    rcases mem_attachedDrives hdrive with ⟨hself, -⟩ | hattached
    · exact hself
    · cases hsystem : system.platform with
      | linux => simp [hsystem] at hplatform
      | windows =>
        rw [hsystem] at hplatform
        have hfree := List.all_eq_true.mp hplatform (deviceId, acceptedDrive) hattached
        simp at hfree
  case drives_nil =>
    intro accepted hphase
    obtain ⟨-, rfl, rfl⟩ := of_phase_foundStep hphase
    cases hsystem : system.platform with
    | linux => exact hinvariant.linux hsystem
    | windows => simp [hsystem] at hplatform
  case linux =>
    intro hlinux
    have hsystem : system.platform = .linux := hlinux
    cases drive with
    | none => exact hinvariant.linux hsystem
    | some attached => simp [hsystem] at hplatform

end Found

/-- The report of a mount keeps the invariant. Assumes: the monitor issues it. -/
theorem StaleInvariant.mounted (hinvariant : StaleInvariant system) {mntPoint : OsString}
    (hissued : issued system (.mounted mntPoint)) :
    StaleInvariant (systemStep system (.mounted mntPoint)).1 := by
  cases hphase : system.phase with
  | waiting => simp [issued, hphase] at hissued
  | accepted device drive =>
    simp only [systemStep, hphase]
    have haccepted := hinvariant.accepted device drive hphase
    -- the new mount point is where no refused device is attached
    have hmntPoint : ∀ deviceId other, system.verdict deviceId = some false →
        (deviceId, other) ∈ system.drives → mntPoint ≠ other := by
      rintro deviceId other hverdict hdrive rfl
      cases drive with
      | none =>
        rw [hinvariant.drives_nil device hphase] at hdrive
        cases hdrive
      | some attached =>
        obtain rfl : mntPoint = attached := by simpa [issued, hphase] using hissued
        rw [hinvariant.drive_eq device mntPoint deviceId hphase hdrive, haccepted] at hverdict
        cases hverdict
    rcases updateUsb_cases system.controller { device with mntPoint := some mntPoint } with
      ⟨-, hending⟩ | ⟨entry, unmounted, mounted, -, -, hassigns, hstate, -⟩
    · rw [hending]
      exact hinvariant.wait hinvariant.mounted_none hinvariant.mntPoint_ne
    · rw [hstate]
      refine hinvariant.wait ?_ ?_
      · intro deviceId hverdict
        have hother : deviceId ≠ device.deviceId := by
          rintro rfl
          rw [haccepted] at hverdict
          cases hverdict
        exact (hassigns.lookup_of_ne hother).trans (hinvariant.mounted_none deviceId hverdict)
      · intro deviceId other hverdict hdrive
        refine (hinvariant.mntPoint_ne deviceId other hverdict hdrive).assign hassigns ?_
          fun _ _ _ hentry ↦ hentry
        intro assigned hassigned
        obtain rfl := Option.some.inj hassigned
        simpa using hmntPoint deviceId other hverdict hdrive

theorem StaleInvariant.detached (hinvariant : StaleInvariant system) (drive : OsString) :
    StaleInvariant (systemStep system (.detached drive)).1 where
  mounted_none := hinvariant.mounted_none
  mntPoint_ne deviceId mntPoint hverdict hdrive :=
    hinvariant.mntPoint_ne deviceId mntPoint hverdict (List.mem_of_mem_filter hdrive)
  accepted := hinvariant.accepted
  drive_eq device attached deviceId hphase hdrive :=
    hinvariant.drive_eq device attached deviceId hphase (List.mem_of_mem_filter hdrive)
  drives_nil device hphase := by
    simp only [systemStep, hinvariant.drives_nil device hphase, List.filter_nil]
  linux hlinux := by
    simp only [systemStep, hinvariant.linux hlinux, List.filter_nil]

theorem StaleInvariant.partitionRemoved (hinvariant : StaleInvariant system)
    (deviceId : OsString) :
    StaleInvariant (systemStep system (.partitionRemoved deviceId)).1 := by
  rcases removeUsb_cases system.controller deviceId with
    ⟨mounted, hmounted, hstate⟩ | ⟨-, unmounted, -, hstate⟩ | ⟨-, hstate⟩
  · simp only [systemStep, hstate]
    refine hinvariant.keep fun key entry hlookup ↦ ?_
    by_cases hkey : key = deviceId
    · rw [hkey, hmounted.lookup_self] at hlookup
      cases hlookup
    · rwa [← hmounted.lookup_of_ne hkey]
  · simp only [systemStep, hstate]
    exact hinvariant.keep fun _ _ hlookup ↦ hlookup
  · simp only [systemStep, hstate]
    exact hinvariant.keep fun _ _ hlookup ↦ hlookup

theorem StaleInvariant.mountFailed (hinvariant : StaleInvariant system) :
    StaleInvariant (systemStep system .mountFailed).1 :=
  hinvariant.wait hinvariant.mounted_none hinvariant.mntPoint_ne

/-- One event keeps the invariant. Assumes: the monitors issue it, and it does not refuse a device
that still counts as mounted. -/
theorem StaleInvariant.step (hinvariant : StaleInvariant system) {event : MonitorEvent}
    (hissued : issued system event) (hrefuses : refusesOnlyUnmounted system event) :
    StaleInvariant (systemStep system event).1 := by
  cases event with
  | found device signature drive => exact hinvariant.found hissued hrefuses
  | mounted mntPoint => exact hinvariant.mounted hissued
  | mountFailed => exact hinvariant.mountFailed
  | detached drive => exact hinvariant.detached drive
  | partitionRemoved deviceId => exact hinvariant.partitionRemoved deviceId
  | usbRemoved syspath =>
    refine hinvariant.keep fun key entry hlookup ↦ ?_
    rwa [mountedUsb_foldl_forceRemoveUsb] at hlookup
  | overridden deviceId writeSucceeds =>
    refine hinvariant.keep fun key entry hlookup ↦ ?_
    rwa [mountedUsb_overrideBlockedUsb] at hlookup

end Steps

/-! ### Runs -/

/-- In a run of the monitors without a refusal of a device that still counts as mounted, nothing
stale is granted in any state. Assumes: the monitors issue the events, and whenever the controller
has to refuse a device, the mounted devices have no entry for its node or for a mount point where it
is attached. -/
theorem noStaleGrant_of_run (platform : Platform) (policy : SecurityPolicy)
    (usbCaPub : KeysasHybridPubKeys schemes) {history : List (MonitorEvent × Unit)}
    {system : System schemes}
    (hrun : Run systemStep
      (fun _ system event ↦ issued system event = true ∧ refusesOnlyUnmounted system event = true)
      (System.init platform policy usbCaPub) history system) :
    NoStaleGrant system := by
  have hinvariant : StaleInvariant system := by
    refine hrun.holds (StaleInvariant.init platform policy usbCaPub) ?_
    intro _ reached event hreached hadmitted
    exact hreached.step hadmitted.1 hadmitted.2
  exact hinvariant.noStaleGrant

/-- The run in which an unsigned device is refused and its partition removed, on Linux. -/
theorem noStaleGrant_of_run_refused :
    NoStaleGrant (execute systemStep (System.init .linux overridePolicy (transparentPubKeys 0))
      [.found unsignedDevice none none, .partitionRemoved unsignedDevice.deviceId]).2 :=
  noStaleGrant_of_run .linux overridePolicy (transparentPubKeys 0) (run_execute _ (by decide))

/-- A removable disk under Windows. -/
def removableDisk : UsbDevice where
  deviceId := .ofText "\\\\.\\PhysicalDrive1"
  mntPoint := none
  vendor := .ofText "SanDisk"
  model := .ofText "Ultra"
  revision := .ofText "1.00"
  serial := .ofText "4C53"
  usbSyspath := none

/-- The signature block of a device under the transparent schemes. -/
def transparentSignature (device : UsbDevice) : String :=
  let message := Wire.Bincode.utf8 (signedData device)
  Base64.encode (transparentEd25519.sign (0 : UInt8) message) ++ "|" ++
    Base64.encode (0 :: message)

/-- A signed disk is accepted at a drive and detached, and then an unsigned one takes its place. -/
def replacedDisk : List MonitorEvent :=
  let drive := OsString.ofText "D:\\"
  [.found removableDisk (some (transparentSignature removableDisk)) (some drive), .mounted drive,
    .detached drive, .found removableDisk none (some drive)]

/-- Not every run is without stale grants: on Windows the unsigned disk is refused, and yet its node
keeps the authorization of the signed one. -/
theorem not_forall_run_noStaleGrant :
    ¬ ∀ (schemes : Schemes) (platform : Platform) (policy : SecurityPolicy)
      (usbCaPub : KeysasHybridPubKeys schemes) (history : List (MonitorEvent × Unit))
      (system : System schemes),
      Run systemStep (fun _ system event ↦ issued system event = true)
        (System.init platform policy usbCaPub) history system → NoStaleGrant system := by
  intro hnone
  obtain ⟨hadmits, hverdict, hauth⟩ :
      Admits systemStep (fun _ system event ↦ issued system event = true) []
        (System.init .windows overridePolicy (transparentPubKeys 0)) replacedDisk ∧
      (execute systemStep (System.init .windows overridePolicy (transparentPubKeys 0))
        replacedDisk).2.verdict removableDisk.deviceId = some false ∧
      getUsbAuth (execute systemStep (System.init .windows overridePolicy (transparentPubKeys 0))
        replacedDisk).2.controller removableDisk.deviceId = some .allowRead := by
    decide +kernel
  have hfinal := hnone _ _ _ _ _ _ (run_execute replacedDisk hadmits) removableDisk.deviceId
  exact Bool.noConfusion ((hfinal hverdict).1 .allowRead hauth)

end Keysas.Firewall
