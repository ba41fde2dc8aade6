import Keysas.Firewall.MountTable
import Keysas.Firewall.StaleGrant
import Keysas.Rust.UnixPath

/-!
# Hot restart of the Linux daemon

Under Linux the monitor writes a sentinel file for each device that it mounts, named after the
device, and removes it with the partition. A daemon that starts rebuilds its mounted devices from
these sentinels: `recoverMountedDevices` takes the sentinels whose device node is there, looks the
mount point up in the mount table of the kernel, and gives the device the authorization of a
certified device. The decision itself is not kept anywhere.

`Daemon` is the controller with its monitor and the sentinels. `rebuilds_of_run` says what a restart
brings back in every state that a run reaches: the nodes, the mount points, and the authorizations,
but for a device that was let through without a signature, which had all rights and comes back with
those of a certified one.
-/

set_option autoImplicit false
set_option relaxedAutoImplicit false

namespace Keysas.Firewall

open Crypto Keys Runs RustStd Store

variable {schemes : Schemes}

/-! ### Recovery -/

/-- The name of the sentinel of a device. -/
def devNameOf (deviceId : OsString) : String :=
  (deviceId.fileName.map OsString.toStringLossy).getD "usb"

/-- The device node of a sentinel. -/
def nodeOf (devName : String) : OsString :=
  .ofText ("/dev/" ++ devName)

/-- What a starting daemon finds. -/
structure RestartView where
  /-- The names in `/run/keysas/certified` in the order of the directory, when it can be read. -/
  certified : Option (List OsString)
  /-- There is a device node. -/
  nodeExists : OsString → Bool
  /-- The lines of `/proc/mounts`. -/
  mounts : MountLines

/-- The pass of `recover_mounted_devices` over an entry of the directory. The sentinel of a device
that is gone is removed, see `keptSentinels`. -/
def recoverEntry (view : RestartView) (name : OsString) :
    Program Effect (ServiceController schemes) UsbError Unit :=
  let devName := name.toStringLossy
  if view.nodeExists (nodeOf devName) then
    match findMountPoint (nodeOf devName) view.mounts with
    | some mntPoint => recoverMountedDevice devName mntPoint
    | none => return ()
  else
    return ()

/-- The loop of `recover_mounted_devices`. -/
def recoverEntries (view : RestartView) :
    List OsString → Program Effect (ServiceController schemes) UsbError Unit
  | [] => return ()
  | name :: names => do
    recoverEntry view name
    recoverEntries view names

/-- `recover_mounted_devices`. -/
def recoverMountedDevices (view : RestartView) :
    Program Effect (ServiceController schemes) UsbError Unit :=
  match view.certified with
  | none => return ()
  | some names => recoverEntries view names

/-- The sentinels that a recovery leaves. -/
def keptSentinels (view : RestartView) (sentinels : List String) : List String :=
  sentinels.filter fun devName ↦ view.nodeExists (nodeOf devName)

/-- The controller of a daemon that has just started. -/
def startedController (view : RestartView) (policy : SecurityPolicy)
    (usbCaPub : KeysasHybridPubKeys schemes) : ServiceController schemes :=
  ((recoverMountedDevices view).run (.init policy usbCaPub)).state

/-! ### The daemon -/

variable (schemes) in
/-- The controller with its monitor and the sentinels. -/
structure Daemon where
  controller : ServiceController schemes
  /-- The device that the monitor is about to mount. -/
  accepted : Option UsbDevice
  /-- The names in `/run/keysas/certified`. -/
  sentinels : List String

/-- A daemon after the system has booted. -/
def Daemon.init (policy : SecurityPolicy) (usbCaPub : KeysasHybridPubKeys schemes) :
    Daemon schemes :=
  ⟨.init policy usbCaPub, none, []⟩

/-- What the monitor, the users and the administrator do. -/
inductive DaemonEvent where
  /-- A partition is found and authorized. -/
  | found (device : UsbDevice) (signature : Option String)
  /-- The sentinel of the accepted device is written, before it is mounted. -/
  | sentinelWritten
  /-- The accepted device is mounted and reported. -/
  | mounted (mntPoint : String)
  /-- All attempts to mount the accepted device fail. -/
  | mountFailed
  /-- A partition is removed. -/
  | partitionRemoved (deviceId : OsString) (sysname : String)
  /-- A USB device is unplugged. -/
  | usbRemoved (syspath : OsString)
  /-- A user unblocks a device. -/
  | overridden (deviceId : String) (writeSucceeds : Bool)
  /-- The daemon is started again with the same configuration. -/
  | restarted (view : RestartView)

/-- The next state of the daemon. -/
def daemonStep (daemon : Daemon schemes) : DaemonEvent → Daemon schemes × Unit
  | .found device signature =>
    let ending := (authorizeUsb device signature).run daemon.controller
    ({ daemon with
        controller := ending.state
        accepted := if isAcceptance ending.value then some device else none }, ())
  | .sentinelWritten =>
    match daemon.accepted with
    | none => (daemon, ())
    | some device =>
      ({ daemon with sentinels := daemon.sentinels.insert (devNameOf device.deviceId) }, ())
  | .mounted mntPoint =>
    match daemon.accepted with
    | none => (daemon, ())
    | some device =>
      let report := { device with mntPoint := some (.ofText mntPoint) }
      ({ daemon with
          controller := ((updateUsb report).run daemon.controller).state
          accepted := none }, ())
  | .mountFailed => ({ daemon with accepted := none }, ())
  | .partitionRemoved deviceId sysname =>
    ({ daemon with
        controller := ((removeUsb deviceId).run daemon.controller).state
        sentinels := daemon.sentinels.filter fun devName ↦ devName ≠ sysname }, ())
  | .usbRemoved syspath =>
    let deviceIds := unmountedUsbIdsWithSyspathPrefix daemon.controller syspath
    ({ daemon with
        controller := deviceIds.foldl
          (fun controller deviceId ↦ ((forceRemoveUsb deviceId).run controller).state)
          daemon.controller }, ())
  | .overridden deviceId writeSucceeds =>
    ({ daemon with
        controller :=
          ((overrideBlockedUsb deviceId writeSucceeds).run daemon.controller).state }, ())
  | .restarted view =>
    ({ controller := startedController view daemon.controller.policy daemon.controller.usbCaPub
       accepted := none
       sentinels := keptSentinels view daemon.sentinels }, ())

/-- What the view has of the sentinel directory: the names of the sentinels in any order. -/
def RestartView.Reads (view : RestartView) (sentinels : List String) : Prop :=
  (view.certified.getD []).Perm (sentinels.map .ofText)

/-- The event may happen in this state: the monitor does one thing after the other, the node of a
partition stands under `/dev` with the name of the partition, a device that is mounted has its
sentinel, and a starting daemon can read the sentinels. -/
def Daemon.Issues (daemon : Daemon schemes) : DaemonEvent → Prop
  | .found device _ =>
    daemon.accepted = none ∧ device.mntPoint = none ∧
      device.deviceId = nodeOf (devNameOf device.deviceId)
  | .sentinelWritten => ∃ device, daemon.accepted = some device
  | .mounted _ =>
    ∃ device, daemon.accepted = some device ∧ devNameOf device.deviceId ∈ daemon.sentinels
  | .mountFailed => ∃ device, daemon.accepted = some device
  | .partitionRemoved deviceId sysname => daemon.accepted = none ∧ deviceId = nodeOf sysname
  | .usbRemoved _ => daemon.accepted = none
  | .overridden _ _ => True
  | .restarted view => view.Reads daemon.sentinels

/-! ### The property -/

/-- What is compared of a mounted device: its node, its mount point and its authorization. -/
def registration (entry : UsbDevicePolicy) : OsString × Option OsString × UsbAuthorization :=
  (entry.device.deviceId, entry.device.mntPoint, entry.auth)

/-- The authorization that a mounted device has after a restart: the right to everything, which is
given without a signature, becomes the right of a certified device. -/
def restartedAuth (policy : SecurityPolicy) (auth : UsbAuthorization) : UsbAuthorization :=
  if auth = .allowAll then overrideAuth policy else auth

/-- The mounted devices are still there and mounted where they were reported, no mount is listed
before theirs for the same node, and no other device that has a sentinel is mounted. The kernel
escapes no character of their nodes and mount points. -/
structure StillMounted (daemon : Daemon schemes) (view : RestartView) : Prop where
  reads : view.Reads daemon.sentinels
  listed : AllEntries (fun key entry ↦ ∃ device mntPoint, key = .ofText device ∧
    entry.device.mntPoint = some (.ofText mntPoint) ∧ view.nodeExists key = true ∧
      IsPlain device ∧ IsPlain mntPoint ∧ ListedAt view.mounts device mntPoint)
    daemon.controller.mountedUsb
  others : ∀ devName ∈ daemon.sentinels,
    daemon.controller.mountedUsb.lookup (nodeOf devName) = none →
      view.nodeExists (nodeOf devName) = true → NotListed view.mounts ("/dev/" ++ devName)

/-! ### What a recovery rebuilds -/

/-- The entry that a recovery makes for a sentinel, if any. -/
def recoveredEntry (view : RestartView) (policy : SecurityPolicy) (devName : String) :
    Option UsbDevicePolicy :=
  if view.nodeExists (nodeOf devName) then
    (findMountPoint (nodeOf devName) view.mounts).map (recoveredPolicy policy devName)
  else none

/-- The device of a recovered entry is there and listed at the mount point. -/
theorem exists_of_recoveredEntry {view : RestartView} {policy : SecurityPolicy} {devName : String}
    {entry : UsbDevicePolicy} (hentry : recoveredEntry view policy devName = some entry) :
    view.nodeExists (nodeOf devName) = true ∧
      ∃ mntPoint, findMountPoint (nodeOf devName) view.mounts = some mntPoint ∧
        recoveredPolicy policy devName mntPoint = entry := by
  rw [recoveredEntry] at hentry
  split_ifs at hentry with hexists
  exact ⟨hexists, Option.map_eq_some_iff.mp hentry⟩

theorem nodeOf_injective : Function.Injective nodeOf := by
  intro first second hnodes
  have htexts : "/dev/" ++ first = "/dev/" ++ second := by
    rw [← toStringLossy_ofText ("/dev/" ++ first), ← toStringLossy_ofText ("/dev/" ++ second)]
    exact congrArg OsString.toStringLossy hnodes
  exact (String.append_right_inj _).mp htexts

/-- The table holds the entries of the sentinels that have been passed, and no others. -/
def RebuiltFrom (view : RestartView) (policy : SecurityPolicy) (devNames : List String)
    (table : UsbTable) : Prop :=
  ∀ key entry, table.lookup key = some entry ↔
    ∃ devName ∈ devNames, key = nodeOf devName ∧ recoveredEntry view policy devName = some entry

/-- The table after the pass over a sentinel. -/
def tableAfter (view : RestartView) (policy : SecurityPolicy) (table : UsbTable)
    (devName : String) : UsbTable :=
  (recoveredEntry view policy devName).elim table fun entry ↦ table.insert (nodeOf devName) entry

theorem RebuiltFrom.pass {view : RestartView} {policy : SecurityPolicy} {devNames : List String}
    {table : UsbTable} (hrebuilt : RebuiltFrom view policy devNames table) (devName : String) :
    RebuiltFrom view policy (devNames ++ [devName]) (tableAfter view policy table devName) := by
  intro key entry
  rw [tableAfter]
  cases hrecovered : recoveredEntry view policy devName with
  | none =>
    rw [Option.elim_none, hrebuilt key entry]
    constructor
    · rintro ⟨other, hmem, hkey, hentry⟩
      exact ⟨other, List.mem_append_left _ hmem, hkey, hentry⟩
    · rintro ⟨other, hmem, hkey, hentry⟩
      rcases List.mem_append.mp hmem with hbefore | hlast
      · exact ⟨other, hbefore, hkey, hentry⟩
      · rw [List.mem_singleton.mp hlast, hrecovered] at hentry
        contradiction
  | some inserted =>
    have hassigns := assigns_insert table (nodeOf devName) inserted
    rw [Option.elim_some, hassigns key]
    constructor
    · intro hlookup
      split_ifs at hlookup with hkey
      · rw [Option.some.injEq] at hlookup
        exact ⟨devName, by simp, hkey, hlookup ▸ hrecovered⟩
      · obtain ⟨other, hmem, hother, hentry⟩ := (hrebuilt key entry).mp hlookup
        exact ⟨other, List.mem_append_left _ hmem, hother, hentry⟩
    · rintro ⟨other, hmem, hkey, hentry⟩
      by_cases hsame : other = devName
      · rw [hsame] at hkey hentry
        rw [if_pos hkey, ← hrecovered, hentry]
      · have hne : key ≠ nodeOf devName := by
          rw [hkey]
          exact fun heq ↦ hsame (nodeOf_injective heq)
        have hbefore : other ∈ devNames := by simpa [hsame] using hmem
        rw [if_neg hne]
        exact (hrebuilt key entry).mpr ⟨other, hbefore, hkey, hentry⟩

/-- The pass over one entry of the directory puts the entry of its sentinel into the table. -/
theorem run_recoverEntry (view : RestartView) (name : OsString)
    (controller : ServiceController schemes) :
    ∃ trace, (recoverEntry view name).run controller =
      ⟨trace, { controller with
        mountedUsb := tableAfter view controller.policy controller.mountedUsb name.toStringLossy },
        .ok ()⟩ := by
  rw [recoverEntry, tableAfter, recoveredEntry]
  split_ifs
  · cases findMountPoint (nodeOf name.toStringLossy) view.mounts with
    | none => exact ⟨[], rfl⟩
    | some mntPoint => exact ⟨_, rfl⟩
  · exact ⟨[], rfl⟩

/-- The loop over the directory rebuilds the entries of its sentinels. -/
theorem rebuiltFrom_recoverEntries {view : RestartView} (names : List OsString)
    {controller : ServiceController schemes} {devNames : List String}
    (hrebuilt : RebuiltFrom view controller.policy devNames controller.mountedUsb) :
    ∃ table, RebuiltFrom view controller.policy (devNames ++ names.map OsString.toStringLossy)
        table ∧
      ((recoverEntries view names).run controller).state =
        { controller with mountedUsb := table } := by
  induction names generalizing controller devNames with
  | nil =>
    rw [List.map_nil, List.append_nil]
    exact ⟨_, hrebuilt, rfl⟩
  | cons name names ih =>
    obtain ⟨trace, hrun⟩ := run_recoverEntry view name controller
    obtain ⟨table, htable, hstate⟩ := @ih
      { controller with
        mountedUsb := tableAfter view controller.policy controller.mountedUsb name.toStringLossy }
      _ (hrebuilt.pass name.toStringLossy)
    refine ⟨table, ?_, ?_⟩
    · rw [List.append_assoc] at htable
      exact htable
    · rw [recoverEntries, Program.run_bind, hrun]
      exact hstate

/-- A daemon that starts has exactly the entries of the sentinels that it can read. -/
theorem startedController_spec {view : RestartView} {sentinels : List String}
    (hreads : view.Reads sentinels) (policy : SecurityPolicy)
    (usbCaPub : KeysasHybridPubKeys schemes) :
    ∃ table, RebuiltFrom view policy sentinels table ∧
      startedController view policy usbCaPub =
        { ServiceController.init policy usbCaPub with mountedUsb := table } := by
  have hempty : RebuiltFrom view policy [] ∅ := by
    intro key entry
    simp [AList.lookup_empty]
  have hcertified : startedController view policy usbCaPub =
      ((recoverEntries view (view.certified.getD [])).run (.init policy usbCaPub)).state := by
    rw [startedController, recoverMountedDevices]
    cases view.certified <;> rfl
  obtain ⟨table, htable, hstate⟩ := rebuiltFrom_recoverEntries (view.certified.getD [])
    (show RebuiltFrom view (ServiceController.init policy usbCaPub).policy []
      (ServiceController.init policy usbCaPub).mountedUsb from hempty)
  refine ⟨table, fun key entry ↦ (htable key entry).trans ?_, hcertified.trans hstate⟩
  have hnames : ((view.certified.getD []).map OsString.toStringLossy).Perm sentinels := by
    have hmapped := hreads.map OsString.toStringLossy
    have hlossy : OsString.toStringLossy ∘ OsString.ofText = id := funext toStringLossy_ofText
    rw [List.map_map, hlossy, List.map_id] at hmapped
    exact hmapped
  simp only [List.nil_append, hnames.mem_iff]
  rfl

/-! ### The invariant -/

/-- The authorization that a device is accepted with: that of a certified one, or everything where
the policy asks for no signature. -/
def GrantedUnder (policy : SecurityPolicy) (auth : UsbAuthorization) : Prop :=
  auth = overrideAuth policy ∨ auth = .allowAll ∧ policy.disableUnsignedUsb = true

/-- After a restart every device that was accepted has the authorization of a certified one. -/
theorem GrantedUnder.restartedAuth {policy : SecurityPolicy} {auth : UsbAuthorization}
    (hgranted : GrantedUnder policy auth) : restartedAuth policy auth = overrideAuth policy := by
  rw [Firewall.restartedAuth]
  split_ifs with hall
  · rfl
  · exact hgranted.resolve_right fun hboth ↦ hall hboth.1

/-- An evaluation that allows grants under the policy. -/
theorem grantedUnder_evaluateUsb {controller : ServiceController schemes} {device : UsbDevice}
    {signature : Option String}
    (hallowing : (decidedAuth (evaluateUsb controller device signature)).isAllowing) :
    GrantedUnder controller.policy (decidedAuth (evaluateUsb controller device signature)) := by
  have hunsigned : (if controller.policy.disableUnsignedUsb then UsbAuthorization.allowAll
      else .block).isAllowing → GrantedUnder controller.policy
        (if controller.policy.disableUnsignedUsb then .allowAll else .block) := by
    split_ifs with hdisable
    · exact fun _ ↦ .inr ⟨rfl, hdisable⟩
    · intro hblock
      contradiction
  cases signature with
  | none => exact hunsigned hallowing
  | some sigBlock =>
    rw [evaluateUsb] at hallowing ⊢
    rcases hvalid : validateUsbSignature controller.usbCaPub device sigBlock with error | _ | _
    · rw [hvalid] at hallowing
      contradiction
    · rw [hvalid] at hallowing
      exact hunsigned hallowing
    · exact .inl rfl

/-- A device that is accepted after an evaluation has an authorization that allows. -/
theorem isAllowing_of_isAcceptance {evaluation : Except UsbError UsbAuthorization}
    (haccepts : isAcceptance (evaluation.map UsbAuthorization.isAllowing) = true) :
    (decidedAuth evaluation).isAllowing := by
  cases evaluation with
  | error error => contradiction
  | ok auth => exact haccepts

/-- What holds of the daemon in every state: entries stand under their nodes, what allows was
granted under the policy, mounted devices have their sentinels, and the device that the monitor is
about to mount has an entry that allows. -/
structure DaemonInvariant (policy : SecurityPolicy) (daemon : Daemon schemes) : Prop where
  policy_eq : daemon.controller.policy = policy
  unmounted : AllEntries (fun key entry ↦ entry.device.deviceId = key ∧
    (entry.auth.isAllowing → GrantedUnder policy entry.auth)) daemon.controller.unmountedUsb
  mounted : AllEntries (fun key entry ↦ entry.device.deviceId = key ∧
    GrantedUnder policy entry.auth ∧ ∃ devName ∈ daemon.sentinels, key = nodeOf devName)
    daemon.controller.mountedUsb
  accepted : ∀ device, daemon.accepted = some device →
    device.deviceId = nodeOf (devNameOf device.deviceId) ∧
      ∃ entry, daemon.controller.unmountedUsb.lookup device.deviceId = some entry ∧
        entry.auth.isAllowing

theorem DaemonInvariant.init (policy : SecurityPolicy) (usbCaPub : KeysasHybridPubKeys schemes) :
    DaemonInvariant policy (Daemon.init policy usbCaPub) where
  policy_eq := rfl
  unmounted := allEntries_empty _
  mounted := allEntries_empty _
  accepted device haccepted := by contradiction

section Steps

variable {policy : SecurityPolicy} {daemon : Daemon schemes}

theorem DaemonInvariant.found (hinvariant : DaemonInvariant policy daemon) {device : UsbDevice}
    (hnode : device.deviceId = nodeOf (devNameOf device.deviceId)) (signature : Option String) :
    DaemonInvariant policy (daemonStep daemon (.found device signature)).1 := by
  rcases authorizeUsb_cases daemon.controller device signature with
    ⟨_, -, -, hending⟩ | ⟨existing, hlookup, hallowing, hending⟩ |
    ⟨-, table, hassigns, hstate, hvalue⟩
  · have hstep : (daemonStep daemon (.found device signature)).1 =
        { daemon with accepted := none } := by
      simp [daemonStep, hending, isAcceptance]
    rw [hstep]
    exact ⟨hinvariant.policy_eq, hinvariant.unmounted, hinvariant.mounted, by simp⟩
  · have hstep : (daemonStep daemon (.found device signature)).1 =
        { daemon with accepted := some device } := by
      simp [daemonStep, hending, isAcceptance]
    rw [hstep]
    refine ⟨hinvariant.policy_eq, hinvariant.unmounted, hinvariant.mounted, ?_⟩
    intro other hother
    obtain rfl := Option.some.inj hother
    exact ⟨hnode, existing, hlookup, hallowing⟩
  · have hstep : (daemonStep daemon (.found device signature)).1 =
        { daemon with
          controller := { daemon.controller with unmountedUsb := table }
          accepted := if isAcceptance ((evaluateUsb daemon.controller device signature).map
            UsbAuthorization.isAllowing) then some device else none } := by
      simp only [daemonStep, hstate, hvalue]
    rw [hstep]
    refine ⟨hinvariant.policy_eq, ?_, hinvariant.mounted, ?_⟩
    · refine hinvariant.unmounted.assign hassigns ?_ fun _ _ _ hentry ↦ hentry
      intro entry hentry
      obtain rfl := Option.some.inj hentry
      refine ⟨rfl, fun hallowing ↦ ?_⟩
      rw [← hinvariant.policy_eq]
      exact grantedUnder_evaluateUsb hallowing
    · intro other hother
      dsimp only at hother
      split_ifs at hother with haccepts
      obtain rfl := Option.some.inj hother
      exact ⟨hnode, _, hassigns.lookup_self, isAllowing_of_isAcceptance haccepts⟩

theorem DaemonInvariant.mountedStep (hinvariant : DaemonInvariant policy daemon)
    {device : UsbDevice} (haccepted : daemon.accepted = some device)
    (hsentinel : devNameOf device.deviceId ∈ daemon.sentinels) (mntPoint : String) :
    DaemonInvariant policy (daemonStep daemon (.mounted mntPoint)).1 := by
  obtain ⟨hnode, entry, hentry, hallowing⟩ := hinvariant.accepted device haccepted
  rcases updateUsb_cases daemon.controller { device with mntPoint := some (.ofText mntPoint) } with
    ⟨hnone, -⟩ | ⟨moved, unmounted, mounted, hmoved, hunmounted, hmounted, hstate, -⟩
  · rw [hentry] at hnone
    contradiction
  · have hstep : (daemonStep daemon (.mounted mntPoint)).1 =
        { daemon with
          controller := { daemon.controller with unmountedUsb := unmounted, mountedUsb := mounted }
          accepted := none } := by
      simp only [daemonStep, haccepted, hstate]
    rw [hstep]
    refine ⟨hinvariant.policy_eq, ?_, ?_, by simp⟩
    · exact hinvariant.unmounted.assign hunmounted (by simp) fun _ _ _ hother ↦ hother
    · refine hinvariant.mounted.assign hmounted ?_ fun _ _ _ hother ↦ hother
      intro placed hplaced
      obtain rfl := Option.some.inj hplaced
      obtain ⟨hdevice, hgranted⟩ := hinvariant.unmounted _ _ hmoved
      obtain rfl : entry = moved := Option.some.inj (hentry.symm.trans hmoved)
      exact ⟨hdevice, hgranted hallowing, devNameOf device.deviceId, hsentinel, hnode⟩

theorem DaemonInvariant.partitionRemoved (hinvariant : DaemonInvariant policy daemon)
    (hidle : daemon.accepted = none) (sysname : String) :
    DaemonInvariant policy (daemonStep daemon (.partitionRemoved (nodeOf sysname) sysname)).1 := by
  have hmounted : ∀ table, Assigns daemon.controller.mountedUsb table (nodeOf sysname) none →
      AllEntries (fun key entry ↦ entry.device.deviceId = key ∧ GrantedUnder policy entry.auth ∧
        ∃ devName ∈ daemon.sentinels.filter fun devName ↦ devName ≠ sysname, key = nodeOf devName)
        table := by
    intro table hassigns
    refine hinvariant.mounted.assign hassigns (by simp) fun key entry hkey hentry ↦ ?_
    obtain ⟨hdevice, hgranted, devName, hmem, hnode⟩ := hentry
    refine ⟨hdevice, hgranted, devName, List.mem_filter.mpr ⟨hmem, ?_⟩, hnode⟩
    rw [decide_eq_true_iff]
    exact fun hsame ↦ hkey (hnode.trans (congrArg nodeOf hsame))
  have hsame : daemon.controller.mountedUsb.lookup (nodeOf sysname) = none →
      Assigns daemon.controller.mountedUsb daemon.controller.mountedUsb (nodeOf sysname) none := by
    intro hnone other
    split_ifs with hkey
    · rw [hkey, hnone]
    · rfl
  have haccepted : ∀ device, daemon.accepted ≠ some device := by simp [hidle]
  rcases removeUsb_cases daemon.controller (nodeOf sysname) with
    ⟨table, hassigns, hstate⟩ | ⟨hnone, table, hassigns, hstate⟩ | ⟨hnone, hstate⟩
  · rw [daemonStep, hstate]
    exact ⟨hinvariant.policy_eq, hinvariant.unmounted, hmounted table hassigns,
      fun device hdevice ↦ absurd hdevice (haccepted device)⟩
  · rw [daemonStep, hstate]
    refine ⟨hinvariant.policy_eq, ?_, hmounted _ (hsame hnone),
      fun device hdevice ↦ absurd hdevice (haccepted device)⟩
    exact hinvariant.unmounted.assign hassigns (by simp) fun _ _ _ hentry ↦ hentry
  · rw [daemonStep, hstate]
    exact ⟨hinvariant.policy_eq, hinvariant.unmounted, hmounted _ (hsame hnone),
      fun device hdevice ↦ absurd hdevice (haccepted device)⟩

theorem DaemonInvariant.forceRemoved (hinvariant : DaemonInvariant policy daemon)
    (hidle : daemon.accepted = none) (deviceId : OsString) :
    DaemonInvariant policy
      { daemon with controller := ((forceRemoveUsb deviceId).run daemon.controller).state } := by
  refine ⟨hinvariant.policy_eq, ?_, hinvariant.mounted, by simp [hidle]⟩
  exact hinvariant.unmounted.assign (assigns_erase _ deviceId) (by simp) fun _ _ _ hentry ↦ hentry

theorem DaemonInvariant.usbRemoved (hinvariant : DaemonInvariant policy daemon)
    (hidle : daemon.accepted = none) (syspath : OsString) :
    DaemonInvariant policy (daemonStep daemon (.usbRemoved syspath)).1 := by
  have hremoved : ∀ (deviceIds : List OsString) {before : Daemon schemes},
      DaemonInvariant policy before → before.accepted = none → DaemonInvariant policy
        { before with
          controller := deviceIds.foldl
            (fun controller deviceId ↦ ((forceRemoveUsb deviceId).run controller).state)
            before.controller } := by
    intro deviceIds
    induction deviceIds with
    | nil => exact fun hbefore _ ↦ hbefore
    | cons deviceId deviceIds ih =>
      exact fun hbefore hnone ↦ ih (hbefore.forceRemoved hnone deviceId) hnone
  exact hremoved _ hinvariant hidle

theorem DaemonInvariant.overridden (hinvariant : DaemonInvariant policy daemon)
    (deviceId : String) (writeSucceeds : Bool) :
    DaemonInvariant policy (daemonStep daemon (.overridden deviceId writeSucceeds)).1 := by
  by_cases hreaches : reachesWrite daemon.controller deviceId
  · obtain ⟨entry, table, hlookup, hblock, hassigns, hstate, -⟩ :=
      overrideBlockedUsb_of_reachesWrite daemon.controller hreaches writeSucceeds
    rw [hinvariant.policy_eq] at hassigns
    rw [daemonStep, hstate]
    refine ⟨hinvariant.policy_eq, ?_, hinvariant.mounted, ?_⟩
    · refine hinvariant.unmounted.assign hassigns ?_ fun _ _ _ hother ↦ hother
      intro placed hplaced
      obtain rfl := Option.some.inj hplaced
      exact ⟨(hinvariant.unmounted _ entry hlookup).1, fun _ ↦ .inl rfl⟩
    · intro device hdevice
      obtain ⟨hnode, existing, hexisting, hallowing⟩ := hinvariant.accepted device hdevice
      -- The entry of the accepted device allows, so that it is not the one that was blocked.
      have hne : device.deviceId ≠ .ofText deviceId := by
        intro hsame
        rw [hsame, hlookup] at hexisting
        rw [← Option.some.inj hexisting, hblock] at hallowing
        contradiction
      exact ⟨hnode, existing, (hassigns.lookup_of_ne hne).trans hexisting, hallowing⟩
  · obtain ⟨error, hending⟩ := overrideBlockedUsb_of_not_reachesWrite daemon.controller
      (by simpa using hreaches) writeSucceeds
    rw [daemonStep, hending]
    exact hinvariant

theorem DaemonInvariant.restarted (hinvariant : DaemonInvariant policy daemon)
    {view : RestartView} (hreads : view.Reads daemon.sentinels) :
    DaemonInvariant policy (daemonStep daemon (.restarted view)).1 := by
  obtain ⟨table, htable, hstarted⟩ :=
    startedController_spec hreads daemon.controller.policy daemon.controller.usbCaPub
  rw [daemonStep, hstarted, hinvariant.policy_eq]
  rw [hinvariant.policy_eq] at htable
  refine ⟨rfl, allEntries_empty _, ?_, by simp⟩
  intro key entry hlookup
  obtain ⟨devName, hmem, hkey, hentry⟩ := (htable key entry).mp hlookup
  obtain ⟨hexists, mntPoint, -, rfl⟩ := exists_of_recoveredEntry hentry
  exact ⟨hkey.symm, .inl rfl, devName, List.mem_filter.mpr ⟨hmem, hexists⟩, hkey⟩

/-- Every event that may happen keeps the invariant. -/
theorem DaemonInvariant.step (hinvariant : DaemonInvariant policy daemon) {event : DaemonEvent}
    (hissued : daemon.Issues event) : DaemonInvariant policy (daemonStep daemon event).1 := by
  cases event with
  | found device signature => exact hinvariant.found hissued.2.2 signature
  | sentinelWritten =>
    obtain ⟨device, haccepted⟩ := hissued
    have hstep : (daemonStep daemon .sentinelWritten).1 =
        { daemon with sentinels := daemon.sentinels.insert (devNameOf device.deviceId) } := by
      simp only [daemonStep, haccepted]
    rw [hstep]
    refine ⟨hinvariant.policy_eq, hinvariant.unmounted, ?_, hinvariant.accepted⟩
    refine hinvariant.mounted.mono fun key entry hentry ↦ ?_
    obtain ⟨hdevice, hgranted, devName, hmem, hkey⟩ := hentry
    exact ⟨hdevice, hgranted, devName, List.mem_insert_of_mem hmem, hkey⟩
  | mounted mntPoint =>
    obtain ⟨device, haccepted, hsentinel⟩ := hissued
    exact hinvariant.mountedStep haccepted hsentinel mntPoint
  | mountFailed =>
    exact ⟨hinvariant.policy_eq, hinvariant.unmounted, hinvariant.mounted, fun _ hnone ↦ by
      contradiction⟩
  | partitionRemoved deviceId sysname =>
    rw [hissued.2]
    exact hinvariant.partitionRemoved hissued.1 sysname
  | usbRemoved syspath => exact hinvariant.usbRemoved hissued syspath
  | overridden deviceId writeSucceeds => exact hinvariant.overridden deviceId writeSucceeds
  | restarted view => exact hinvariant.restarted hissued

end Steps

/-- The invariant holds in every state that a run reaches. -/
theorem daemonInvariant_of_run {policy : SecurityPolicy} {usbCaPub : KeysasHybridPubKeys schemes}
    {history : List (DaemonEvent × Unit)} {daemon : Daemon schemes}
    (hrun : Run daemonStep (fun _ reached event ↦ reached.Issues event)
      (Daemon.init policy usbCaPub) history daemon) :
    DaemonInvariant policy daemon := by
  refine hrun.holds (DaemonInvariant.init policy usbCaPub) ?_
  intro _ reached event hreached hissued
  exact hreached.step hissued

/-! ### Restarts -/

/-- The lookups of a started controller and of the one before, when the devices are still
mounted. -/
theorem DaemonInvariant.lookup_started {policy : SecurityPolicy} {daemon : Daemon schemes}
    (hinvariant : DaemonInvariant policy daemon) {view : RestartView}
    (hmounted : StillMounted daemon view) (usbCaPub : KeysasHybridPubKeys schemes)
    (key : OsString) :
    ((startedController view policy usbCaPub).mountedUsb.lookup key).map registration =
      (daemon.controller.mountedUsb.lookup key).map fun entry ↦
        (entry.device.deviceId, entry.device.mntPoint, restartedAuth policy entry.auth) := by
  obtain ⟨table, htable, hstarted⟩ := startedController_spec hmounted.reads policy usbCaPub
  rw [hstarted]
  show (table.lookup key).map registration = _
  cases hlookup : daemon.controller.mountedUsb.lookup key with
  | none =>
    -- No other sentinel has a device that is mounted.
    cases hrecovered : table.lookup key with
    | none => rfl
    | some entry =>
      obtain ⟨devName, hmem, rfl, hentry⟩ := (htable key entry).mp hrecovered
      obtain ⟨hexists, mntPoint, hfound, -⟩ := exists_of_recoveredEntry hentry
      have hnone : findMountPoint (nodeOf devName) view.mounts = none :=
        findMountPoint_of_notListed (hmounted.others devName hmem hlookup hexists)
      rw [hnone] at hfound
      contradiction
  | some entry =>
    obtain ⟨hdevice, hgranted, devName, hmem, hkey⟩ := hinvariant.mounted key entry hlookup
    obtain ⟨device, mntPoint, hnode, hmount, hexists, hplain, hplainMount, hlisted⟩ :=
      hmounted.listed key entry hlookup
    have hfound : findMountPoint key view.mounts = some mntPoint := by
      rw [hnode]
      exact findMountPoint_of_listedAt hlisted hplain hplainMount
    have hentry : recoveredEntry view policy devName =
        some (recoveredPolicy policy devName mntPoint) := by
      rw [recoveredEntry, ← hkey, if_pos hexists, hfound, Option.map_some]
    have hrecovered : table.lookup key = some (recoveredPolicy policy devName mntPoint) :=
      (htable key _).mpr ⟨devName, hmem, hkey, hentry⟩
    rw [hrecovered, Option.map_some, Option.map_some, hgranted.restartedAuth, hdevice, hmount, hkey]
    rfl

/-- In every state that a run reaches, a restart brings back the mounted devices with their nodes
and mount points, and with their authorizations but for the right to everything, which becomes that
of a certified device. Where the policy asks for signatures all authorizations are the same.
Assumes: the monitor issues the events and has written a sentinel before it reports a mounted
device, and the devices are still mounted. -/
theorem rebuilds_of_run (policy : SecurityPolicy) (usbCaPub : KeysasHybridPubKeys schemes)
    {history : List (DaemonEvent × Unit)} {daemon : Daemon schemes}
    (hrun : Run daemonStep (fun _ reached event ↦ reached.Issues event)
      (Daemon.init policy usbCaPub) history daemon)
    {view : RestartView} (hmounted : StillMounted daemon view) :
    (∀ key, ((startedController view policy usbCaPub).mountedUsb.lookup key).map registration =
      (daemon.controller.mountedUsb.lookup key).map fun entry ↦
        (entry.device.deviceId, entry.device.mntPoint, restartedAuth policy entry.auth)) ∧
    (policy.disableUnsignedUsb = false → ∀ key,
      ((startedController view policy usbCaPub).mountedUsb.lookup key).map registration =
        (daemon.controller.mountedUsb.lookup key).map registration) := by
  have hinvariant := daemonInvariant_of_run hrun
  refine ⟨hinvariant.lookup_started hmounted usbCaPub, fun hsigned key ↦ ?_⟩
  rw [hinvariant.lookup_started hmounted usbCaPub key]
  cases hlookup : daemon.controller.mountedUsb.lookup key with
  | none => rfl
  | some entry =>
    obtain ⟨-, hgranted, -⟩ := hinvariant.mounted key entry hlookup
    have hcertified : entry.auth = overrideAuth policy :=
      hgranted.resolve_right (by simp [hsigned])
    rw [Option.map_some, Option.map_some, hgranted.restartedAuth, registration, hcertified]

/-- A restart that finds the sentinel and the mount of one device. -/
def stickView : RestartView where
  certified := some [.ofText "sdb1"]
  nodeExists deviceId := deviceId = nodeOf "sdb1"
  mounts := [some "proc /proc proc rw 0 0", some "/dev/sdb1 /media/usb vfat rw 0 0"]

/-- The view is one of a daemon that has mounted this device only. -/
theorem stillMounted_stickView {daemon : Daemon schemes} {entry : UsbDevicePolicy}
    (hsentinels : daemon.sentinels = ["sdb1"])
    (htable : daemon.controller.mountedUsb = (∅ : UsbTable).insert (nodeOf "sdb1") entry)
    (hmount : entry.device.mntPoint = some (.ofText "/media/usb")) :
    StillMounted daemon stickView where
  reads := by
    rw [hsentinels]
    exact .refl _
  listed := by
    rw [htable]
    refine (allEntries_empty fun _ _ ↦ False).assign (assigns_insert _ _ _) ?_
      fun _ _ _ hfalse ↦ hfalse.elim
    intro placed hplaced
    obtain rfl := Option.some.inj hplaced
    refine ⟨"/dev/sdb1", "/media/usb", rfl, hmount, by decide, by decide, by decide, ?_⟩
    refine ⟨[some "proc /proc proc rw 0 0"], "vfat rw 0 0", [], by decide, ?_⟩
    intro line hline
    refine ⟨"proc /proc proc rw 0 0", List.mem_singleton.mp hline, fun mnt hcolumns ↦ ?_⟩
    have hproc : deviceAndMount "proc /proc proc rw 0 0" = some ("proc", "/proc") := by decide
    rw [hproc, Option.some.injEq, Prod.mk.injEq] at hcolumns
    exact absurd hcolumns.1 (by decide)
  others := by
    intro devName hmem hnone
    rw [hsentinels, List.mem_singleton] at hmem
    rw [hmem, htable, AList.lookup_insert] at hnone
    contradiction

/-- A device that a user unblocks is plugged in again and mounted. -/
def overriddenEvents : List DaemonEvent :=
  [.found unsignedDevice none, .overridden "/dev/sdb1" true, .found unsignedDevice none,
    .sentinelWritten, .mounted "/media/usb"]

/-- A device is mounted at once. -/
def mountedEvents : List DaemonEvent :=
  [.found unsignedDevice none, .sentinelWritten, .mounted "/media/usb"]

/-- The daemon after some events. -/
def daemonAfter (policy : SecurityPolicy) (events : List DaemonEvent) :
    Daemon transparentSchemes :=
  (execute daemonStep (Daemon.init policy (transparentPubKeys 0)) events).2

/-- The restart after a device was unblocked and mounted: the device comes back as it was. -/
theorem rebuilds_of_run_overridden :
    (∀ key, ((startedController stickView overridePolicy (transparentPubKeys 0)).mountedUsb.lookup
        key).map registration =
      ((daemonAfter overridePolicy overriddenEvents).controller.mountedUsb.lookup key).map
        fun entry ↦ (entry.device.deviceId, entry.device.mntPoint,
          restartedAuth overridePolicy entry.auth)) ∧
    (overridePolicy.disableUnsignedUsb = false → ∀ key,
      ((startedController stickView overridePolicy (transparentPubKeys 0)).mountedUsb.lookup
        key).map registration =
      ((daemonAfter overridePolicy overriddenEvents).controller.mountedUsb.lookup key).map
        registration) := by
  refine rebuilds_of_run overridePolicy (transparentPubKeys 0) (run_execute overriddenEvents ?_)
    (@stillMounted_stickView _ _
      ⟨{ unsignedDevice with mntPoint := some (.ofText "/media/usb") }, .allowRead⟩ ?_ ?_ rfl)
  · exact ⟨⟨rfl, rfl, by decide⟩, trivial, ⟨by decide, rfl, by decide⟩,
      ⟨unsignedDevice, by decide⟩, ⟨unsignedDevice, by decide, by decide⟩, trivial⟩
  · decide
  · rfl

/-- A device that is let through without a signature does not come back as it was: it had the right
to everything, and can be read after the restart. -/
theorem not_rebuilds_allowAll :
    ¬ ∀ (policy : SecurityPolicy) (usbCaPub : KeysasHybridPubKeys transparentSchemes)
      (history : List (DaemonEvent × Unit)) (daemon : Daemon transparentSchemes)
      (view : RestartView),
      Run daemonStep (fun _ reached event ↦ reached.Issues event) (Daemon.init policy usbCaPub)
        history daemon →
      StillMounted daemon view →
      ∀ key, ((startedController view policy usbCaPub).mountedUsb.lookup key).map registration =
        (daemon.controller.mountedUsb.lookup key).map registration := by
  intro hrebuilds
  let policy : SecurityPolicy := ⟨true, false, false, false⟩
  have hrun : Run daemonStep (fun _ reached event ↦ reached.Issues event)
      (Daemon.init policy (transparentPubKeys 0)) _ (daemonAfter policy mountedEvents) :=
    run_execute mountedEvents ⟨⟨rfl, rfl, by decide⟩, ⟨unsignedDevice, by decide⟩,
      ⟨unsignedDevice, by decide, by decide⟩, trivial⟩
  have hmounted : StillMounted (daemonAfter policy mountedEvents) stickView :=
    @stillMounted_stickView _ _
      ⟨{ unsignedDevice with mntPoint := some (.ofText "/media/usb") }, .allowAll⟩
      (by decide) rfl rfl
  have hlookups := hrebuilds policy (transparentPubKeys 0) _ _ stickView hrun hmounted
    (nodeOf "sdb1")
  exact absurd hlookups (by decide)

end Keysas.Firewall
