import Keysas.Firewall.StaleGrant

/-!
# Overrides against the removal of a blocked device

When the Linux monitor refuses a device it writes `0` to the `authorized` attribute of its USB
parent. The partition goes away, and the monitor will find a remove event for it. An override by a
user writes `1` to the same attribute, and the device comes back with an add event. The monitor and
the users take the lock of the controller in turn, so that a remove event which a refusal has caused
can be handled after the override that follows it. The writes change nothing in the controller; what
they cause arrives as later events, in whatever order.

`awaits` says that a device was unblocked and has been neither found nor unplugged since, and
`OverridesKept` that such a device is accepted when it is found again. `remove_usb` keeps the entry
of a blocked device and drops the entry of an unblocked one, so that it fails when the remove event
comes late (`not_forall_run_overridesKept`); `overridesKept_of_run` says that it holds in every run
in which none does.
-/

set_option autoImplicit false
set_option relaxedAutoImplicit false

namespace Keysas.Firewall

open Crypto Keys Runs RustStd Store

variable {schemes : Schemes}

/-! ### Answers -/

/-- What a call on the controller returns, and which devices an unplug removes. -/
inductive Answer where
  | authorized (result : Except UsbError Bool)
  | overridden (result : Except UsbError Unit)
  | unplugged (deviceIds : List OsString)
  | silent

/-- The answer of the controller to an event. -/
def answer (system : System schemes) : MonitorEvent → Answer
  | .found device signature _ =>
    .authorized ((authorizeUsb device signature).run system.controller).value
  | .overridden deviceId writeSucceeds =>
    .overridden ((overrideBlockedUsb deviceId writeSucceeds).run system.controller).value
  | .usbRemoved syspath => .unplugged (unmountedUsbIdsWithSyspathPrefix system.controller syspath)
  | _ => .silent

/-- The next state of the system, with the answer. -/
def answeredStep (system : System schemes) (event : MonitorEvent) : System schemes × Answer :=
  ((systemStep system event).1, answer system event)

/-! ### The property -/

/-- What an event and its answer change about whether a device is awaited. -/
def awaitsAfter (deviceId : OsString) (awaited : Bool) : MonitorEvent × Answer → Bool
  | (.overridden text _, .overridden (.ok _)) => awaited || decide (deviceId = .ofText text)
  | (.found device _ _, _) => awaited && decide (device.deviceId ≠ deviceId)
  | (.usbRemoved _, .unplugged deviceIds) => awaited && decide (deviceId ∉ deviceIds)
  | _ => awaited

/-- An override of the device has succeeded, and since then the device has been neither found nor
unplugged. -/
def awaits (deviceId : OsString) (history : List (MonitorEvent × Answer)) : Bool :=
  history.foldl (awaitsAfter deviceId) false

theorem awaits_append (deviceId : OsString) (history : List (MonitorEvent × Answer))
    (entry : MonitorEvent × Answer) :
    awaits deviceId (history ++ [entry]) =
      awaitsAfter deviceId (awaits deviceId history) entry := by
  rw [awaits, List.foldl_append]
  rfl

theorem awaitsAfter_overridden (deviceId : OsString) (awaited : Bool) (text : String)
    (writeSucceeds : Bool) (result : Except UsbError Unit) :
    awaitsAfter deviceId awaited (.overridden text writeSucceeds, .overridden result) =
      (awaited || (decide (result = .ok ()) && decide (deviceId = .ofText text))) := by
  cases result with
  | error error => simp [awaitsAfter]
  | ok value => simp [awaitsAfter]

/-- Every device that is found for the first time since an override of it has succeeded is accepted,
unless it was unplugged in between. -/
def OverridesKept (history : List (MonitorEvent × Answer)) : Prop :=
  ∀ front device signature drive answer back,
    history = front ++ (.found device signature drive, answer) :: back →
      awaits device.deviceId front = true → answer = .authorized (.ok true)

/-- The event is not the removal of a partition of an awaited device. -/
def removesNoAwaited (history : List (MonitorEvent × Answer)) : MonitorEvent → Bool
  | .partitionRemoved deviceId => !awaits deviceId history
  | _ => true

/-! ### What the operations do to an entry -/

/-- The node has an entry that allows. -/
def HasAllowing (controller : ServiceController schemes) (deviceId : OsString) : Prop :=
  ∃ entry, controller.unmountedUsb.lookup deviceId = some entry ∧ entry.auth.isAllowing = true

theorem hasAllowing_congr {before after : ServiceController schemes} {deviceId : OsString}
    (hlookup : after.unmountedUsb.lookup deviceId = before.unmountedUsb.lookup deviceId) :
    HasAllowing after deviceId ↔ HasAllowing before deviceId := by
  unfold HasAllowing
  rw [hlookup]

/-- An authorization leaves the entries of the other nodes alone. -/
theorem lookup_authorizeUsb_of_ne (controller : ServiceController schemes) {device : UsbDevice}
    (signature : Option String) {deviceId : OsString} (hother : deviceId ≠ device.deviceId) :
    ((authorizeUsb device signature).run controller).state.unmountedUsb.lookup deviceId =
      controller.unmountedUsb.lookup deviceId := by
  rcases authorizeUsb_cases controller device signature with
    ⟨_, _, _, hending⟩ | ⟨_, _, _, hending⟩ | ⟨_, _, hassigns, hstate, _⟩
  · rw [hending]
  · rw [hending]
  · rw [hstate]
    exact hassigns.lookup_of_ne hother

/-- A device that is accepted has an entry that allows. -/
theorem hasAllowing_of_isAcceptance {controller : ServiceController schemes} {device : UsbDevice}
    {signature : Option String}
    (haccepted : isAcceptance ((authorizeUsb device signature).run controller).value = true) :
    HasAllowing ((authorizeUsb device signature).run controller).state device.deviceId := by
  rcases authorizeUsb_cases controller device signature with
    ⟨-, -, -, hending⟩ | ⟨existing, hlookup, hallowing, hending⟩ |
    ⟨-, table, hassigns, hstate, hvalue⟩
  · rw [hending] at haccepted
    cases haccepted
  · rw [hending]
    exact ⟨existing, hlookup, hallowing⟩
  · rw [hstate]
    refine ⟨_, hassigns.lookup_self, ?_⟩
    rw [hvalue] at haccepted
    cases hevaluated : evaluateUsb controller device signature with
    | error error =>
      rw [hevaluated] at haccepted
      cases haccepted
    | ok auth =>
      rw [hevaluated] at haccepted
      exact haccepted

/-- Unplugging devices leaves the entries of the others alone. -/
theorem lookup_foldl_forceRemoveUsb {deviceIds : List OsString} {deviceId : OsString}
    (hother : deviceId ∉ deviceIds) (controller : ServiceController schemes) :
    (deviceIds.foldl (fun controller deviceId ↦ ((forceRemoveUsb deviceId).run controller).state)
      controller).unmountedUsb.lookup deviceId = controller.unmountedUsb.lookup deviceId := by
  induction deviceIds generalizing controller with
  | nil => rfl
  | cons first others ih =>
    rw [List.mem_cons, not_or] at hother
    rw [List.foldl_cons, ih hother.2]
    exact AList.lookup_erase_ne hother.1

/-- The removal of a partition leaves the entries of the other nodes alone. -/
theorem lookup_removeUsb_of_ne (controller : ServiceController schemes)
    {removed deviceId : OsString}
    (hother : deviceId ≠ removed) :
    ((removeUsb removed).run controller).state.unmountedUsb.lookup deviceId =
      controller.unmountedUsb.lookup deviceId := by
  rcases removeUsb_cases controller removed with
    ⟨_, _, hstate⟩ | ⟨_, _, hassigns, hstate⟩ | ⟨_, hstate⟩
  · rw [hstate]
  · rw [hstate]
    exact hassigns.lookup_of_ne hother
  · rw [hstate]

/-- A device whose partition is removed after it was unblocked is evaluated anew when it is found
again. Assumes: the node is not mounted. -/
theorem authorizeUsb_after_removeUsb {controller : ServiceController schemes} {device : UsbDevice}
    (hmounted : controller.mountedUsb.lookup device.deviceId = none)
    (hallowing : HasAllowing controller device.deviceId) (signature : Option String) :
    ((authorizeUsb device signature).run
        ((removeUsb device.deviceId).run controller).state).value =
      (evaluateUsb controller device signature).map UsbAuthorization.isAllowing := by
  obtain ⟨entry, hlookup, hauth⟩ := hallowing
  have hblock : entry.auth ≠ .block := by
    intro hblock
    rw [hblock] at hauth
    cases hauth
  have hremoved : ((removeUsb device.deviceId).run controller).state =
      { controller with unmountedUsb := controller.unmountedUsb.erase device.deviceId } := by
    simp [removeUsb, hmounted, hlookup, hblock]
  rw [hremoved]
  have hblocked : ∀ existing,
      (controller.unmountedUsb.erase device.deviceId).lookup device.deviceId = some existing →
        existing.auth = .block := by
    intro existing hexisting
    rw [AList.lookup_erase] at hexisting
    cases hexisting
  obtain ⟨_, _, _, hvalue⟩ := authorizeUsb_evaluated
    { controller with unmountedUsb := controller.unmountedUsb.erase device.deviceId }
    hblocked signature
  exact hvalue

/-- An override changes no entry but that of its device, and that entry from blocking to
allowing. -/
theorem overrideBlockedUsb_cases (controller : ServiceController schemes) (deviceId : String)
    (writeSucceeds : Bool) :
    ((∃ error, ((overrideBlockedUsb deviceId writeSucceeds).run controller).value = .error error) ∧
      ((overrideBlockedUsb deviceId writeSucceeds).run controller).state = controller) ∨
    (¬ HasAllowing controller (.ofText deviceId) ∧
      HasAllowing ((overrideBlockedUsb deviceId writeSucceeds).run controller).state
        (.ofText deviceId) ∧
      ∀ other, other ≠ .ofText deviceId →
        ((overrideBlockedUsb deviceId writeSucceeds).run
          controller).state.unmountedUsb.lookup other =
          controller.unmountedUsb.lookup other) := by
  by_cases hreaches : reachesWrite controller deviceId
  · obtain ⟨entry, table, hlookup, hblock, hassigns, hstate, -⟩ :=
      overrideBlockedUsb_of_reachesWrite controller hreaches writeSucceeds
    rw [hstate]
    refine .inr ⟨?_, ⟨_, hassigns.lookup_self, isAllowing_overrideAuth controller.policy⟩,
      fun other hother ↦ hassigns.lookup_of_ne hother⟩
    rintro ⟨found, hfound, hallowing⟩
    obtain rfl := Option.some.inj (hlookup.symm.trans hfound)
    rw [hblock] at hallowing
    cases hallowing
  · obtain ⟨error, hending⟩ :=
      overrideBlockedUsb_of_not_reachesWrite controller (by simpa using hreaches) writeSucceeds
    rw [hending]
    exact .inl ⟨⟨error, rfl⟩, rfl⟩

/-! ### The invariant -/

/-- What holds in every state: an awaited device has an entry that allows, and so has the device
that the monitor is mounting, which is not awaited. -/
structure OverrideInvariant (history : List (MonitorEvent × Answer)) (system : System schemes) :
    Prop where
  linux : system.platform = .linux
  awaited : ∀ deviceId, awaits deviceId history = true → HasAllowing system.controller deviceId
  accepted : ∀ device drive, system.phase = .accepted device drive →
    awaits device.deviceId history = false ∧ HasAllowing system.controller device.deviceId

theorem OverrideInvariant.init (policy : SecurityPolicy) (usbCaPub : KeysasHybridPubKeys schemes) :
    OverrideInvariant [] (System.init .linux policy usbCaPub) where
  linux := rfl
  awaited deviceId hawaited := by cases hawaited
  accepted device drive hphase := by cases hphase

section Steps

variable {history : List (MonitorEvent × Answer)} {system : System schemes}

theorem OverrideInvariant.found (hinvariant : OverrideInvariant history system) (device : UsbDevice)
    (signature : Option String) (drive : Option OsString) :
    OverrideInvariant
      (history ++ [(.found device signature drive, answer system (.found device signature drive))])
      (systemStep system (.found device signature drive)).1 where
  linux := hinvariant.linux
  awaited deviceId hawaited := by
    rw [awaits_append, awaitsAfter, Bool.and_eq_true, decide_eq_true_eq] at hawaited
    have hlookup := lookup_authorizeUsb_of_ne system.controller signature hawaited.2.symm
    exact (hasAllowing_congr hlookup).mpr (hinvariant.awaited deviceId hawaited.1)
  accepted mounting mountingDrive hphase := by
    by_cases haccepted :
        isAcceptance ((authorizeUsb device signature).run system.controller).value = true
    · obtain ⟨rfl, -⟩ : device = mounting ∧ drive = mountingDrive := by
        simpa [systemStep, foundStep, haccepted] using hphase
      refine ⟨?_, hasAllowing_of_isAcceptance haccepted⟩
      rw [awaits_append]
      simp [awaitsAfter]
    · simp [systemStep, foundStep, haccepted] at hphase

/-- The invariant survives when the monitor waits again. Assumes: what is awaited after the event
was awaited before and keeps its entry. -/
theorem OverrideInvariant.wait (hinvariant : OverrideInvariant history system)
    {entry : MonitorEvent × Answer} {after : System schemes}
    (hplatform : after.platform = system.platform) (hphase : after.phase = .waiting)
    (hentry : ∀ deviceId, awaits deviceId (history ++ [entry]) = true →
      awaits deviceId history = true ∧ after.controller.unmountedUsb.lookup deviceId =
        system.controller.unmountedUsb.lookup deviceId) :
    OverrideInvariant (history ++ [entry]) after where
  linux := hplatform.trans hinvariant.linux
  awaited deviceId hawaited := by
    obtain ⟨hbefore, hlookup⟩ := hentry deviceId hawaited
    exact (hasAllowing_congr hlookup).mpr (hinvariant.awaited deviceId hbefore)
  accepted device drive haccepted := by
    rw [hphase] at haccepted
    cases haccepted

theorem OverrideInvariant.mounted (hinvariant : OverrideInvariant history system)
    {mntPoint : OsString} (hissued : issued system (.mounted mntPoint) = true) :
    OverrideInvariant (history ++ [(.mounted mntPoint, .silent)])
      (systemStep system (.mounted mntPoint)).1 := by
  cases hphase : system.phase with
  | waiting => simp [issued, hphase] at hissued
  | accepted device drive =>
    simp only [systemStep, hphase]
    refine hinvariant.wait rfl rfl fun deviceId hawaited ↦ ?_
    rw [awaits_append] at hawaited
    refine ⟨hawaited, ?_⟩
    have hother : deviceId ≠ device.deviceId := by
      rintro rfl
      rw [(hinvariant.accepted device drive hphase).1] at hawaited
      cases hawaited
    rcases updateUsb_cases system.controller { device with mntPoint := some mntPoint } with
      ⟨_, hending⟩ | ⟨_, _, _, _, hassigns, _, hstate, _⟩
    · rw [hending]
    · rw [hstate]
      exact hassigns.lookup_of_ne hother

theorem OverrideInvariant.overridden (hinvariant : OverrideInvariant history system)
    (deviceId : String) (writeSucceeds : Bool) :
    OverrideInvariant
      (history ++ [(.overridden deviceId writeSucceeds,
        answer system (.overridden deviceId writeSucceeds))])
      (systemStep system (.overridden deviceId writeSucceeds)).1 := by
  rcases overrideBlockedUsb_cases system.controller deviceId writeSucceeds with
    ⟨⟨error, herror⟩, hstate⟩ | ⟨hblocked, hallowing, hothers⟩
  · have hkept : ∀ other, awaits other (history ++ [(.overridden deviceId writeSucceeds,
        answer system (.overridden deviceId writeSucceeds))]) = awaits other history := by
      intro other
      rw [awaits_append, answer, awaitsAfter_overridden, herror]
      simp
    simp only [systemStep, hstate]
    refine ⟨hinvariant.linux, fun other hawaited ↦ ?_, fun device drive hphase ↦ ?_⟩
    · exact hinvariant.awaited other (hkept other ▸ hawaited)
    · rw [hkept]
      exact hinvariant.accepted device drive hphase
  · have hkept : ∀ other, other ≠ .ofText deviceId →
        awaits other (history ++ [(.overridden deviceId writeSucceeds,
          answer system (.overridden deviceId writeSucceeds))]) = awaits other history := by
      intro other hother
      rw [awaits_append, answer, awaitsAfter_overridden]
      simp [hother]
    refine ⟨hinvariant.linux, fun other hawaited ↦ ?_, fun device drive hphase ↦ ?_⟩
    · by_cases hother : other = .ofText deviceId
      · rw [hother]
        exact hallowing
      · rw [hkept other hother] at hawaited
        exact (hasAllowing_congr (hothers other hother)).mpr (hinvariant.awaited other hawaited)
    · obtain ⟨hunawaited, haccepted⟩ := hinvariant.accepted device drive hphase
      have hother : device.deviceId ≠ .ofText deviceId := by
        intro hsame
        rw [hsame] at haccepted
        exact hblocked haccepted
      exact ⟨(hkept _ hother).trans hunawaited,
        (hasAllowing_congr (hothers _ hother)).mpr haccepted⟩

/-- One event keeps the invariant. Assumes: the monitor issues it, and it is not the removal of a
partition of an awaited device. -/
theorem OverrideInvariant.step (hinvariant : OverrideInvariant history system)
    {event : MonitorEvent}
    (hissued : issued system event = true) (hremoves : removesNoAwaited history event = true) :
    OverrideInvariant (history ++ [(event, answer system event)]) (systemStep system event).1 := by
  cases event with
  | found device signature drive => exact hinvariant.found device signature drive
  | mounted mntPoint => exact hinvariant.mounted hissued
  | mountFailed =>
    refine hinvariant.wait rfl rfl fun deviceId hawaited ↦ ?_
    rw [awaits_append] at hawaited
    exact ⟨hawaited, rfl⟩
  | detached drive => simp [issued, hinvariant.linux] at hissued
  | partitionRemoved removed =>
    have hwaiting : system.phase = .waiting := by
      simpa [issued, hinvariant.linux] using hissued
    have hunawaited : awaits removed history = false := by
      simpa [removesNoAwaited] using hremoves
    refine hinvariant.wait rfl hwaiting fun deviceId hawaited ↦ ?_
    rw [awaits_append] at hawaited
    refine ⟨hawaited, lookup_removeUsb_of_ne system.controller ?_⟩
    rintro rfl
    exact Bool.noConfusion (hunawaited.symm.trans hawaited)
  | usbRemoved syspath =>
    have hwaiting : system.phase = .waiting := by
      simpa [issued, hinvariant.linux] using hissued
    refine hinvariant.wait rfl hwaiting fun deviceId hawaited ↦ ?_
    rw [awaits_append, answer, awaitsAfter, Bool.and_eq_true, decide_eq_true_eq] at hawaited
    exact ⟨hawaited.1, lookup_foldl_forceRemoveUsb hawaited.2 system.controller⟩
  | overridden deviceId writeSucceeds => exact hinvariant.overridden deviceId writeSucceeds

end Steps

/-! ### Runs -/

/-- In a run of the Linux monitor and the users in which no partition of an awaited device is
removed, no successful override is lost. Assumes: the monitor issues the events, and it handles no
remove event of a device between an override of it that succeeds and the next time it finds the
device. -/
theorem overridesKept_of_run (policy : SecurityPolicy) (usbCaPub : KeysasHybridPubKeys schemes)
    {history : List (MonitorEvent × Answer)} {system : System schemes}
    (hrun : Run answeredStep
      (fun history system event ↦
        issued system event = true ∧ removesNoAwaited history event = true)
      (System.init .linux policy usbCaPub) history system) :
    OverridesKept history := by
  intro front device signature drive answer back hhistory hawaited
  obtain ⟨reached, hreached, -, hanswer⟩ := hrun.split hhistory
  have hinvariant : OverrideInvariant front reached :=
    hreached.invariant (.init policy usbCaPub) fun _ _ _ _ hbefore hadmitted ↦
      hbefore.step hadmitted.1 hadmitted.2
  obtain ⟨existing, hlookup, hallowing⟩ := hinvariant.awaited device.deviceId hawaited
  have hending := authorizeUsb_of_allowing reached.controller hlookup hallowing signature
  calc
    answer = .authorized ((authorizeUsb device signature).run reached.controller).value := hanswer
    _ = .authorized (.ok true) := by rw [hending]

/-- The run in which the monitor handles the remove event before the user unblocks the device. -/
theorem overridesKept_of_run_blocked :
    OverridesKept (execute answeredStep
      (System.init .linux overridePolicy (transparentPubKeys 0))
      [.found unsignedDevice none none, .partitionRemoved unsignedDevice.deviceId,
        .overridden "/dev/sdb1" true, .found unsignedDevice none none]).1 :=
  overridesKept_of_run overridePolicy (transparentPubKeys 0) (run_execute _ (by decide))

/-- Not every run keeps the overrides: when the user unblocks the device before the monitor handles
the remove event that the refusal has caused, the device is refused again. -/
theorem not_forall_run_overridesKept :
    ¬ ∀ (schemes : Schemes) (policy : SecurityPolicy) (usbCaPub : KeysasHybridPubKeys schemes)
      (history : List (MonitorEvent × Answer)) (system : System schemes),
      Run answeredStep (fun _ system event ↦ issued system event = true)
        (System.init .linux policy usbCaPub) history system → OverridesKept history := by
  intro hkept
  let start := System.init .linux overridePolicy (transparentPubKeys 0)
  let before : List MonitorEvent := [.found unsignedDevice none none, .overridden "/dev/sdb1" true,
    .partitionRemoved unsignedDevice.deviceId]
  have hrun : Run answeredStep (fun _ system event ↦ issued system event = true) start
      (execute answeredStep start (before ++ [.found unsignedDevice none none])).1
      (execute answeredStep start (before ++ [.found unsignedDevice none none])).2 :=
    run_execute _ (by decide)
  have hawaited : awaits unsignedDevice.deviceId (execute answeredStep start before).1 = true := by
    decide
  have haccepted := hkept _ _ _ _ _ hrun (execute answeredStep start before).1 unsignedDevice none
    none (.authorized (.ok false)) [] rfl hawaited
  cases haccepted

end Keysas.Firewall
