import Keysas.Firewall.FileFilter
import Keysas.Runs.HistoryRun

/-!
# The controller and its filter

The controller records an authorization for every device, and the file filter enforces the one that
was last sent to it for a mount point. Three operations send: a device that is mounted, one that is
removed, and one whose authorization the GUI changes. `Enforcement` is the controller together with
the filter and a record of what the filter took last for each mount point, which no operation reads.

`Change` says what a call can do to the tables and to the filter, and `change_of_call` derives it
once from the programs of the controller.

The authorization that is recorded for a mounted device and the one that is enforced come apart in
three ways: a request of the GUI changes only what is enforced, a failure of the filter changes only
what is recorded, and two devices can share a mount point. `keepsAgreement` is the condition on a
call that excludes them, and `agrees_of_run` says that in every run whose calls all satisfy it the
two agree.
-/

set_option autoImplicit false
set_option relaxedAutoImplicit false

namespace Keysas.Firewall

open Keys Runs RustStd Store

variable {schemes : Schemes}

/-! ### Calls -/

/-- The calls of the controller that change its tables or send to the filter. -/
inductive Call where
  | authorizeUsb (device : UsbDevice) (signature : Option String)
  /-- An override, and whether its sysfs write succeeds. -/
  | overrideBlockedUsb (deviceId : String) (writeSucceeds : Bool)
  | updateUsb (device : UsbDevice)
  | requestUsbUpdate (update : UsbUpdateMessage)
  | removeUsb (deviceId : OsString)
  | forceRemoveUsb (deviceId : OsString)
  | recoverMountedDevice (devName mntPoint : String)

/-- What a trace sends to the file filter. -/
def sentUpdates (trace : List Effect) : List UsbDevicePolicy :=
  trace.filterMap fun effect ↦
    match effect with
    | .updateUsbAuth policy => some policy
    | _ => none

/-- What a program sends to the file filter, and the controller it leaves. -/
def filterEnding {ρ α : Type} (ending : Ending Effect (ServiceController schemes) ρ α) :
    List UsbDevicePolicy × ServiceController schemes :=
  (sentUpdates ending.trace, ending.state)

/-- What a call sends to the file filter, and the controller it leaves. Neither depends on what the
filter returns. -/
def callEnding (controller : ServiceController schemes) :
    Call → List UsbDevicePolicy × ServiceController schemes
  | .authorizeUsb device signature => filterEnding ((authorizeUsb device signature).run controller)
  | .overrideBlockedUsb deviceId writeSucceeds =>
    filterEnding ((overrideBlockedUsb deviceId writeSucceeds).run controller)
  | .updateUsb device => filterEnding ((updateUsb device).run controller)
  | .requestUsbUpdate update =>
    filterEnding ((requestUsbUpdate update (.ok () : Except FilterError Unit)).run controller)
  | .removeUsb deviceId => filterEnding ((removeUsb deviceId).run controller)
  | .forceRemoveUsb deviceId => filterEnding ((forceRemoveUsb deviceId).run controller)
  | .recoverMountedDevice devName mntPoint =>
    filterEnding ((recoverMountedDevice devName mntPoint).run controller)

/-! ### What a call can do -/

/-- The most permissive authorization that the policy lets a device get. -/
def maxGrant (policy : SecurityPolicy) : UsbAuthorization :=
  if policy.disableUnsignedUsb then .allowAll
  else if policy.allowUserFileWrite then .allowRW else .allowRead

/-- The authorization is not more permissive than what the policy lets a device get. -/
def Grantable (policy : SecurityPolicy) (auth : UsbAuthorization) : Prop :=
  auth.asU8 ≤ (maxGrant policy).asU8

instance (policy : SecurityPolicy) (auth : UsbAuthorization) : Decidable (Grantable policy auth) :=
  inferInstanceAs (Decidable (_ ≤ _))

theorem grantable_block (policy : SecurityPolicy) : Grantable policy .block := by
  rw [Grantable, maxGrant]
  split_ifs <;> decide

theorem grantable_overrideAuth (policy : SecurityPolicy) :
    Grantable policy (overrideAuth policy) := by
  rw [Grantable, maxGrant, overrideAuth]
  split_ifs <;> decide

/-- A decision about a device is one that the policy lets it get. -/
theorem grantable_decidedAuth (controller : ServiceController schemes) (device : UsbDevice)
    (signature : Option String) :
    Grantable controller.policy (decidedAuth (evaluateUsb controller device signature)) := by
  have hunsigned : Grantable controller.policy
      (if controller.policy.disableUnsignedUsb then .allowAll else .block) := by
    by_cases hdisable : controller.policy.disableUnsignedUsb
    · simp [Grantable, maxGrant, hdisable]
    · simpa [hdisable] using grantable_block controller.policy
  rcases signature with _ | sigBlock
  · exact hunsigned
  rw [evaluateUsb]
  rcases validateUsbSignature controller.usbCaPub device sigBlock with error | _ | _
  · exact grantable_block controller.policy
  · exact hunsigned
  · exact grantable_overrideAuth controller.policy

/-- What a call can do to the controller and send to the filter. -/
inductive Change (controller : ServiceController schemes) :
    Call → List UsbDevicePolicy → ServiceController schemes → Prop where
  | same (call : Call) : Change controller call [] controller
  /-- An unmounted entry goes, or gets an authorization that the policy lets it get. -/
  | unmounted (call : Call) {table : UsbTable} {key : OsString} {assigned : Option UsbDevicePolicy}
      (hassigns : Assigns controller.unmountedUsb table key assigned)
      (hgrantable : ∀ entry, assigned = some entry → Grantable controller.policy entry.auth) :
      Change controller call [] { controller with unmountedUsb := table }
  /-- An unmounted entry moves to the mounted devices. -/
  | mounted (device : UsbDevice) {entry : UsbDevicePolicy} {unmounted mounted : UsbTable}
      (hentry : controller.unmountedUsb.lookup device.deviceId = some entry)
      (hunmounted : Assigns controller.unmountedUsb unmounted device.deviceId none)
      (hmounted : Assigns controller.mountedUsb mounted device.deviceId
        (some { entry with device := { entry.device with mntPoint := device.mntPoint } })) :
      Change controller (.updateUsb device)
        [{ entry with device := { entry.device with mntPoint := device.mntPoint } }]
        { controller with unmountedUsb := unmounted, mountedUsb := mounted }
  | requested (update : UsbUpdateMessage) {entry : UsbDevicePolicy}
      (hentry : controller.mountedUsb.lookup (.ofText update.device) = some entry) :
      Change controller (.requestUsbUpdate update) [⟨entry.device, update.authorization⟩] controller
  | removed (deviceId : OsString) {entry : UsbDevicePolicy} {table : UsbTable}
      (hentry : controller.mountedUsb.lookup deviceId = some entry)
      (hassigns : Assigns controller.mountedUsb table deviceId none) :
      Change controller (.removeUsb deviceId) [⟨entry.device, .block⟩]
        { controller with mountedUsb := table }
  | recovered (devName mntPoint : String) {table : UsbTable}
      (hassigns : Assigns controller.mountedUsb table (.ofText ("/dev/" ++ devName))
        (some (recoveredPolicy controller.policy devName mntPoint))) :
      Change controller (.recoverMountedDevice devName mntPoint)
        [recoveredPolicy controller.policy devName mntPoint]
        { controller with mountedUsb := table }

/-- A program that sends nothing to the file filter. -/
theorem sentUpdates_eq_nil {ρ α : Type} {program : Program Effect (ServiceController schemes) ρ α}
    {controller : ServiceController schemes}
    (hemits : Program.Emits program controller fun effect ↦
      ∀ policy, effect ≠ .updateUsbAuth policy) :
    sentUpdates (program.run controller).trace = [] := by
  rw [sentUpdates, List.filterMap_eq_nil_iff]
  intro effect heffect
  rcases effect with message | policy | syspath
  · rfl
  · exact absurd rfl (hemits _ heffect policy)
  · rfl

theorem sentUpdates_authorizeUsb (controller : ServiceController schemes) (device : UsbDevice)
    (signature : Option String) :
    sentUpdates ((authorizeUsb device signature).run controller).trace = [] := by
  have hnew : ∀ start : ServiceController schemes,
      Program.Emits (authorizeNewUsb device signature) start fun effect ↦
        ∀ policy, effect ≠ .updateUsbAuth policy := by
    intro start
    simp only [authorizeNewUsb, Program.emits_modify_bind_iff, Program.emits_get_bind_iff]
    rcases evaluateUsb _ device signature with error | auth
    · simp [Program.Emits]
    · by_cases hblock : auth = .block <;> simp [Program.Emits, hblock]
  refine sentUpdates_eq_nil ?_
  rw [authorizeUsb, Program.emits_get_bind_iff]
  rcases controller.unmountedUsb.lookup device.deviceId with _ | ⟨entry, auth⟩
  · exact hnew controller
  · rcases auth with _ | _ | _ | _ | _
    · simp
    · simpa using hnew _
    · simp
    · simp
    · simp

theorem sentUpdates_overrideBlockedUsb (controller : ServiceController schemes) (deviceId : String)
    (writeSucceeds : Bool) :
    sentUpdates ((overrideBlockedUsb deviceId writeSucceeds).run controller).trace = [] := by
  refine sentUpdates_eq_nil ?_
  simp [overrideBlockedUsb]

/-- A call that sends nothing and leaves the controller is one of these changes. -/
theorem change_of_callEnding_eq {controller : ServiceController schemes} {call : Call}
    (hending : callEnding controller call = ([], controller)) :
    Change controller call (callEnding controller call).1 (callEnding controller call).2 := by
  rw [hending]
  exact .same call

theorem change_authorizeUsb (controller : ServiceController schemes) (device : UsbDevice)
    (signature : Option String) :
    Change controller (.authorizeUsb device signature)
      (callEnding controller (.authorizeUsb device signature)).1
      (callEnding controller (.authorizeUsb device signature)).2 := by
  rw [callEnding, filterEnding, sentUpdates_authorizeUsb]
  rcases authorizeUsb_cases controller device signature with
    ⟨_, _, _, hending⟩ | ⟨_, _, _, hending⟩ | ⟨_, table, hassigns, hstate, _⟩
  · rw [hending]
    exact .same _
  · rw [hending]
    exact .same _
  · rw [hstate]
    refine .unmounted _ hassigns fun entry hentry ↦ ?_
    rw [← Option.some.inj hentry]
    exact grantable_decidedAuth controller device signature

theorem change_overrideBlockedUsb (controller : ServiceController schemes) (deviceId : String)
    (writeSucceeds : Bool) :
    Change controller (.overrideBlockedUsb deviceId writeSucceeds)
      (callEnding controller (.overrideBlockedUsb deviceId writeSucceeds)).1
      (callEnding controller (.overrideBlockedUsb deviceId writeSucceeds)).2 := by
  rw [callEnding, filterEnding, sentUpdates_overrideBlockedUsb]
  by_cases hreaches : reachesWrite controller deviceId
  · obtain ⟨_, table, _, _, hassigns, hstate, _⟩ :=
      overrideBlockedUsb_of_reachesWrite controller hreaches writeSucceeds
    rw [hstate]
    refine .unmounted _ hassigns fun entry hentry ↦ ?_
    rw [← Option.some.inj hentry]
    exact grantable_overrideAuth controller.policy
  · obtain ⟨_, hending⟩ :=
      overrideBlockedUsb_of_not_reachesWrite controller (by simpa using hreaches) writeSucceeds
    rw [hending]
    exact .same _

theorem change_updateUsb (controller : ServiceController schemes) (device : UsbDevice) :
    Change controller (.updateUsb device) (callEnding controller (.updateUsb device)).1
      (callEnding controller (.updateUsb device)).2 := by
  rcases hentry : controller.unmountedUsb.lookup device.deviceId with _ | entry
  · apply change_of_callEnding_eq
    simp [callEnding, filterEnding, updateUsb, hentry, okOr, sentUpdates]
  · have hsent : (callEnding controller (.updateUsb device)).1 =
        [{ entry with device := { entry.device with mntPoint := device.mntPoint } }] := by
      simp [callEnding, filterEnding, updateUsb, hentry, sentUpdates]
    have hstate : (callEnding controller (.updateUsb device)).2 =
        { controller with
          unmountedUsb := controller.unmountedUsb.erase device.deviceId
          mountedUsb := controller.mountedUsb.insert device.deviceId
            { entry with device := { entry.device with mntPoint := device.mntPoint } } } := by
      simp [callEnding, filterEnding, updateUsb, hentry]
    rw [hsent, hstate]
    exact .mounted device hentry (assigns_erase _ _) (assigns_insert _ _ _)

theorem change_requestUsbUpdate (controller : ServiceController schemes)
    (update : UsbUpdateMessage) :
    Change controller (.requestUsbUpdate update)
      (callEnding controller (.requestUsbUpdate update)).1
      (callEnding controller (.requestUsbUpdate update)).2 := by
  rcases hentry : controller.mountedUsb.lookup (.ofText update.device) with _ | entry
  · apply change_of_callEnding_eq
    simp [callEnding, filterEnding, requestUsbUpdate, hentry, sentUpdates]
  · have hending : callEnding controller (.requestUsbUpdate update) =
        ([⟨entry.device, update.authorization⟩], controller) := by
      simp [callEnding, filterEnding, requestUsbUpdate, hentry, sentUpdates]
    rw [hending]
    exact .requested update hentry

/-- What is removed is a mounted device, or an unmounted one that is not blocked. -/
theorem change_removeUsb (controller : ServiceController schemes) (deviceId : OsString) :
    Change controller (.removeUsb deviceId) (callEnding controller (.removeUsb deviceId)).1
      (callEnding controller (.removeUsb deviceId)).2 := by
  rcases hentry : controller.mountedUsb.lookup deviceId with _ | entry
  · rcases hunmounted : controller.unmountedUsb.lookup deviceId with _ | other
    · apply change_of_callEnding_eq
      simp [callEnding, filterEnding, removeUsb, hentry, hunmounted, sentUpdates]
    by_cases hblock : other.auth = .block
    · apply change_of_callEnding_eq
      simp [callEnding, filterEnding, removeUsb, hentry, hunmounted, hblock, sentUpdates]
    · have hending : callEnding controller (.removeUsb deviceId) =
          ([], { controller with unmountedUsb := controller.unmountedUsb.erase deviceId }) := by
        simp [callEnding, filterEnding, removeUsb, hentry, hunmounted, hblock, sentUpdates]
      rw [hending]
      exact .unmounted _ (assigns_erase _ _) (by simp)
  · have hending : callEnding controller (.removeUsb deviceId) =
        ([⟨entry.device, .block⟩],
          { controller with mountedUsb := controller.mountedUsb.erase deviceId }) := by
      simp [callEnding, filterEnding, removeUsb, hentry, sentUpdates]
    rw [hending]
    exact .removed deviceId hentry (assigns_erase _ _)

/-- Every call makes one of these changes. -/
theorem change_of_call (controller : ServiceController schemes) (call : Call) :
    Change controller call (callEnding controller call).1 (callEnding controller call).2 := by
  cases call with
  | authorizeUsb device signature => exact change_authorizeUsb controller device signature
  | overrideBlockedUsb deviceId writeSucceeds =>
    exact change_overrideBlockedUsb controller deviceId writeSucceeds
  | updateUsb device => exact change_updateUsb controller device
  | requestUsbUpdate update => exact change_requestUsbUpdate controller update
  | removeUsb deviceId => exact change_removeUsb controller deviceId
  | forceRemoveUsb deviceId =>
    exact .unmounted _ (assigns_erase controller.unmountedUsb deviceId) (by simp)
  | recoverMountedDevice devName mntPoint =>
    exact .recovered devName mntPoint (assigns_insert _ _ _)

/-! ### The controller with its filter -/

variable (schemes) in
/-- The controller and the filter, together with a record, by mount point, of the authorization that
the filter took last. -/
structure Enforcement where
  controller : ServiceController schemes
  filter : LinuxFileFilter
  applied : OsString → Option UsbAuthorization

/-- A controller and a filter that have just started. -/
def Enforcement.init (policy : SecurityPolicy) (usbCaPub : KeysasHybridPubKeys schemes)
    (filter : LinuxFileFilter) : Enforcement schemes :=
  ⟨.init policy usbCaPub, filter, fun _ ↦ none⟩

/-- The filter takes an update. -/
def takes (filter : LinuxFileFilter) (update : UsbDevicePolicy) (answer : MarkAnswer) : Bool :=
  (updateUsbAuth filter update answer).2 = .ok ()

/-- The record after an update that the filter takes. -/
def recordApplied (applied : OsString → Option UsbAuthorization) (update : UsbDevicePolicy) :
    OsString → Option UsbAuthorization :=
  match update.device.mntPoint with
  | none => applied
  | some mntPoint => Function.update applied mntPoint (some update.auth)

/-- An update is sent to the filter, and what the filter takes is recorded. -/
def Enforcement.send (system : Enforcement schemes) (answer : MarkAnswer)
    (update : UsbDevicePolicy) : Enforcement schemes where
  controller := system.controller
  filter := (updateUsbAuth system.filter update answer).1
  applied :=
    if takes system.filter update answer then recordApplied system.applied update
    else system.applied

/-- What a call sends to the filter, and for a request the authorization that the controller has for
the device. -/
structure Sending where
  sent : List UsbDevicePolicy
  recorded : Option UsbAuthorization

/-- The authorization that the controller has for the device of a request. -/
def recordedAuth (controller : ServiceController schemes) : Call → Option UsbAuthorization
  | .requestUsbUpdate update => getUsbAuth controller (.ofText update.device)
  | _ => none

/-- One call, and the answer of the kernel to what it sends. -/
def enforcementStep (system : Enforcement schemes) (input : Call × MarkAnswer) :
    Enforcement schemes × Sending :=
  let ending := callEnding system.controller input.1
  (ending.1.foldl (fun reached update ↦ reached.send input.2 update)
      { system with controller := ending.2 },
    ⟨ending.1, recordedAuth system.controller input.1⟩)

/-- A step makes a change of the controller, and the filter answers what the change sends. -/
theorem exists_change_enforcementStep (system : Enforcement schemes) (call : Call)
    (answer : MarkAnswer) :
    ∃ sent next, Change system.controller call sent next ∧
      enforcementStep system (call, answer) =
        (sent.foldl (fun reached update ↦ reached.send answer update)
          { system with controller := next }, ⟨sent, recordedAuth system.controller call⟩) :=
  ⟨_, _, change_of_call system.controller call, rfl⟩

/-! ### Agreement -/

/-- The authorization recorded for a mounted device is the one that the filter took last for its
mount point. -/
def AppliedFor (applied : OsString → Option UsbAuthorization) (entry : UsbDevicePolicy) : Prop :=
  entry.device.mntPoint.bind applied = some entry.auth

/-- The controller and the filter agree about every mounted device. -/
def Agrees (system : Enforcement schemes) : Prop :=
  AllEntries (fun _ entry ↦ AppliedFor system.applied entry) system.controller.mountedUsb

/-- Every mounted device at a mount point has the authorization, apart from the device of one
node. -/
def othersHave (table : UsbTable) (key : OsString) (mntPoint : Option OsString)
    (auth : UsbAuthorization) : Bool :=
  table.entries.all fun entry ↦
    entry.1 = key || entry.2.device.mntPoint ≠ mntPoint || entry.2.auth = auth

/-- The condition on a call. A device is mounted, or recovered, with an update that the filter takes
and at a mount point where no mounted device has another authorization. A request that the filter
takes is for the authorization that is recorded. A device is removed with an update that the filter
does not take, or from a mount point where no other mounted device has an authorization but
`block`. -/
def keepsAgreement (system : Enforcement schemes) (input : Call × MarkAnswer) : Bool :=
  match input.1 with
  | .updateUsb device =>
    (system.controller.unmountedUsb.lookup device.deviceId).all fun entry ↦
      takes system.filter
        { entry with device := { entry.device with mntPoint := device.mntPoint } } input.2 &&
      othersHave system.controller.mountedUsb device.deviceId device.mntPoint entry.auth
  | .requestUsbUpdate update =>
    (system.controller.mountedUsb.lookup (.ofText update.device)).all fun entry ↦
      !takes system.filter ⟨entry.device, update.authorization⟩ input.2 ||
        update.authorization = entry.auth
  | .removeUsb deviceId =>
    (system.controller.mountedUsb.lookup deviceId).all fun entry ↦
      !takes system.filter ⟨entry.device, .block⟩ input.2 ||
        othersHave system.controller.mountedUsb deviceId entry.device.mntPoint .block
  | .recoverMountedDevice devName mntPoint =>
    takes system.filter (recoveredPolicy system.controller.policy devName mntPoint) input.2 &&
      othersHave system.controller.mountedUsb (.ofText ("/dev/" ++ devName))
        (some (.ofText mntPoint))
        (overrideAuth system.controller.policy)
  | _ => true

theorem exists_mntPoint_of_takes {filter : LinuxFileFilter} {update : UsbDevicePolicy}
    {answer : MarkAnswer} (htakes : takes filter update answer) :
    ∃ mntPoint, update.device.mntPoint = some mntPoint := by
  rcases hmntPoint : update.device.mntPoint with _ | mntPoint
  · simp [takes, updateUsbAuth, hmntPoint] at htakes
  · exact ⟨mntPoint, rfl⟩

theorem othersHave_iff {table : UsbTable} {key : OsString} {mntPoint : Option OsString}
    {auth : UsbAuthorization} :
    othersHave table key mntPoint auth ↔ ∀ other entry, table.lookup other = some entry →
      other ≠ key → entry.device.mntPoint = mntPoint → entry.auth = auth := by
  simp only [othersHave, List.all_eq_true, Bool.or_eq_true, decide_eq_true_eq]
  constructor
  · intro hall other entry hlookup hother hmntPoint
    rcases hall ⟨other, entry⟩ (AList.mem_lookup_iff.mp hlookup) with (hkey | hne) | hauth
    · exact absurd hkey hother
    · exact absurd hmntPoint hne
    · exact hauth
  · intro hall entry hentry
    have hlookup := AList.mem_lookup_iff.mpr hentry
    by_cases hkey : entry.1 = key
    · exact .inl (.inl hkey)
    by_cases hmntPoint : entry.2.device.mntPoint = mntPoint
    · exact .inr (hall entry.1 entry.2 hlookup hkey hmntPoint)
    · exact .inl (.inr hmntPoint)

/-- An update keeps the agreement about an entry that it does not contradict. -/
theorem AppliedFor.send {system : Enforcement schemes} {answer : MarkAnswer}
    {update entry : UsbDevicePolicy} (happlied : AppliedFor system.applied entry)
    (hauth : takes system.filter update answer → entry.device.mntPoint = update.device.mntPoint →
      entry.auth = update.auth) :
    AppliedFor (system.send answer update).applied entry := by
  rw [Enforcement.send]
  by_cases htakes : takes system.filter update answer
  swap
  · simpa [htakes] using happlied
  obtain ⟨mntPoint, hmntPoint⟩ := exists_mntPoint_of_takes htakes
  simp only [htakes, if_true, recordApplied, hmntPoint, AppliedFor]
  by_cases hsame : entry.device.mntPoint = some mntPoint
  · simp [hsame, hauth htakes (hsame.trans hmntPoint.symm)]
  · rw [← happlied]
    rcases hother : entry.device.mntPoint with _ | other
    · rfl
    · have hne : other ≠ mntPoint := by
        rintro rfl
        exact hsame hother
      simp [hne]

/-- An update that the filter takes is applied for its own entry. -/
theorem appliedFor_send_self {system : Enforcement schemes} {answer : MarkAnswer}
    {update : UsbDevicePolicy} (htakes : takes system.filter update answer) :
    AppliedFor (system.send answer update).applied update := by
  obtain ⟨mntPoint, hmntPoint⟩ := exists_mntPoint_of_takes htakes
  simp [Enforcement.send, htakes, recordApplied, hmntPoint, AppliedFor]

/-- Mounting keeps the agreement. Assumes: the filter takes the update, and no other mounted device
at the mount point has another authorization. -/
theorem Agrees.mount {system : Enforcement schemes} {answer : MarkAnswer} {update : UsbDevicePolicy}
    {key : OsString} {unmounted mounted : UsbTable} (hagrees : Agrees system)
    (hassigns : Assigns system.controller.mountedUsb mounted key (some update))
    (htakes : takes system.filter update answer)
    (hothers : othersHave system.controller.mountedUsb key update.device.mntPoint update.auth) :
    Agrees (Enforcement.send
      { system with controller :=
          { system.controller with unmountedUsb := unmounted, mountedUsb := mounted } }
      answer update) := by
  intro other entry hlookup
  by_cases hkey : other = key
  · subst hkey
    obtain rfl := Option.some.inj (hassigns.lookup_self.symm.trans hlookup)
    exact appliedFor_send_self htakes
  · have hbefore := (hassigns.lookup_of_ne hkey).symm.trans hlookup
    refine (hagrees other entry hbefore).send fun _ hmntPoint ↦ ?_
    exact othersHave_iff.mp hothers other entry hbefore hkey hmntPoint

/-- One call keeps the agreement. Assumes: it satisfies the condition. -/
theorem Agrees.step {system : Enforcement schemes} (hagrees : Agrees system)
    {input : Call × MarkAnswer} (hkeeps : keepsAgreement system input) :
    Agrees (enforcementStep system input).1 := by
  obtain ⟨call, answer⟩ := input
  obtain ⟨sent, next, hchange, hstep⟩ := exists_change_enforcementStep system call answer
  rw [hstep]
  cases hchange with
  | same => exact hagrees
  | unmounted => exact hagrees
  | mounted device hentry hunmounted hmounted =>
    simp only [keepsAgreement, hentry, Option.all_some, Bool.and_eq_true] at hkeeps
    exact hagrees.mount hmounted hkeeps.1 hkeeps.2
  | @requested update entry hentry =>
    simp only [keepsAgreement, hentry, Option.all_some, Bool.or_eq_true, Bool.not_eq_true',
      decide_eq_true_eq] at hkeeps
    intro other otherEntry hlookup
    refine (hagrees other otherEntry hlookup).send fun htakes hmntPoint ↦ ?_
    have hauth : update.authorization = entry.auth :=
      hkeeps.resolve_left fun hrefused ↦ Bool.noConfusion (hrefused.symm.trans htakes)
    -- Both devices have the authorization that the filter took last for their mount point.
    have hsame : some otherEntry.auth = some entry.auth := by
      rw [← hagrees other otherEntry hlookup, ← hagrees _ entry hentry, hmntPoint]
    exact (Option.some.inj hsame).trans hauth.symm
  | @removed deviceId entry table hentry hassigns =>
    simp only [keepsAgreement, hentry, Option.all_some, Bool.or_eq_true,
      Bool.not_eq_true'] at hkeeps
    intro other otherEntry hlookup
    have hafter : table.lookup other = some otherEntry := hlookup
    have hkey : other ≠ deviceId := by
      rintro rfl
      rw [hassigns.lookup_self] at hafter
      cases hafter
    have hbefore := (hassigns.lookup_of_ne hkey).symm.trans hafter
    refine (hagrees other otherEntry hbefore).send fun htakes hmntPoint ↦ ?_
    have hothers := hkeeps.resolve_left fun hrefused ↦ Bool.noConfusion (hrefused.symm.trans htakes)
    exact othersHave_iff.mp hothers other otherEntry hbefore hkey hmntPoint
  | recovered devName mntPoint hassigns =>
    simp only [keepsAgreement, Bool.and_eq_true] at hkeeps
    exact hagrees.mount hassigns hkeeps.1 hkeeps.2

/-! ### Runs -/

/-- In every run from the start the controller and the filter agree. Assumes: every call satisfies
the condition in the state before it. -/
theorem agrees_of_run (policy : SecurityPolicy) (usbCaPub : KeysasHybridPubKeys schemes)
    (filter : LinuxFileFilter) {history : List ((Call × MarkAnswer) × Sending)}
    {system : Enforcement schemes}
    (hrun : Run enforcementStep (fun _ system input ↦ keepsAgreement system input = true)
      (Enforcement.init policy usbCaPub filter) history system) :
    Agrees system := by
  have hstart : Agrees (Enforcement.init policy usbCaPub filter) := allEntries_empty _
  exact hrun.holds hstart fun _ _ _ hagrees hkeeps ↦ hagrees.step hkeeps

/-- The policy that accepts every device. -/
def openPolicy : SecurityPolicy where
  disableUnsignedUsb := true
  allowUserUsbAuthorization := true
  allowUserFileRead := true
  allowUserFileWrite := true

/-- A device is accepted and mounted, and then the GUI asks for an authorization. -/
def mountedThenRequested (auth : UsbAuthorization) : List (Call × MarkAnswer) :=
  [(.authorizeUsb mountedDevice none, .done), (.updateUsb mountedDevice, .done),
    (.requestUsbUpdate ⟨"/dev/sdb1", "", "", auth⟩, .done)]

/-- The run in which the GUI asks for the authorization that the device has. -/
theorem agrees_of_run_same :
    Agrees (execute enforcementStep
      (Enforcement.init openPolicy (transparentPubKeys 0) newFilter)
      (mountedThenRequested .allowAll)).2 :=
  agrees_of_run openPolicy (transparentPubKeys 0) newFilter (run_execute _ (by decide))

/-- Not every run keeps the agreement: after a request for another authorization the controller has
the old one. -/
theorem not_forall_run_agrees :
    ¬ ∀ (schemes : Schemes) (policy : SecurityPolicy) (usbCaPub : KeysasHybridPubKeys schemes)
      (filter : LinuxFileFilter) (history : List ((Call × MarkAnswer) × Sending))
      (system : Enforcement schemes),
      Run enforcementStep (fun _ _ _ ↦ True) (Enforcement.init policy usbCaPub filter) history
        system → Agrees system := by
  intro hagree
  let start := Enforcement.init openPolicy (transparentPubKeys 0) newFilter
  let inputs := mountedThenRequested .allowRead
  have hrun : Run enforcementStep (fun _ _ _ ↦ True) start (execute enforcementStep start inputs).1
      (execute enforcementStep start inputs).2 := run_execute _ (by simp [Admits, inputs,
        mountedThenRequested])
  have hrecorded : (execute enforcementStep start inputs).2.controller.mountedUsb.lookup
      mountedDevice.deviceId = some ⟨mountedDevice, .allowAll⟩ := by decide
  have happlied : (execute enforcementStep start inputs).2.applied (.ofText "/media/usb") =
      some .allowAll := hagree _ _ _ _ _ _ hrun _ _ hrecorded
  exact absurd happlied (by decide)

end Keysas.Firewall
