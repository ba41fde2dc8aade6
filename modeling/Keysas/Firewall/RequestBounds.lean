import Keysas.Firewall.Enforcement

/-!
# Requests and the policy

What the file filter is sent for a device should be no more than what the policy lets a device get:
everything without signatures, reading and writing when users may write, and reading otherwise.
Where users may not authorize devices, a request of the GUI should not raise what is recorded
either.

An override is checked against the policy and an evaluation follows it. A request that changes the
authorization of a mounted device goes to the filter as it is. `withinPolicy` is the condition on
such a request, and `boundedByPolicy_of_run` says that in every run whose requests all satisfy it,
everything that is sent is bounded by the policy.
-/

set_option autoImplicit false
set_option relaxedAutoImplicit false

namespace Keysas.Firewall

open Keys Runs RustStd Store

variable {schemes : Schemes}

/-! ### Requests -/

/-- The errors of the D-Bus service. -/
inductive DbusError where
  /-- The authorization is not one of 1 to 4. -/
  | invalidArgs
  deriving DecidableEq

/-- `update_usb_authorization` of the D-Bus service: the request that it makes of the controller. -/
def updateUsbAuthorization (device : String) (auth : UInt8) : Except DbusError UsbUpdateMessage :=
  if auth = 1 then .ok ⟨device, "", "", .block⟩
  else if auth = 2 then .ok ⟨device, "", "", .allowRead⟩
  else if auth = 3 then .ok ⟨device, "", "", .allowRW⟩
  else if auth = 4 then .ok ⟨device, "", "", .allowAll⟩
  else .error .invalidArgs

/-- The call is a request to change an authorization. -/
def isRequest : Call → Bool
  | .requestUsbUpdate _ => true
  | _ => false

/-! ### Bounds -/

/-- What a call sends is bounded by the policy: no update is more permissive than what the policy
lets a device get, and where users may not authorize devices no request is more permissive than
what is recorded for its device. -/
def BoundedByPolicy (policy : SecurityPolicy) (input : Call × MarkAnswer) (sending : Sending) :
    Prop :=
  ∀ update ∈ sending.sent, Grantable policy update.auth ∧
    (policy.allowUserUsbAuthorization = false → isRequest input.1 →
      ∃ auth, sending.recorded = some auth ∧ update.auth.asU8 ≤ auth.asU8)

/-- The condition on a request about a mounted device: it is for no more than what the policy lets a
device get, and where users may not authorize devices for no more than what is recorded. -/
def withinPolicy (system : Enforcement schemes) (input : Call × MarkAnswer) : Bool :=
  match input.1 with
  | .requestUsbUpdate update =>
    (system.controller.mountedUsb.lookup (.ofText update.device)).all fun entry ↦
      update.authorization.asU8 ≤ (maxGrant system.controller.policy).asU8 &&
        (system.controller.policy.allowUserUsbAuthorization ||
          update.authorization.asU8 ≤ entry.auth.asU8)
  | _ => true

/-! ### The invariant -/

/-- What holds in every state: the policy is that of the start, and every entry has an authorization
that it lets a device get. -/
structure GrantedByPolicy (policy : SecurityPolicy) (system : Enforcement schemes) : Prop where
  policy_eq : system.controller.policy = policy
  unmounted : AllEntries (fun _ entry ↦ Grantable policy entry.auth) system.controller.unmountedUsb
  mounted : AllEntries (fun _ entry ↦ Grantable policy entry.auth) system.controller.mountedUsb

theorem GrantedByPolicy.init (policy : SecurityPolicy) (usbCaPub : KeysasHybridPubKeys schemes)
    (filter : LinuxFileFilter) : GrantedByPolicy policy (Enforcement.init policy usbCaPub filter) :=
  ⟨rfl, allEntries_empty _, allEntries_empty _⟩

section Step

variable {policy : SecurityPolicy} {system : Enforcement schemes}

/-- The invariant survives every call. -/
theorem GrantedByPolicy.step (hgranted : GrantedByPolicy policy system)
    (input : Call × MarkAnswer) : GrantedByPolicy policy (enforcementStep system input).1 := by
  obtain ⟨call, answer⟩ := input
  obtain ⟨sent, next, hchange, hstep⟩ := exists_change_enforcementStep system call answer
  rw [hstep]
  obtain ⟨rfl, hunmounted, hmounted⟩ := hgranted
  cases hchange with
  | same => exact ⟨rfl, hunmounted, hmounted⟩
  | unmounted call hassigns hgrantable =>
    exact ⟨rfl, hunmounted.assign hassigns hgrantable fun _ _ _ hentry ↦ hentry, hmounted⟩
  | mounted device hentry herased hassigns =>
    refine ⟨rfl, hunmounted.assign herased (by simp) fun _ _ _ hother ↦ hother,
      hmounted.assign hassigns ?_ fun _ _ _ hother ↦ hother⟩
    have hgrantable := hunmounted _ _ hentry
    rintro moved ⟨⟩
    exact hgrantable
  | requested update hentry => exact ⟨rfl, hunmounted, hmounted⟩
  | removed deviceId hentry hassigns =>
    exact ⟨rfl, hunmounted, hmounted.assign hassigns (by simp) fun _ _ _ hother ↦ hother⟩
  | recovered devName mntPoint hassigns =>
    refine ⟨rfl, hunmounted, hmounted.assign hassigns ?_ fun _ _ _ hother ↦ hother⟩
    rintro moved ⟨⟩
    exact grantable_overrideAuth system.controller.policy

/-- What a call sends is bounded by the policy. Assumes: a request satisfies the condition. -/
theorem GrantedByPolicy.boundedByPolicy (hgranted : GrantedByPolicy policy system)
    {input : Call × MarkAnswer} (hwithin : withinPolicy system input) :
    BoundedByPolicy policy input (enforcementStep system input).2 := by
  obtain ⟨call, answer⟩ := input
  obtain ⟨sent, next, hchange, hstep⟩ := exists_change_enforcementStep system call answer
  rw [hstep]
  obtain ⟨rfl, hunmounted, hmounted⟩ := hgranted
  intro sentUpdate hsent
  cases hchange with
  | same => simp at hsent
  | unmounted call hassigns hgrantable => simp at hsent
  | mounted device hentry herased hassigns =>
    have hgrantable := hunmounted _ _ hentry
    obtain rfl := List.mem_singleton.mp hsent
    exact ⟨hgrantable, by simp [isRequest]⟩
  | @requested update entry hentry =>
    obtain rfl := List.mem_singleton.mp hsent
    simp only [withinPolicy, hentry, Option.all_some, Bool.and_eq_true, decide_eq_true_eq,
      Bool.or_eq_true] at hwithin
    refine ⟨hwithin.1, fun hforbidden _ ↦ ⟨entry.auth, ?_, ?_⟩⟩
    · simp [recordedAuth, getUsbAuth, hentry]
    · exact hwithin.2.resolve_left fun hallowed ↦
        Bool.noConfusion (hforbidden.symm.trans hallowed)
  | removed deviceId hentry hassigns =>
    obtain rfl := List.mem_singleton.mp hsent
    exact ⟨grantable_block _, by simp [isRequest]⟩
  | recovered devName mntPoint hassigns =>
    obtain rfl := List.mem_singleton.mp hsent
    exact ⟨grantable_overrideAuth system.controller.policy, by simp [isRequest]⟩

end Step

/-! ### Runs -/

/-- In every run from the start everything that is sent to the filter is bounded by the policy.
Assumes: every request satisfies the condition in the state before it. -/
theorem boundedByPolicy_of_run (policy : SecurityPolicy) (usbCaPub : KeysasHybridPubKeys schemes)
    (filter : LinuxFileFilter) {history : List ((Call × MarkAnswer) × Sending)}
    {system : Enforcement schemes}
    (hrun : Run enforcementStep (fun _ system input ↦ withinPolicy system input = true)
      (Enforcement.init policy usbCaPub filter) history system) :
    ∀ entry ∈ history, BoundedByPolicy policy entry.1 entry.2 := by
  refine hrun.forall_entries fun front reached input hreached hwithin ↦ ?_
  have hgranted : GrantedByPolicy policy reached :=
    hreached.holds (GrantedByPolicy.init policy usbCaPub filter)
      fun _ _ input hbefore _ ↦ hbefore.step input
  exact hgranted.boundedByPolicy hwithin

/-- A mounted device is found when the daemon starts, and then the GUI asks for an authorization. -/
def recoveredThenRequested (auth : UsbAuthorization) : List (Call × MarkAnswer) :=
  [(.recoverMountedDevice "sdb1" "/media/usb", .done),
    (.requestUsbUpdate ⟨"/dev/sdb1", "", "", auth⟩, .done)]

/-- The run in which the GUI blocks the device. -/
theorem boundedByPolicy_of_run_block :
    Admits enforcementStep (fun _ system input ↦ withinPolicy system input = true) []
        (Enforcement.init strictPolicy (transparentPubKeys 0) newFilter)
        (recoveredThenRequested .block) ∧
      ∀ entry ∈ (execute enforcementStep
          (Enforcement.init strictPolicy (transparentPubKeys 0) newFilter)
          (recoveredThenRequested .block)).1,
        BoundedByPolicy strictPolicy entry.1 entry.2 :=
  ⟨by decide,
    boundedByPolicy_of_run strictPolicy (transparentPubKeys 0) newFilter
      (run_execute _ (by decide))⟩

/-- Not everything that is sent is bounded by the policy: under the policy that grants nothing to
the user, a request over D-Bus gives a device every access. -/
theorem not_forall_run_boundedByPolicy :
    ¬ ∀ (schemes : Schemes) (policy : SecurityPolicy) (usbCaPub : KeysasHybridPubKeys schemes)
      (filter : LinuxFileFilter) (history : List ((Call × MarkAnswer) × Sending))
      (system : Enforcement schemes),
      Run enforcementStep (fun _ _ _ ↦ True) (Enforcement.init policy usbCaPub filter) history
        system → ∀ entry ∈ history, BoundedByPolicy policy entry.1 entry.2 := by
  intro hbounded
  let start := Enforcement.init strictPolicy (transparentPubKeys 0) newFilter
  let inputs := recoveredThenRequested .allowAll
  have hrun : Run enforcementStep (fun _ _ _ ↦ True) start (execute enforcementStep start inputs).1
      (execute enforcementStep start inputs).2 :=
    run_execute _ (by simp [Admits, inputs, recoveredThenRequested])
  obtain ⟨update, hupdate⟩ : ∃ update, updateUsbAuthorization "/dev/sdb1" 4 = .ok update :=
    ⟨_, rfl⟩
  have hsent : ((.requestUsbUpdate update, .done),
      ⟨[⟨(recoveredPolicy strictPolicy "sdb1" "/media/usb").device, .allowAll⟩], some .allowRead⟩) ∈
        (execute enforcementStep start inputs).1 := by
    obtain rfl := Except.ok.inj hupdate
    exact .tail _ (.head _)
  have hgrantable := (hbounded _ _ _ _ _ _ hrun _ hsent _ (List.mem_singleton.mpr rfl)).1
  exact absurd hgrantable (by decide)

end Keysas.Firewall
