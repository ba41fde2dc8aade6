import Keysas.Firewall.ServiceController
import Keysas.Runs.HistoryRun

/-!
# Soundness of USB grants

`authorize_usb` should accept a device only for a reason of its own: the policy accepts every
device, or the signature verifies for the identity of the device, or the user has unblocked that
very device. `Justified` states this about a call and what happened before it.

The decision also depends on what earlier operations left in the table of unmounted devices: an
entry that allows is taken for a user override, whatever device it was made for and however it came
to allow. Three kinds of entries break soundness there. An override whose sysfs write failed leaves
an allowing entry behind. An entry belongs to a device node, which another device may use next. And
a device that was accepted for its signature but never mounted leaves an entry that accepts the next
device of the node without one.

`Recorded` adds to the controller a record of how each entry came to allow, which no operation
reads. `meetsOwnGrant` is the condition on a call that the record makes expressible, and
`sound_of_run` says that in every run whose calls all satisfy it, every acceptance is justified.
-/

set_option autoImplicit false
set_option relaxedAutoImplicit false

namespace Keysas.Firewall

open Crypto Keys Runs RustStd Store

variable {schemes : Schemes}

/-! ### What a verifying signature is -/

/-- The two signatures at the front of the block are signatures of the identity of the device under
the keys of the authority. -/
def SignedFor (usbCaPub : KeysasHybridPubKeys schemes) (device : UsbDevice) (sigBlock : String) :
    Prop :=
  ∃ sigCl sigPq rest classic pqBytes pq,
    split '|' sigBlock = sigCl :: sigPq :: rest ∧
    Base64.decode sigCl = some classic ∧ classic.length = 64 ∧
    Base64.decode sigPq = some pqBytes ∧ schemes.mlDsa87.signatureFromBytes pqBytes = some pq ∧
    schemes.ed25519.verifyStrict usbCaPub.classic (Wire.Bincode.utf8 (signedData device)) classic ∧
    schemes.mlDsa87.verify usbCaPub.pq (Wire.Bincode.utf8 (signedData device)) pq

/-- The evaluation of a signature comes to an end when its first two pieces have the form of the two
signatures, and ends with their verification. -/
theorem validateUsbSignature_eq_ok_iff {usbCaPub : KeysasHybridPubKeys schemes}
    {device : UsbDevice} {sigBlock : String} {valid : Bool} :
    validateUsbSignature usbCaPub device sigBlock = .ok valid ↔
      ∃ sigCl sigPq rest classic pqBytes pq,
        split '|' sigBlock = sigCl :: sigPq :: rest ∧
        Base64.decode sigCl = some classic ∧ classic.length = 64 ∧
        Base64.decode sigPq = some pqBytes ∧
        schemes.mlDsa87.signatureFromBytes pqBytes = some pq ∧
        verifyKeySignatures (Wire.Bincode.utf8 (signedData device)) ⟨classic, pq⟩ usbCaPub =
          valid := by
  constructor
  · intro hvalid
    rw [validateUsbSignature] at hvalid
    obtain ⟨classic, hclassic, hvalid⟩ := exists_of_okOr_bind_eq_ok hvalid
    by_cases hlength : classic.length = 64
    swap
    · simp only [hlength, ne_eq, not_false_eq_true, if_true] at hvalid
      cases hvalid
    simp only [hlength, ne_eq, not_true_eq_false, if_false] at hvalid
    obtain ⟨sigPq, hsigPq, hvalid⟩ := exists_of_okOr_bind_eq_ok hvalid
    obtain ⟨pqBytes, hpqBytes, hvalid⟩ := exists_of_okOr_bind_eq_ok hvalid
    obtain ⟨pq, hpq, hvalid⟩ := exists_of_okOr_bind_eq_ok hvalid
    have hverifies := Except.ok.inj hvalid
    rcases hsplit : split '|' sigBlock with _ | ⟨sigCl, _ | ⟨second, rest⟩⟩
    · simp [hsplit] at hsigPq
    · simp [hsplit] at hsigPq
    · obtain rfl : second = sigPq := by simpa [hsplit] using hsigPq
      rw [hsplit] at hclassic
      exact ⟨sigCl, second, rest, classic, pqBytes, pq, rfl, hclassic, hlength, hpqBytes, hpq,
        hverifies⟩
  · rintro ⟨sigCl, sigPq, rest, classic, pqBytes, pq, hsplit, hclassic, hlength, hpqBytes, hpq,
      rfl⟩
    simp only [validateUsbSignature, hsplit, List.headD_cons, List.tail_cons, List.head?_cons,
      hclassic, hpqBytes, hpq, okOr_some, ok_bind, hlength, ne_eq, not_true_eq_false, if_false]
    rfl

theorem signedFor_of_validateUsbSignature {usbCaPub : KeysasHybridPubKeys schemes}
    {device : UsbDevice} {sigBlock : String}
    (hvalid : validateUsbSignature usbCaPub device sigBlock = .ok true) :
    SignedFor usbCaPub device sigBlock := by
  obtain ⟨sigCl, sigPq, rest, classic, pqBytes, pq, hsplit, hclassic, hlength, hpqBytes, hpq,
    hverifies⟩ := validateUsbSignature_eq_ok_iff.mp hvalid
  obtain ⟨hclassicValid, hpqValid⟩ := Bool.and_eq_true_iff.mp hverifies
  exact ⟨sigCl, sigPq, rest, classic, pqBytes, pq, hsplit, hclassic, hlength, hpqBytes, hpq,
    hclassicValid, hpqValid⟩

theorem validateUsbSignature_of_signedFor {usbCaPub : KeysasHybridPubKeys schemes}
    {device : UsbDevice} {sigBlock : String} (hsigned : SignedFor usbCaPub device sigBlock) :
    validateUsbSignature usbCaPub device sigBlock = .ok true := by
  obtain ⟨sigCl, sigPq, rest, classic, pqBytes, pq, hsplit, hclassic, hlength, hpqBytes, hpq,
    hclassicValid, hpqValid⟩ := hsigned
  exact validateUsbSignature_eq_ok_iff.mpr ⟨sigCl, sigPq, rest, classic, pqBytes, pq, hsplit,
    hclassic, hlength, hpqBytes, hpq, Bool.and_eq_true_iff.mpr ⟨hclassicValid, hpqValid⟩⟩

/-- The signature of a call verifies. -/
def signatureVerifies (usbCaPub : KeysasHybridPubKeys schemes) (device : UsbDevice) :
    Option String → Bool
  | none => false
  | some sigBlock =>
    match validateUsbSignature usbCaPub device sigBlock with
    | .ok valid => valid
    | .error _ => false

/-- A signature verifies exactly when it is there and made for the device. -/
theorem signatureVerifies_iff {usbCaPub : KeysasHybridPubKeys schemes} {device : UsbDevice}
    {signature : Option String} :
    signatureVerifies usbCaPub device signature ↔
      ∃ sigBlock, signature = some sigBlock ∧ SignedFor usbCaPub device sigBlock := by
  constructor
  · intro hverifies
    cases signature with
    | none => cases hverifies
    | some sigBlock =>
      cases hvalid : validateUsbSignature usbCaPub device sigBlock with
      | error error => simp [signatureVerifies, hvalid] at hverifies
      | ok valid =>
        obtain rfl : valid = true := by simpa [signatureVerifies, hvalid] using hverifies
        exact ⟨sigBlock, rfl, signedFor_of_validateUsbSignature hvalid⟩
  · rintro ⟨sigBlock, rfl, hsigned⟩
    rw [signatureVerifies, validateUsbSignature_of_signedFor hsigned]

/-- An evaluation accepts only what the policy accepts without signatures or what is signed. -/
theorem evaluateUsb_accepts {controller : ServiceController schemes} {device : UsbDevice}
    {signature : Option String}
    (haccepts : (evaluateUsb controller device signature).map UsbAuthorization.isAllowing =
      .ok true) :
    controller.policy.disableUnsignedUsb ∨
      signatureVerifies controller.usbCaPub device signature := by
  by_cases hdisable : controller.policy.disableUnsignedUsb
  · exact .inl hdisable
  refine .inr ?_
  cases signature with
  | none => simp [evaluateUsb, hdisable, Except.map, UsbAuthorization.isAllowing] at haccepts
  | some sigBlock =>
    rcases hvalid : validateUsbSignature controller.usbCaPub device sigBlock with error | _ | _
    · simp [evaluateUsb, hvalid, Except.map] at haccepts
    · simp [evaluateUsb, hvalid, hdisable, Except.map, UsbAuthorization.isAllowing] at haccepts
    · simp [signatureVerifies, hvalid]

/-! ### The operations as steps -/

/-- The operations of the controller. -/
inductive Operation where
  | authorizeUsb (device : UsbDevice) (signature : Option String)
  /-- An override, and whether its sysfs write succeeds. -/
  | overrideBlockedUsb (deviceId : String) (writeSucceeds : Bool)
  | updateUsb (device : UsbDevice)
  | removeUsb (deviceId : OsString)
  | forceRemoveUsb (deviceId : OsString)

/-- What an operation returns. -/
inductive Response where
  | authorized (result : Except UsbError Bool)
  | overridden (result : Except UsbError Unit)
  | updated (result : Except UsbError Unit)
  | removed

/-- One operation of the controller. -/
def operate (controller : ServiceController schemes) :
    Operation → ServiceController schemes × Response
  | .authorizeUsb device signature =>
    let ending := (authorizeUsb device signature).run controller
    (ending.state, .authorized ending.value)
  | .overrideBlockedUsb deviceId writeSucceeds =>
    let ending := (overrideBlockedUsb deviceId writeSucceeds).run controller
    (ending.state, .overridden ending.value)
  | .updateUsb device =>
    let ending := (updateUsb device).run controller
    (ending.state, .updated ending.value)
  | .removeUsb deviceId => (((removeUsb deviceId).run controller).state, .removed)
  | .forceRemoveUsb deviceId => (((forceRemoveUsb deviceId).run controller).state, .removed)

/-- How an entry that allows came to allow. -/
inductive Basis where
  /-- `authorize_usb` evaluated the device. -/
  | evaluation
  /-- An override whose sysfs write succeeded. -/
  | override
  /-- An override whose sysfs write failed. -/
  | failedOverride
  deriving DecidableEq

variable (schemes) in
/-- The controller together with a record, by device node, of how its entry came to allow. -/
structure Recorded where
  controller : ServiceController schemes
  basis : OsString → Basis

/-- A controller that has just started. -/
def Recorded.init (policy : SecurityPolicy) (usbCaPub : KeysasHybridPubKeys schemes) :
    Recorded schemes :=
  ⟨.init policy usbCaPub, fun _ ↦ .evaluation⟩

/-- The device is evaluated: its node has no entry or one that blocks. -/
def evaluates (controller : ServiceController schemes) (device : UsbDevice) : Bool :=
  (controller.unmountedUsb.lookup device.deviceId).all fun entry ↦ entry.auth = .block

/-- The record after an operation. -/
def basisAfter (recorded : Recorded schemes) : Operation → OsString → Basis
  | .authorizeUsb device _ =>
    if evaluates recorded.controller device then
      Function.update recorded.basis device.deviceId .evaluation
    else recorded.basis
  | .overrideBlockedUsb deviceId writeSucceeds =>
    if reachesWrite recorded.controller deviceId then
      Function.update recorded.basis (.ofText deviceId)
        (if writeSucceeds then .override else .failedOverride)
    else recorded.basis
  | _ => recorded.basis

/-- One operation, and the record of it. The operation does not see the record. -/
def recordedStep (recorded : Recorded schemes) (operation : Operation) :
    Recorded schemes × Response :=
  (⟨(operate recorded.controller operation).1, basisAfter recorded operation⟩,
    (operate recorded.controller operation).2)

/-! ### Justified acceptances -/

/-- A history of operations and what they returned. -/
abbrev History := List (Operation × Response)

/-- The runs of the controller from its start. -/
def IsRun (policy : SecurityPolicy) (usbCaPub : KeysasHybridPubKeys schemes) :
    History → Recorded schemes → Prop :=
  Run recordedStep (fun _ _ _ ↦ True) (Recorded.init policy usbCaPub)

/-- A successful override was made while its node had an entry for this identity. -/
def Overridden (policy : SecurityPolicy) (usbCaPub : KeysasHybridPubKeys schemes)
    (history : History) (identity : UsbIdentity) : Prop :=
  ∃ (earlier : History) (recorded : Recorded schemes) (deviceId : String)
      (entry : UsbDevicePolicy),
    IsRun policy usbCaPub earlier recorded ∧
    earlier ++ [(.overrideBlockedUsb deviceId true, .overridden (.ok ()))] <+: history ∧
    recorded.controller.unmountedUsb.lookup (.ofText deviceId) = some entry ∧
    entry.device.identity = identity

/-- The reasons for which a device may be accepted after a history. -/
def Justified (policy : SecurityPolicy) (usbCaPub : KeysasHybridPubKeys schemes)
    (history : History) (device : UsbDevice) (signature : Option String) : Prop :=
  policy.disableUnsignedUsb ∨
    (∃ sigBlock, signature = some sigBlock ∧ SignedFor usbCaPub device sigBlock) ∨
    Overridden policy usbCaPub history device.identity

/-- Every acceptance of a history is justified by what happened before it. -/
def Sound (policy : SecurityPolicy) (usbCaPub : KeysasHybridPubKeys schemes) (history : History) :
    Prop :=
  ∀ front device signature back,
    history = front ++ (.authorizeUsb device signature, .authorized (.ok true)) :: back →
      Justified policy usbCaPub front device signature

theorem Overridden.append {policy : SecurityPolicy} {usbCaPub : KeysasHybridPubKeys schemes}
    {history : History} {identity : UsbIdentity}
    (hoverridden : Overridden policy usbCaPub history identity) (more : History) :
    Overridden policy usbCaPub (history ++ more) identity := by
  obtain ⟨earlier, recorded, deviceId, entry, hrun, hearlier, hlookup, hidentity⟩ := hoverridden
  exact ⟨earlier, recorded, deviceId, entry, hrun, hearlier.trans (List.prefix_append history more),
    hlookup, hidentity⟩

/-! ### The condition on calls -/

/-- A call of `authorize_usb` that the policy and its own signature do not justify meets no entry
that allows, other than one made for its identity by a successful override. -/
def meetsOwnGrant (recorded : Recorded schemes) : Operation → Bool
  | .authorizeUsb device signature =>
    recorded.controller.policy.disableUnsignedUsb ||
      signatureVerifies recorded.controller.usbCaPub device signature ||
      (recorded.controller.unmountedUsb.lookup device.deviceId).all fun entry ↦
        !entry.auth.isAllowing ||
          (decide (entry.device.identity = device.identity) &&
            decide (recorded.basis device.deviceId = .override))
  | _ => true

/-- A call that misses the condition is accepted although neither the policy nor its signature
justifies it. -/
theorem authorizeUsb_of_not_meetsOwnGrant {recorded : Recorded schemes} {device : UsbDevice}
    {signature : Option String}
    (hmisses : meetsOwnGrant recorded (.authorizeUsb device signature) = false) :
    ((authorizeUsb device signature).run recorded.controller).value = .ok true ∧
      recorded.controller.policy.disableUnsignedUsb = false ∧
      signatureVerifies recorded.controller.usbCaPub device signature = false := by
  cases hlookup : recorded.controller.unmountedUsb.lookup device.deviceId with
  | none => simp [meetsOwnGrant, hlookup] at hmisses
  | some existing =>
    simp only [meetsOwnGrant, hlookup, Option.all_some, Bool.or_eq_false_iff,
      Bool.not_eq_false'] at hmisses
    obtain ⟨⟨hdisable, hverifies⟩, hallowing, -⟩ := hmisses
    rw [authorizeUsb_of_allowing recorded.controller hlookup hallowing]
    exact ⟨rfl, hdisable, hverifies⟩

/-! ### The invariant -/

/-- What holds in every state: the policy and the keys are those of the start, and an entry that
allows because of an override has one for its identity. -/
structure GrantInvariant (policy : SecurityPolicy) (usbCaPub : KeysasHybridPubKeys schemes)
    (history : History) (recorded : Recorded schemes) : Prop where
  policy_eq : recorded.controller.policy = policy
  usbCaPub_eq : recorded.controller.usbCaPub = usbCaPub
  overridden : AllEntries (fun key entry ↦ entry.auth.isAllowing → recorded.basis key = .override →
    Overridden policy usbCaPub history entry.device.identity) recorded.controller.unmountedUsb

theorem GrantInvariant.init (policy : SecurityPolicy) (usbCaPub : KeysasHybridPubKeys schemes) :
    GrantInvariant policy usbCaPub [] (Recorded.init policy usbCaPub) :=
  ⟨rfl, rfl, allEntries_empty _⟩

section Step

variable {policy : SecurityPolicy} {usbCaPub : KeysasHybridPubKeys schemes} {history : History}
  {recorded : Recorded schemes}

/-- The invariant survives what does not touch the unmounted devices and the record. -/
theorem GrantInvariant.keep (hinvariant : GrantInvariant policy usbCaPub history recorded)
    (more : History) (mounted : UsbTable) :
    GrantInvariant policy usbCaPub (history ++ more)
      ⟨{ recorded.controller with mountedUsb := mounted }, recorded.basis⟩ :=
  ⟨hinvariant.policy_eq, hinvariant.usbCaPub_eq,
    hinvariant.overridden.mono fun _ _ hentry hallowing hbasis ↦
      (hentry hallowing hbasis).append more⟩

/-- The invariant survives an assignment to one node. Assumes: the record changes at most at that
node, and an entry assigned to it that allows because of an override has one for its identity. -/
theorem GrantInvariant.assign (hinvariant : GrantInvariant policy usbCaPub history recorded)
    (more : History) {unmounted : UsbTable} (mounted : UsbTable) {key : OsString}
    {assigned : Option UsbDevicePolicy} {basis : OsString → Basis}
    (hassigns : Assigns recorded.controller.unmountedUsb unmounted key assigned)
    (hbasis : ∀ other, other ≠ key → basis other = recorded.basis other)
    (hassigned : ∀ entry, assigned = some entry → entry.auth.isAllowing → basis key = .override →
      Overridden policy usbCaPub (history ++ more) entry.device.identity) :
    GrantInvariant policy usbCaPub (history ++ more)
      ⟨{ recorded.controller with unmountedUsb := unmounted, mountedUsb := mounted }, basis⟩ := by
  refine ⟨hinvariant.policy_eq, hinvariant.usbCaPub_eq, ?_⟩
  refine hinvariant.overridden.assign hassigns hassigned fun other entry hother hentry ↦ ?_
  intro hallowing hoverride
  exact (hentry hallowing ((hbasis other hother).symm.trans hoverride)).append more

theorem GrantInvariant.authorizeUsb (hinvariant : GrantInvariant policy usbCaPub history recorded)
    (more : History) (device : UsbDevice) (signature : Option String) :
    GrantInvariant policy usbCaPub (history ++ more)
      (recordedStep recorded (.authorizeUsb device signature)).1 := by
  have hsame : ∀ existing value,
      recorded.controller.unmountedUsb.lookup device.deviceId = some existing →
      existing.auth ≠ .block →
      (Firewall.authorizeUsb device signature).run recorded.controller =
        ⟨[], recorded.controller, value⟩ →
      GrantInvariant policy usbCaPub (history ++ more)
        (recordedStep recorded (.authorizeUsb device signature)).1 := by
    intro existing value hlookup hblock hending
    have hevaluates : evaluates recorded.controller device = false := by
      simp [evaluates, hlookup, hblock]
    simp only [recordedStep, operate, basisAfter, hending, hevaluates, Bool.false_eq_true, if_false]
    exact hinvariant.keep more recorded.controller.mountedUsb
  rcases authorizeUsb_cases recorded.controller device signature with
    ⟨existing, hlookup, hpending, hending⟩ | ⟨existing, hlookup, hallowing, hending⟩ |
    ⟨hblocked, table, hassigns, hstate, -⟩
  · exact hsame existing _ hlookup (by simp [hpending]) hending
  · refine hsame existing _ hlookup ?_ hending
    intro hblock
    simp [hblock, UsbAuthorization.isAllowing] at hallowing
  · have hevaluates : evaluates recorded.controller device = true := by
      cases hlookup : recorded.controller.unmountedUsb.lookup device.deviceId with
      | none => simp [evaluates, hlookup]
      | some existing => simp [evaluates, hlookup, hblocked existing hlookup]
    simp only [recordedStep, operate, basisAfter, hstate, hevaluates, if_true]
    refine hinvariant.assign more recorded.controller.mountedUsb hassigns ?_ ?_
    · intro other hother
      exact Function.update_of_ne hother _ _
    · intro entry _ _ hoverride
      simp at hoverride

theorem GrantInvariant.overrideBlockedUsb (hrun : IsRun policy usbCaPub history recorded)
    (hinvariant : GrantInvariant policy usbCaPub history recorded) (deviceId : String)
    (writeSucceeds : Bool) :
    GrantInvariant policy usbCaPub
      (history ++ [(.overrideBlockedUsb deviceId writeSucceeds,
        (recordedStep recorded (.overrideBlockedUsb deviceId writeSucceeds)).2)])
      (recordedStep recorded (.overrideBlockedUsb deviceId writeSucceeds)).1 := by
  by_cases hreaches : reachesWrite recorded.controller deviceId
  · obtain ⟨entry, table, hlookup, -, hassigns, hstate, hvalue⟩ :=
      overrideBlockedUsb_of_reachesWrite recorded.controller hreaches writeSucceeds
    simp only [recordedStep, operate, basisAfter, hstate, hvalue, hreaches, if_true]
    refine hinvariant.assign _ recorded.controller.mountedUsb hassigns ?_ ?_
    · intro other hother
      exact Function.update_of_ne hother _ _
    · intro assigned hassigned _ hoverride
      obtain rfl := Option.some.inj hassigned
      have hsucceeds : writeSucceeds = true := by
        by_contra hfails
        simp [hfails] at hoverride
      subst hsucceeds
      exact ⟨history, recorded, deviceId, entry, hrun, List.prefix_rfl, hlookup, rfl⟩
  · have hunreached : reachesWrite recorded.controller deviceId = false := by simpa using hreaches
    obtain ⟨error, hending⟩ :=
      overrideBlockedUsb_of_not_reachesWrite recorded.controller hunreached writeSucceeds
    simp only [recordedStep, operate, basisAfter, hending, hunreached, Bool.false_eq_true, if_false]
    exact hinvariant.keep _ recorded.controller.mountedUsb

theorem GrantInvariant.updateUsb (hinvariant : GrantInvariant policy usbCaPub history recorded)
    (more : History) (device : UsbDevice) :
    GrantInvariant policy usbCaPub (history ++ more)
      (recordedStep recorded (.updateUsb device)).1 := by
  rcases updateUsb_cases recorded.controller device with
    ⟨-, hending⟩ | ⟨entry, unmounted, mounted, -, hunmounted, -, hstate, -⟩
  · simp only [recordedStep, operate, basisAfter, hending]
    exact hinvariant.keep more recorded.controller.mountedUsb
  · simp only [recordedStep, operate, basisAfter, hstate]
    exact hinvariant.assign more mounted hunmounted (fun _ _ ↦ rfl) (by simp)

theorem GrantInvariant.removeUsb (hinvariant : GrantInvariant policy usbCaPub history recorded)
    (more : History) (deviceId : OsString) :
    GrantInvariant policy usbCaPub (history ++ more)
      (recordedStep recorded (.removeUsb deviceId)).1 := by
  rcases removeUsb_cases recorded.controller deviceId with
    ⟨mounted, -, hstate⟩ | ⟨-, unmounted, hunmounted, hstate⟩ | ⟨-, hstate⟩
  · simp only [recordedStep, operate, basisAfter, hstate]
    exact hinvariant.keep more mounted
  · simp only [recordedStep, operate, basisAfter, hstate]
    exact hinvariant.assign more recorded.controller.mountedUsb hunmounted (fun _ _ ↦ rfl) (by simp)
  · simp only [recordedStep, operate, basisAfter, hstate]
    exact hinvariant.keep more recorded.controller.mountedUsb

theorem GrantInvariant.forceRemoveUsb (hinvariant : GrantInvariant policy usbCaPub history recorded)
    (more : History) (deviceId : OsString) :
    GrantInvariant policy usbCaPub (history ++ more)
      (recordedStep recorded (.forceRemoveUsb deviceId)).1 :=
  hinvariant.assign more recorded.controller.mountedUsb (assigns_erase _ deviceId)
    (fun _ _ ↦ rfl) (by simp)

/-- One operation keeps the invariant. -/
theorem GrantInvariant.step (hrun : IsRun policy usbCaPub history recorded)
    (hinvariant : GrantInvariant policy usbCaPub history recorded) (operation : Operation) :
    GrantInvariant policy usbCaPub (history ++ [(operation, (recordedStep recorded operation).2)])
      (recordedStep recorded operation).1 := by
  cases operation with
  | authorizeUsb device signature => exact hinvariant.authorizeUsb _ device signature
  | overrideBlockedUsb deviceId writeSucceeds =>
    exact hinvariant.overrideBlockedUsb hrun deviceId writeSucceeds
  | updateUsb device => exact hinvariant.updateUsb _ device
  | removeUsb deviceId => exact hinvariant.removeUsb _ deviceId
  | forceRemoveUsb deviceId => exact hinvariant.forceRemoveUsb _ deviceId

end Step

/-- In every run of the controller the invariant holds. -/
theorem IsRun.grantInvariant {policy : SecurityPolicy} {usbCaPub : KeysasHybridPubKeys schemes}
    {history : History} {recorded : Recorded schemes}
    (hrun : IsRun policy usbCaPub history recorded) :
    GrantInvariant policy usbCaPub history recorded :=
  hrun.invariant (.init policy usbCaPub) fun _ _ operation hbefore hinvariant _ ↦
    hinvariant.step hbefore operation

/-! ### Soundness -/

/-- An acceptance whose call meets the condition is justified. -/
theorem justified_of_meetsOwnGrant {policy : SecurityPolicy}
    {usbCaPub : KeysasHybridPubKeys schemes} {history : History} {recorded : Recorded schemes}
    (hinvariant : GrantInvariant policy usbCaPub history recorded) {device : UsbDevice}
    {signature : Option String}
    (hmeets : meetsOwnGrant recorded (.authorizeUsb device signature))
    (haccepted : ((authorizeUsb device signature).run recorded.controller).value = .ok true) :
    Justified policy usbCaPub history device signature := by
  rw [Justified, ← hinvariant.policy_eq, ← hinvariant.usbCaPub_eq]
  by_cases hdisable : recorded.controller.policy.disableUnsignedUsb
  · exact .inl hdisable
  rcases authorizeUsb_cases recorded.controller device signature with
    ⟨-, -, -, hending⟩ | ⟨existing, hlookup, hallowing, -⟩ | ⟨-, -, -, -, hvalue⟩
  · simp [hending] at haccepted
  · by_cases hverifies : signatureVerifies recorded.controller.usbCaPub device signature
    · exact .inr (.inl (signatureVerifies_iff.mp hverifies))
    · obtain ⟨hidentity, hbasis⟩ : existing.device.identity = device.identity ∧
          recorded.basis device.deviceId = .override := by
        simpa [meetsOwnGrant, hdisable, hverifies, hlookup, hallowing] using hmeets
      have hoverridden := hinvariant.overridden _ existing hlookup hallowing hbasis
      rw [hidentity, ← hinvariant.policy_eq, ← hinvariant.usbCaPub_eq] at hoverridden
      exact .inr (.inr hoverridden)
  · rw [hvalue] at haccepted
    rcases evaluateUsb_accepts haccepted with hpolicy | hverifies
    · exact absurd hpolicy hdisable
    · exact .inr (.inl (signatureVerifies_iff.mp hverifies))

/-- In a run whose calls of `authorize_usb` meet only entries of their own, every acceptance is
justified: by the policy, by a signature that verifies, or by an earlier successful override for
the same identity. Assumes: a call that neither the policy nor its own signature justifies meets no
entry that allows, other than one made for its identity by a successful override. -/
theorem sound_of_run (policy : SecurityPolicy) (usbCaPub : KeysasHybridPubKeys schemes)
    {history : History} {recorded : Recorded schemes}
    (hrun : Run recordedStep (fun _ recorded operation ↦ meetsOwnGrant recorded operation = true)
      (Recorded.init policy usbCaPub) history recorded) :
    Sound policy usbCaPub history := by
  intro front device signature back hhistory
  obtain ⟨reached, hreached, hmeets, hresponse⟩ := hrun.split hhistory
  have hbefore : IsRun policy usbCaPub front reached :=
    hreached.weaken fun _ _ _ _ ↦ trivial
  have haccepted : ((authorizeUsb device signature).run reached.controller).value = .ok true := by
    simpa [recordedStep, operate] using hresponse.symm
  exact justified_of_meetsOwnGrant hbefore.grantInvariant hmeets haccepted

/-- A policy that lets the user unblock devices. -/
def overridePolicy : SecurityPolicy :=
  ⟨false, true, false, false⟩

/-- An unsigned device at `/dev/sdb1`. -/
def unsignedDevice : UsbDevice where
  deviceId := .ofText "/dev/sdb1"
  mntPoint := none
  vendor := .ofText "0781"
  model := .ofText "5581"
  revision := .ofText "0100"
  serial := .ofText "4C53"
  usbSyspath := some (.ofText "/sys/devices/usb1/1-1")

/-- The run in which the user unblocks the device and it is plugged in again. -/
theorem sound_of_run_override :
    Sound overridePolicy (transparentPubKeys 0)
      (execute recordedStep (Recorded.init overridePolicy (transparentPubKeys 0))
        [.authorizeUsb unsignedDevice none, .overrideBlockedUsb "/dev/sdb1" true,
          .authorizeUsb unsignedDevice none]).1 :=
  sound_of_run _ _ (run_execute _ (by decide))

/-- Not every run is sound: an override whose sysfs write fails returns an error, and yet the device
is accepted when it is plugged in again. -/
theorem not_forall_run_sound :
    ¬ ∀ (schemes : Schemes) (policy : SecurityPolicy) (usbCaPub : KeysasHybridPubKeys schemes)
      (history : History) (recorded : Recorded schemes),
      IsRun policy usbCaPub history recorded → Sound policy usbCaPub history := by
  intro hsound
  let usbCaPub := transparentPubKeys 0
  let before : List Operation :=
    [.authorizeUsb unsignedDevice none, .overrideBlockedUsb "/dev/sdb1" false]
  let start := Recorded.init overridePolicy usbCaPub
  let front := (execute recordedStep start before).1
  have hrun : IsRun overridePolicy usbCaPub
      (execute recordedStep start (before ++ [.authorizeUsb unsignedDevice none])).1
      (execute recordedStep start (before ++ [.authorizeUsb unsignedDevice none])).2 :=
    run_execute _ ⟨trivial, trivial, trivial, trivial⟩
  have hjustified : Justified overridePolicy usbCaPub front unsignedDevice none :=
    hsound _ _ _ _ _ hrun front unsignedDevice none [] rfl
  rcases hjustified with hdisable | ⟨sigBlock, hsignature, -⟩ |
    ⟨earlier, recorded, deviceId, entry, -, hearlier, -⟩
  · exact Bool.noConfusion hdisable
  · cases hsignature
  · have hmem : Operation.overrideBlockedUsb deviceId true ∈ front.map Prod.fst :=
      List.mem_map_of_mem (hearlier.subset (List.mem_append_right _ List.mem_cons_self))
    rw [map_fst_execute] at hmem
    simp [before] at hmem

end Keysas.Firewall
