import Keysas.Minifilter.PortNotify

/-!
# Attaching to USB volumes

`KfInstanceSetup` is called for a new instance of the minifilter on a volume. When the adapter of
the volume is a USB one, it asks the daemon for an authorization and attaches. A volume should stay
filtered from then on, and should allow something only when this is the last that the daemon has
said about it: a volume about which the daemon has not said anything is blocked.

`Obeys` states this of the minifilter together with a record of what the daemon has said.
`obeys_watchStep_iff` gives the exact condition under which one step keeps it: for an attachment,
that the daemon is connected and every call on the way to its reply succeeds. Without a daemon the
authorization stays at the one that allows everything, and a call that fails makes
`KfInstanceSetup` leave the volume without a filter. `obeys_prefixes_iff` is about whole runs.
-/

set_option autoImplicit false
set_option relaxedAutoImplicit false

namespace Keysas.Minifilter

open Crypto Firewall Runs Store

/-! ### Attaching -/

/-- An `NTSTATUS`. -/
abbrev NtStatus := UInt32

def statusSuccess : NtStatus := 0

/-- `NT_SUCCESS`, which a status that only informs satisfies, too. -/
def ntSuccess (status : NtStatus) : Bool := status < 0x80000000

/-- What the calls of `KfInstanceSetup` return. -/
structure SetupCalls where
  openVolume : Bool
  allocateHeader : Bool
  queryHeader : Bool
  /-- The field `Size` of the header of the descriptor. -/
  headerSize : UInt32
  allocateDescriptor : Bool
  queryDescriptor : Bool
  /-- The field `BusType` of the descriptor. -/
  busType : UInt32
  findInstanceContext : Bool
  getVolumeName : Bool
  allocateRequest : Bool
  sendMessage : NtStatus

/-- `sizeof(STORAGE_DESCRIPTOR_HEADER)`. -/
def descriptorHeaderSize : UInt32 := 8

def busTypeUsb : UInt32 := 7

/-- A call of `KfInstanceSetup` for a volume, and the daemon at that time. -/
structure Setup (ν : Type) where
  volume : ν
  daemon : Daemon
  calls : SetupCalls

/-- `KfInstanceSetup` comes to the look at the adapter, and finds a USB one. -/
def SetupCalls.identifiesUsb (calls : SetupCalls) : Bool :=
  calls.openVolume && calls.allocateHeader && calls.queryHeader &&
    descriptorHeaderSize ≤ calls.headerSize && calls.allocateDescriptor &&
    calls.queryDescriptor && calls.busType = busTypeUsb

section Setup

variable {ν φ : Type} [DecidableEq ν]

/-- Write the authorization of an instance. -/
def FilterState.setInstance (state : FilterState ν φ) (volume : ν) (auth : KeysasAuthorization) :
    FilterState ν φ :=
  { state with instances := state.instances.insert volume auth }

/-- The instance of a volume goes, with its context. -/
def FilterState.dropInstance (state : FilterState ν φ) (volume : ν) : FilterState ν φ :=
  { state with instances := state.instances.erase volume }

/-- The request of `KeysasScanInstanceInUserMode`. -/
def volumeRequest (name : List UInt16) : DriverRequest :=
  ⟨KeysasFilterOperation.scanUsb.code, name⟩

/-- `KeysasScanInstanceInUserMode`, which returns an error status early. -/
def keysasScanInstanceInUserMode (setup : Setup ν) (name : List UInt16) :
    Program Message (FilterState ν φ) Unit Unit := do
  Program.modify fun state ↦ state.setInstance setup.volume .allowAll
  let state ← Program.get
  if state.clientPort then
    Program.require setup.calls.allocateRequest ()
    Program.require (2 * name.length + 2 ≤ 2 * keysasRequestBufferSize) ()
    Program.emit (.sent (volumeRequest name))
    if setup.calls.sendMessage = statusSuccess then
      let reply := setup.daemon.answer (volumeRequest name)
      Program.emit (.replied reply)
      Program.modify fun state ↦ state.setInstance setup.volume (.ofU8 reply)
    else Program.require (ntSuccess setup.calls.sendMessage) ()
  else return ()

/-- The buffer of `KfInstanceSetup` for the name of a volume, in units of 16 bits, without the zero
unit at its end. -/
def volumeNameSize : ℕ := 511

/-- `KfInstanceSetup` for an adapter that it has identified as a USB one. -/
def attachUsb (names : VolumeNames ν) (setup : Setup ν) :
    Program Message (FilterState ν φ) Unit Unit := do
  findInstanceContext setup.calls.findInstanceContext setup.volume
  Program.require
    (setup.calls.getVolumeName && (names.name setup.volume).length ≤ volumeNameSize) ()
  keysasScanInstanceInUserMode setup (names.name setup.volume)

/-- `KfInstanceSetup`. It attaches unless it returns early. When a buffer cannot be allocated or the
header is too short, the status is still that of the call before. -/
def kfInstanceSetup (names : VolumeNames ν) (setup : Setup ν) :
    Program Message (FilterState ν φ) Unit Unit := do
  Program.require setup.calls.openVolume ()
  if setup.calls.allocateHeader then
    Program.require setup.calls.queryHeader ()
    if descriptorHeaderSize ≤ setup.calls.headerSize then
      if setup.calls.allocateDescriptor then
        Program.require setup.calls.queryDescriptor ()
        if setup.calls.busType = busTypeUsb then attachUsb names setup
        else Program.require false ()
      else return ()
    else return ()
  else return ()

/-- A new instance has no context, and one that is not attached to the volume has none left. -/
def setupInstance (names : VolumeNames ν) (state : FilterState ν φ) (setup : Setup ν) :
    FilterState ν φ × List Message :=
  let ending := (kfInstanceSetup names setup).run (state.dropInstance setup.volume)
  match ending.value with
  | .ok () => (ending.state, ending.trace)
  | .error () => (ending.state.dropInstance setup.volume, ending.trace)

/-! ### What is attached -/

/-- What the scan of an instance sends and receives, and the authorization that it leaves, unless it
fails. -/
def scanInstanceResult (clientPort : Bool) (setup : Setup ν) (name : List UInt16) :
    List Message × Option KeysasAuthorization :=
  let request := volumeRequest name
  let reply := setup.daemon.answer request
  if clientPort then
    if setup.calls.allocateRequest then
      if setup.calls.sendMessage = statusSuccess then
        ([.sent request, .replied reply], some (.ofU8 reply))
      else if ntSuccess setup.calls.sendMessage then ([.sent request], some .allowAll)
      else ([.sent request], none)
    else ([], none)
  else ([], some .allowAll)

/-- The messages of an attachment to a USB volume, and the authorization, unless the volume is left
without a filter. -/
def attachResult (names : VolumeNames ν) (state : FilterState ν φ) (setup : Setup ν) :
    List Message × Option KeysasAuthorization :=
  if setup.calls.findInstanceContext && setup.calls.getVolumeName &&
      (names.name setup.volume).length ≤ volumeNameSize then
    scanInstanceResult state.clientPort setup (names.name setup.volume)
  else ([], none)

/-- Between two states only the instance of one volume changes: its context has the authorization,
or there is none. -/
structure Touches (volume : ν) (entry : Option KeysasAuthorization)
    (before after : FilterState ν φ) : Prop where
  instances : Assigns before.instances after.instances volume entry
  clientPort : after.clientPort = before.clientPort
  fileCtxList : after.fileCtxList = before.fileCtxList

section Touches

variable {state middle after : FilterState ν φ} {volume : ν}

theorem touches_setInstance (state : FilterState ν φ) (volume : ν) (auth : KeysasAuthorization) :
    Touches volume (some auth) state (state.setInstance volume auth) :=
  ⟨assigns_insert _ _ _, rfl, rfl⟩

theorem touches_dropInstance (state : FilterState ν φ) (volume : ν) :
    Touches volume none state (state.dropInstance volume) :=
  ⟨assigns_erase _ _, rfl, rfl⟩

theorem touches_refl (state : FilterState ν φ) (volume : ν) :
    Touches volume (state.instances.lookup volume) state state := by
  refine ⟨fun other ↦ ?_, rfl, rfl⟩
  split_ifs with hother
  · rw [hother]
  · rfl

/-- Of two changes of one instance the second counts. -/
theorem Touches.trans {first second : Option KeysasAuthorization}
    (hfirst : Touches volume first state middle) (hsecond : Touches volume second middle after) :
    Touches volume second state after :=
  ⟨hfirst.instances.trans hsecond.instances, hsecond.clientPort.trans hfirst.clientPort,
    hsecond.fileCtxList.trans hfirst.fileCtxList⟩

end Touches

/-- The scan leaves its result, and the authorization that allows everything when it fails. -/
theorem exists_run_keysasScanInstanceInUserMode (setup : Setup ν) {name : List UInt16}
    (hname : name.length ≤ volumeNameSize) (state : FilterState ν φ) :
    ∃ after, (keysasScanInstanceInUserMode setup name).run state =
        ⟨(scanInstanceResult state.clientPort setup name).1, after,
          if (scanInstanceResult state.clientPort setup name).2.isSome then .ok ()
          else .error ()⟩ ∧
      Touches setup.volume
        (some ((scanInstanceResult state.clientPort setup name).2.getD .allowAll)) state after := by
  have hcopies : (2 * name.length + 2 ≤ 2 * keysasRequestBufferSize) = True := by
    rw [volumeNameSize] at hname
    simp only [keysasRequestBufferSize, eq_iff_iff, iff_true]
    omega
  have hdefault := touches_setInstance state setup.volume .allowAll
  have hport : (state.setInstance setup.volume .allowAll).clientPort = state.clientPort := rfl
  rw [keysasScanInstanceInUserMode, scanInstanceResult]
  simp only [Program.run_modify_bind, Program.run_get_bind, Program.run_ite, hport]
  by_cases hconnected : state.clientPort
  · simp only [hconnected, if_true, Program.run_require_bind, hcopies, decide_true]
    by_cases hallocated : setup.calls.allocateRequest
    · simp only [hallocated, if_true, Program.run_emit_bind, Program.run_ite]
      by_cases hreplied : setup.calls.sendMessage = statusSuccess
      · simp only [hreplied, if_true]
        exact ⟨_, rfl, hdefault.trans (touches_setInstance _ _ _)⟩
      · simp only [hreplied, if_false]
        by_cases hinforms : ntSuccess setup.calls.sendMessage
        · simp only [hinforms, if_true]
          exact ⟨_, rfl, hdefault⟩
        · simp only [hinforms, Bool.false_eq_true, if_false]
          exact ⟨_, rfl, hdefault⟩
    · simp only [hallocated, Bool.false_eq_true, if_false]
      exact ⟨_, rfl, hdefault⟩
  · simp only [hconnected, Bool.false_eq_true, if_false]
    exact ⟨_, rfl, hdefault⟩

theorem run_findInstanceContext (succeeds : Bool) (volume : ν) (state : FilterState ν φ) :
    (findInstanceContext succeeds volume).run state =
      if succeeds then ⟨[], state.withInstance volume, .ok ()⟩ else ⟨[], state, .error ()⟩ := by
  rw [findInstanceContext, Program.run_require_bind]
  rfl

theorem exists_touches_withInstance (state : FilterState ν φ) (volume : ν) :
    ∃ entry, Touches volume entry state (state.withInstance volume) := by
  rw [FilterState.withInstance]
  split_ifs
  · exact ⟨_, touches_setInstance state volume .unknown⟩
  · exact ⟨_, touches_refl state volume⟩

/-- An attachment to a USB volume leaves its result, unless it fails. -/
theorem exists_run_attachUsb (names : VolumeNames ν) (setup : Setup ν) (state : FilterState ν φ) :
    ∃ after entry, (attachUsb names setup).run state =
        ⟨(attachResult names state setup).1, after,
          if (attachResult names state setup).2.isSome then .ok () else .error ()⟩ ∧
      Touches setup.volume entry state after ∧
        ((attachResult names state setup).2.isSome →
          entry = (attachResult names state setup).2) := by
  rw [attachUsb, Program.run_bind, run_findInstanceContext, attachResult]
  by_cases hfinds : setup.calls.findInstanceContext
  · obtain ⟨entry, hfound⟩ := exists_touches_withInstance state setup.volume
    simp only [hfinds, if_true, Bool.true_and, Program.run_require_bind]
    by_cases hnamed : setup.calls.getVolumeName &&
        (names.name setup.volume).length ≤ volumeNameSize
    · have hlength : (names.name setup.volume).length ≤ volumeNameSize := by
        simpa using (Bool.and_eq_true_iff.mp hnamed).2
      obtain ⟨after, hrun, hscanned⟩ :=
        exists_run_keysasScanInstanceInUserMode setup hlength (state.withInstance setup.volume)
      rw [hfound.clientPort] at hrun hscanned
      rw [if_pos hnamed, if_pos hnamed, hrun]
      refine ⟨after, _, rfl, hfound.trans hscanned, fun hsome ↦ ?_⟩
      obtain ⟨auth, hauth⟩ := Option.isSome_iff_exists.mp hsome
      rw [hauth]
      rfl
    · rw [if_neg hnamed, if_neg hnamed]
      exact ⟨_, entry, rfl, hfound, nofun⟩
  · simp only [hfinds, Bool.false_eq_true, if_false, Bool.false_and]
    exact ⟨_, _, rfl, touches_refl state setup.volume, nofun⟩

/-- For a USB adapter the call is an attachment. -/
theorem run_kfInstanceSetup_of_identifiesUsb (names : VolumeNames ν) (state : FilterState ν φ)
    {setup : Setup ν} (husb : setup.calls.identifiesUsb) :
    (kfInstanceSetup names setup).run state = (attachUsb names setup).run state := by
  simp only [SetupCalls.identifiesUsb, Bool.and_eq_true, decide_eq_true_eq] at husb
  obtain ⟨⟨⟨⟨⟨⟨hopen, hheader⟩, hquery⟩, hsize⟩, hdescriptor⟩, hread⟩, hbus⟩ := husb
  rw [kfInstanceSetup]
  simp only [hopen, hheader, hquery, hsize, hdescriptor, hread, hbus, if_true,
    Program.run_require_bind]

/-- For a USB adapter the instance of the volume gets the authorization of the attachment, or the
volume is left without one. -/
theorem setupInstance_of_identifiesUsb (names : VolumeNames ν) (state : FilterState ν φ)
    {setup : Setup ν} (husb : setup.calls.identifiesUsb) :
    Touches setup.volume (attachResult names state setup).2 state
        (setupInstance names state setup).1 ∧
      (setupInstance names state setup).2 = (attachResult names state setup).1 := by
  have hdropped := touches_dropInstance state setup.volume
  obtain ⟨after, entry, hrun, htouches, hentry⟩ :=
    exists_run_attachUsb names setup (state.dropInstance setup.volume)
  have hresult : attachResult names (state.dropInstance setup.volume) setup =
      attachResult names state setup := rfl
  rw [hresult] at hrun hentry
  rw [setupInstance, run_kfInstanceSetup_of_identifiesUsb names _ husb, hrun]
  rcases hauth : (attachResult names state setup).2 with _ | auth
  · exact ⟨(hdropped.trans htouches).trans (touches_dropInstance _ _), rfl⟩
  · rw [hauth] at hentry
    obtain rfl := hentry rfl
    exact ⟨hdropped.trans htouches, rfl⟩

/-- For another adapter, or when none is found, the call changes nothing. -/
theorem exists_run_kfInstanceSetup (names : VolumeNames ν) (state : FilterState ν φ)
    {setup : Setup ν} (hother : ¬setup.calls.identifiesUsb) :
    ∃ value, (kfInstanceSetup names setup).run state = ⟨[], state, value⟩ := by
  rw [kfInstanceSetup]
  simp only [Program.run_require_bind, Program.run_ite]
  split_ifs with hopen hheader hquery hsize hdescriptor hread hbus
  · refine absurd ?_ hother
    simp [SetupCalls.identifiesUsb, hopen, hheader, hquery, hsize, hdescriptor, hread, hbus]
  all_goals exact ⟨_, rfl⟩

/-- For any adapter only the instance of the volume changes. -/
theorem exists_touches_setupInstance (names : VolumeNames ν) (state : FilterState ν φ)
    (setup : Setup ν) :
    ∃ entry, Touches setup.volume entry state (setupInstance names state setup).1 := by
  by_cases husb : setup.calls.identifiesUsb
  · exact ⟨_, (setupInstance_of_identifiesUsb names state husb).1⟩
  · have hdropped := touches_dropInstance state setup.volume
    obtain ⟨value, hrun⟩ :=
      exists_run_kfInstanceSetup names (state.dropInstance setup.volume) husb
    rw [setupInstance, hrun]
    rcases value with error | result
    · exact ⟨_, hdropped.trans (touches_dropInstance _ _)⟩
    · exact ⟨_, hdropped⟩

/-! ### What the daemon has said -/

/-- The minifilter, and for each volume with a USB adapter what the daemon has said last: nothing
after an attachment without a reply. -/
structure Watch (ν φ : Type) where
  filter : FilterState ν φ
  words : Table ν (Option KeysasAuthorization)

def Watch.init : Watch ν φ := ⟨.init, ∅⟩

/-- What happens to the volumes. -/
inductive VolumeEvent (ν : Type) where
  | portConnect
  | portDisconnect
  | instanceSetup (setup : Setup ν)
  /-- `update_usb_auth`, with the buffer that `QueryDosDeviceW` fills. -/
  | updateUsbAuth (buffer : List UInt16) (auth : UsbAuthorization) (calls : NotifyCalls ν)

/-- The daemon says something about all volumes with a name. -/
def sayToNamed (names : VolumeNames ν) (name : List UInt16) (said : KeysasAuthorization)
    (words : Table ν (Option KeysasAuthorization)) : Table ν (Option KeysasAuthorization) :=
  words.keys.foldl
    (fun updated volume ↦
      if names.isNamed volume name then updated.insert volume (some said) else updated)
    words

/-- One step, with the messages of an attachment. -/
def watchStep (names : VolumeNames ν) (watch : Watch ν φ) :
    VolumeEvent ν → Watch ν φ × List Message
  | .portConnect => ({ watch with filter := { watch.filter with clientPort := true } }, [])
  | .portDisconnect => ({ watch with filter := { watch.filter with clientPort := false } }, [])
  | .instanceSetup setup =>
    let result := setupInstance names watch.filter setup
    let words :=
      if setup.calls.identifiesUsb then watch.words.insert setup.volume (repliedAuth result.2)
      else watch.words.erase setup.volume
    (⟨result.1, words⟩, result.2)
  | .updateUsbAuth buffer auth calls =>
    match updateUsbAuth buffer auth with
    | none => (watch, [])
    | some message =>
      match keysasPortNotify names calls message watch.filter with
      | none => (watch, [])
      | some (_, after) =>
        (⟨after, sayToNamed names (buffer.takeWhile (· ≠ 0)) (.ofU8 auth.toKernelU8) watch.words⟩,
          [])

/-- The authorization of a volume is what the daemon has said last, unless it does not allow
anything. When the daemon has said nothing the volume is blocked. -/
def Permits (word : Option KeysasAuthorization) (auth : KeysasAuthorization) : Prop :=
  match word with
  | none => auth = .block
  | some said => auth.isAllowing → auth = said

instance (word : Option KeysasAuthorization) (auth : KeysasAuthorization) :
    Decidable (Permits word auth) :=
  match word with
  | none => inferInstanceAs (Decidable (auth = .block))
  | some said => inferInstanceAs (Decidable (auth.isAllowing → auth = said))

/-- Every volume with a USB adapter is filtered, with an authorization that is permitted. -/
def Obeys (watch : Watch ν φ) : Prop :=
  ∀ volume word, watch.words.lookup volume = some word →
    ∃ auth, watch.filter.instances.lookup volume = some auth ∧ Permits word auth

/-! ### The condition of a step -/

/-- An attachment to a USB volume gets the reply of the daemon. -/
def GetsReply (names : VolumeNames ν) (state : FilterState ν φ) (setup : Setup ν) : Prop :=
  setup.calls.findInstanceContext ∧ setup.calls.getVolumeName ∧
    (names.name setup.volume).length ≤ volumeNameSize ∧ state.clientPort ∧
    setup.calls.allocateRequest ∧ setup.calls.sendMessage = statusSuccess

/-- An attachment to a USB volume gets a reply, and an update reaches the volumes that it names,
apart from those whose authorization it permits anyway. -/
def FailsClosed (names : VolumeNames ν) (watch : Watch ν φ) : VolumeEvent ν → Prop
  | .portConnect => True
  | .portDisconnect => True
  | .instanceSetup setup => setup.calls.identifiesUsb → GetsReply names watch.filter setup
  | .updateUsbAuth buffer auth calls =>
    (updateUsbAuth buffer auth).isSome → ∀ volume ∈ watch.words,
      names.isNamed volume (buffer.takeWhile (· ≠ 0)) → calls.reaches volume ∨
        ∀ held, watch.filter.instances.lookup volume = some held →
          Permits (some (.ofU8 auth.toKernelU8)) held

omit [DecidableEq ν] in
/-- What an attachment leaves is permitted exactly when it gets the reply of the daemon. -/
theorem permits_attachResult_iff (names : VolumeNames ν) (state : FilterState ν φ)
    (setup : Setup ν) :
    (∃ auth, (attachResult names state setup).2 = some auth ∧
      Permits (repliedAuth (attachResult names state setup).1) auth) ↔
        GetsReply names state setup := by
  have hblock : Permits none .allowAll ↔ False := iff_of_false nofun not_false
  rw [attachResult, GetsReply]
  by_cases hfound : setup.calls.findInstanceContext && setup.calls.getVolumeName &&
      (names.name setup.volume).length ≤ volumeNameSize
  · rw [if_pos hfound]
    simp only [Bool.and_eq_true, decide_eq_true_eq] at hfound
    simp only [hfound, true_and, scanInstanceResult]
    by_cases hconnected : state.clientPort
    · by_cases hallocated : setup.calls.allocateRequest
      · by_cases hreplied : setup.calls.sendMessage = statusSuccess
        · simp [hconnected, hallocated, hreplied, repliedAuth, Permits]
        · by_cases hinforms : ntSuccess setup.calls.sendMessage
          · simp [hconnected, hallocated, hreplied, hinforms, repliedAuth, hblock]
          · simp [hconnected, hallocated, hreplied, hinforms]
      · simp [hconnected, hallocated]
    · simp [hconnected, repliedAuth, hblock]
  · rw [if_neg hfound]
    refine iff_of_false nofun fun hreply ↦ hfound ?_
    simp [hreply.1, hreply.2.1, hreply.2.2.1]

theorem obeys_init : Obeys (Watch.init : Watch ν φ) := by
  intro volume word hword
  cases hword

/-- When one volume changes, all are as the daemon has said exactly when this one is. -/
theorem obeys_iff_of_touches {watch after : Watch ν φ} {volume : ν}
    {word : Option (Option KeysasAuthorization)} {entry : Option KeysasAuthorization}
    (hobeys : Obeys watch) (hwords : Assigns watch.words after.words volume word)
    (htouches : Touches volume entry watch.filter after.filter) :
    Obeys after ↔ ∀ said, word = some said → ∃ auth, entry = some auth ∧ Permits said auth := by
  constructor
  · intro hafter said hsaid
    obtain ⟨auth, hauth, hpermits⟩ := hafter volume said (hwords.lookup_self.trans hsaid)
    exact ⟨auth, htouches.instances.lookup_self.symm.trans hauth, hpermits⟩
  · intro hvolume other said hsaid
    by_cases hother : other = volume
    · subst hother
      rw [hwords.lookup_self] at hsaid
      rw [htouches.instances.lookup_self]
      exact hvolume said hsaid
    · rw [hwords.lookup_of_ne hother] at hsaid
      rw [htouches.instances.lookup_of_ne hother]
      exact hobeys other said hsaid

/-- What the daemon says about the volumes with a name. -/
theorem lookup_sayToNamed (names : VolumeNames ν) (name : List UInt16) (said : KeysasAuthorization)
    (words : Table ν (Option KeysasAuthorization)) (volume : ν) :
    (sayToNamed names name said words).lookup volume =
      if names.isNamed volume name then (words.lookup volume).map fun _ ↦ some said
      else words.lookup volume :=
  lookup_foldl_keys_insert _ (some said) words volume

/-- After an update all volumes are as the daemon has said exactly when it has reached those that it
names, apart from those that it permits to stay as they are. -/
theorem obeys_sayToNamed_iff {names : VolumeNames ν} {name : List UInt16}
    {said : KeysasAuthorization} {calls : NotifyCalls ν} {watch : Watch ν φ}
    {instances : Table ν KeysasAuthorization} (hobeys : Obeys watch)
    (hlookup : ∀ volume, instances.lookup volume =
      if calls.reaches volume && names.isNamed volume name then
        (watch.filter.instances.lookup volume).map fun _ ↦ said
      else watch.filter.instances.lookup volume) :
    Obeys (⟨{ watch.filter with instances := instances },
        sayToNamed names name said watch.words⟩ : Watch ν φ) ↔
      ∀ volume ∈ watch.words, names.isNamed volume name → calls.reaches volume ∨
        ∀ held, watch.filter.instances.lookup volume = some held → Permits (some said) held := by
  constructor
  · intro hafter volume hvolume hnamed
    by_cases hreached : calls.reaches volume
    · exact .inl hreached
    refine .inr fun held hheld ↦ ?_
    obtain ⟨word, hword⟩ := Option.isSome_iff_exists.mp (AList.lookup_isSome.mpr hvolume)
    have hsaid : (sayToNamed names name said watch.words).lookup volume = some (some said) := by
      rw [lookup_sayToNamed, if_pos hnamed, hword]
      rfl
    obtain ⟨auth, hauth, hpermits⟩ := hafter volume (some said) hsaid
    have hsame : instances.lookup volume = some held := by
      rw [hlookup, if_neg (by simp [hreached]), hheld]
    obtain rfl := Option.some.inj (hauth.symm.trans hsame)
    exact hpermits
  · intro hreaches volume word hword
    rw [lookup_sayToNamed] at hword
    simp only [hlookup]
    by_cases hnamed : names.isNamed volume name
    · rw [if_pos hnamed] at hword
      obtain ⟨before, hbefore, rfl⟩ := Option.map_eq_some_iff.mp hword
      obtain ⟨held, hheld, -⟩ := hobeys volume before hbefore
      by_cases hreached : calls.reaches volume
      · refine ⟨said, ?_, fun _ ↦ rfl⟩
        rw [if_pos (by simp [hreached, hnamed]), hheld]
        rfl
      · have hvolume : volume ∈ watch.words := by
          refine AList.lookup_isSome.mp ?_
          rw [hbefore]
          rfl
        refine ⟨held, ?_, (hreaches volume hvolume hnamed).resolve_left hreached held hheld⟩
        rw [if_neg (by simp [hreached]), hheld]
    · rw [if_neg hnamed] at hword
      rw [if_neg (by simp [hnamed])]
      exact hobeys volume word hword

/-- A step keeps the volumes as the daemon has said exactly under the condition. -/
theorem obeys_watchStep_iff (names : VolumeNames ν) {watch : Watch ν φ} (hobeys : Obeys watch)
    (event : VolumeEvent ν) :
    Obeys (watchStep names watch event).1 ↔ FailsClosed names watch event := by
  cases event with
  | portConnect => exact iff_of_true hobeys trivial
  | portDisconnect => exact iff_of_true hobeys trivial
  | instanceSetup setup =>
    by_cases husb : setup.calls.identifiesUsb
    · obtain ⟨htouches, hmessages⟩ := setupInstance_of_identifiesUsb names watch.filter husb
      have hstep : (watchStep names watch (.instanceSetup setup)).1 =
          ⟨(setupInstance names watch.filter setup).1,
            watch.words.insert setup.volume
              (repliedAuth (attachResult names watch.filter setup).1)⟩ := by
        rw [watchStep, if_pos husb, hmessages]
      rw [hstep, obeys_iff_of_touches hobeys (assigns_insert _ _ _) htouches, FailsClosed,
        ← permits_attachResult_iff]
      simp [husb]
    · obtain ⟨entry, htouches⟩ := exists_touches_setupInstance names watch.filter setup
      have hstep : (watchStep names watch (.instanceSetup setup)).1 =
          ⟨(setupInstance names watch.filter setup).1, watch.words.erase setup.volume⟩ := by
        rw [watchStep, if_neg husb]
      rw [hstep, obeys_iff_of_touches hobeys (assigns_erase _ _) htouches, FailsClosed]
      simp [husb]
  | updateUsbAuth buffer auth calls =>
    rcases hmessage : updateUsbAuth buffer auth with _ | message
    · have hstep : (watchStep names watch (.updateUsbAuth buffer auth calls)).1 = watch := by
        rw [watchStep, hmessage]
      rw [hstep, FailsClosed, hmessage]
      exact iff_of_true hobeys nofun
    · obtain ⟨success, instances, hnotify, hlookup⟩ :=
        keysasPortNotify_updateUsbAuth names calls hmessage watch.filter
      have hstep : (watchStep names watch (.updateUsbAuth buffer auth calls)).1 =
          ⟨{ watch.filter with instances := instances },
            sayToNamed names (buffer.takeWhile (· ≠ 0)) (.ofU8 auth.toKernelU8) watch.words⟩ := by
        simp only [watchStep, hmessage, hnotify]
      rw [hstep, FailsClosed, hmessage, obeys_sayToNamed_iff hobeys hlookup]
      exact ⟨fun hreaches _ ↦ hreaches, fun hreaches ↦ hreaches rfl⟩

/-- Along any events, all states are as the daemon has said exactly when every step meets the
condition. -/
theorem obeys_prefixes_iff (names : VolumeNames ν) (events : List (VolumeEvent ν)) :
    (∀ front, front <+: events →
        Obeys (execute (watchStep names) (Watch.init : Watch ν φ) front).2) ↔
      Admits (watchStep names) (fun _ watch event ↦ FailsClosed names watch event) []
        (Watch.init : Watch ν φ) events := by
  have hstep (_ : List (VolumeEvent ν × List Message)) (watch : Watch ν φ) (event : VolumeEvent ν)
      (hobeys : Obeys watch) :
      Obeys (watchStep names watch event).1 ↔ FailsClosed names watch event :=
    obeys_watchStep_iff names hobeys event
  exact forall_prefix_iff_admits hstep obeys_init

/-! ### The step of the minifilter -/

/-- An attachment that leaves an authorization is the step of the minifilter for the setup of an
instance with this authorization. -/
theorem eq_minifilterStep_of_setupInstance [DecidableEq φ] (sha256 : Sha256)
    (names : VolumeNames ν) (state : FilterState ν φ) {setup : Setup ν} {auth : KeysasAuthorization}
    (husb : setup.calls.identifiesUsb)
    (hauth : (attachResult names state setup).2 = some auth) (volume : ν) :
    (setupInstance names state setup).1.instances.lookup volume =
      (minifilterStep sha256 state (.instanceSetup setup.volume auth)).1.instances.lookup
        volume := by
  have htouches := (setupInstance_of_identifiesUsb names state husb).1
  rw [hauth] at htouches
  rw [htouches.instances volume]
  exact (assigns_insert state.instances setup.volume auth volume).symm

end Setup

/-! ### A volume without a daemon -/

/-- All calls for a USB volume succeed. -/
def setupCalls : SetupCalls where
  openVolume := true
  allocateHeader := true
  queryHeader := true
  headerSize := 8
  allocateDescriptor := true
  queryDescriptor := true
  busType := busTypeUsb
  findInstanceContext := true
  getVolumeName := true
  allocateRequest := true
  sendMessage := statusSuccess

/-- A USB volume arrives before the daemon has connected. -/
def earlyVolume : List (VolumeEvent ℕ) :=
  [.instanceSetup ⟨1, steadyDaemon true, setupCalls⟩]

/-- The daemon disconnects while it is asked about a USB volume. -/
def unansweredVolume : List (VolumeEvent ℕ) :=
  [.portConnect,
    .instanceSetup ⟨1, steadyDaemon true, { setupCalls with sendMessage := 0xC0000037 }⟩]

/-- A volume that arrives before the daemon has connected is attached with the authorization that
allows everything, and one for which the request fails is left without a filter. -/
theorem not_obeys_without_reply :
    ¬Obeys (execute (watchStep numberedVolumes) (Watch.init : Watch ℕ ℕ) earlyVolume).2 ∧
      ¬Obeys
        (execute (watchStep numberedVolumes) (Watch.init : Watch ℕ ℕ) unansweredVolume).2 := by
  constructor
  · intro hobeys
    obtain ⟨auth, hauth, hpermits⟩ := hobeys 1 none (by decide +kernel)
    have hallowed : some KeysasAuthorization.allowAll = some auth := by
      rw [← hauth]
      decide +kernel
    cases hallowed
    cases hpermits
  · intro hobeys
    obtain ⟨auth, hauth, -⟩ := hobeys 1 none (by decide +kernel)
    have hnone : (none : Option KeysasAuthorization) = some auth := by
      rw [← hauth]
      decide +kernel
    cases hnone

end Keysas.Minifilter
