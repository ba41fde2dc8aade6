import Keysas.Minifilter.FileNames

/-!
# Updates of the daemon to the minifilter

The daemon tells the minifilter about a new authorization of a file or of a volume in a message of
bytes, which `keysasPortNotify` reads. `updateFileAuth` and `updateUsbAuth` build the messages, and
`requestFileUpdate` is what the controller makes of an update of the GUI.

The GUI names a file by its identifier, but the controller passes on an identifier of zeros.
`keysasPortNotify_requestFileUpdate` gives the context that is changed for it: the first whose
identifier is zero, where a hash has failed. `reachesKernel_iff` says when the context with
the identifier of the update is the only one to be changed, and gets the authorization that was
asked for.

`keysasPortNotify_updateUsbAuth` is the other kind of message: the name of a volume comes through as
the system gives it, and every instance with the name that the loop reaches is authorized.
-/

set_option autoImplicit false
set_option relaxedAutoImplicit false

namespace Keysas.Minifilter

open Crypto Firewall RustStd Store

/-! ### Messages -/

/-- `KEYSAS_MSG_FILE_AUTH`. -/
def msgFileAuth : UInt8 := 1

/-- `KEYSAS_MSG_USB_AUTH`. -/
def msgUsbAuth : UInt8 := 2

/-- A file and the authorization for it. -/
structure FilePolicy where
  file : ScannedFile
  auth : FileAuthorization

/-- `[0u8; 32]`, and the identifier of a file whose name could not be hashed. -/
def zeroId : List UInt8 := List.replicate 32 0

/-- `request_file_update`: the policy that goes to the filter. -/
def requestFileUpdate (update : FileUpdateMessage) : FilePolicy where
  file := ⟨zeroId, update.path⟩
  auth := update.authorization

/-- The message of `update_file_auth`. -/
def updateFileAuth (update : FilePolicy) : List UInt8 :=
  msgFileAuth :: update.file.id ++ [update.auth.toKernelU8]

/-- `query_dos_device`, on the buffer that `QueryDosDeviceW` fills. -/
def queryDosDevice (buffer : List UInt16) : Option String :=
  let units := buffer.takeWhile (· ≠ 0)
  if wellFormedUtf16 units then some (fromUtf16Lossy units) else none

/-- The message of `update_usb_auth`, unless the path of the device is no text. -/
def updateUsbAuth (buffer : List UInt16) (auth : UsbAuthorization) : Option (List UInt8) :=
  (queryDosDevice buffer).map fun ntPath ↦
    msgUsbAuth :: auth.toKernelU8 :: bytesOfUnits (encodeUtf16 ntPath ++ [0])

/-! ### Reading a message -/

/-- Volumes are found by their names, whatever the case of the letters. -/
structure VolumeNames (ν : Type) where
  /-- `FltGetVolumeName`. -/
  name : ν → List UInt16
  /-- `RtlUpcaseUnicodeChar`. -/
  upcase : UInt16 → UInt16

/-- `RtlEqualUnicodeString` of the name of a volume and another name, in any case. -/
def VolumeNames.isNamed {ν : Type} (names : VolumeNames ν) (volume : ν) (name : List UInt16) :
    Bool :=
  (names.name volume).map names.upcase = name.map names.upcase

/-- Which calls of `KeysasPortNotify` succeed. -/
structure NotifyCalls (ν : Type) where
  allocateInstances : Bool
  enumerateInstances : Bool
  getVolumeFromInstance : ν → Bool
  getVolumeName : ν → Bool
  getInstanceContext : ν → Bool

/-- The context of the instance on a volume is reached. -/
def NotifyCalls.reaches {ν : Type} (calls : NotifyCalls ν) (volume : ν) : Bool :=
  calls.allocateInstances && calls.enumerateInstances && calls.getVolumeFromInstance volume &&
    calls.getVolumeName volume && calls.getInstanceContext volume

section PortNotify

variable {ν φ : Type} [DecidableEq ν]

/-- The loop over the instances. -/
def notifyInstances (names : VolumeNames ν) (calls : NotifyCalls ν) (target : List UInt16)
    (auth : KeysasAuthorization) (instances : Table ν KeysasAuthorization) :
    Table ν KeysasAuthorization :=
  instances.keys.foldl
    (fun updated volume ↦
      if calls.reaches volume && names.isNamed volume target then updated.insert volume auth
      else updated)
    instances

/-- The name at the end of a message, up to its zero unit. -/
def targetVolume (message : List UInt8) : List UInt16 :=
  (unitsOfBytes (message.drop 2)).takeWhile (· ≠ 0)

/-- `KeysasPortNotify`: whether it succeeds, and the state that it leaves. Without a result the
machine has stopped. -/
def keysasPortNotify (names : VolumeNames ν) (calls : NotifyCalls ν) (message : List UInt8)
    (state : FilterState ν φ) : Option (Bool × FilterState ν φ) :=
  if message.length < 2 then some (false, state)
  else if message[0]? = some msgFileAuth then
    if message.length < 34 then some (false, state)
    else if state.fileCtxList.isEmpty then some (true, state)
    else
      (walkFileAuth ((message.drop 1).take 32) (.ofU8 (message.getD 33 0)) state.fileCtxList).map
        fun walked ↦ (true, { state with fileCtxList := walked.1 })
  else if message[0]? = some msgUsbAuth then
    if message.length < 4 then some (false, state)
    else if state.instances.keys.isEmpty then some (true, state)
    else if !calls.allocateInstances then some (false, state)
    else
      some (true, { state with
        instances := notifyInstances names calls (targetVolume message)
          (.ofU8 (message.getD 1 0)) state.instances })
  else some (false, state)

/-! ### Updates of files -/

/-- The position of the first context with an identifier. -/
def positionOf (fileId : List UInt8) (contexts : List (FileCtx φ)) : ℕ :=
  contexts.findIdx fun ctx ↦ ctx.fileId = some fileId

/-- No context before the first with an identifier is without one. -/
def walksTo (fileId : List UInt8) (contexts : List (FileCtx φ)) : Bool :=
  (contexts.takeWhile fun ctx ↦ ctx.fileId ≠ some fileId).all fun ctx ↦ ctx.fileId.isSome

/-- The list in which the context at a position has an authorization. -/
def withAuthorization (contexts : List (FileCtx φ)) (position : ℕ) (auth : KeysasAuthorization) :
    List (FileCtx φ) :=
  contexts.modify position fun ctx ↦ { ctx with authorization := auth }

/-- The walk changes the first context with the identifier. -/
theorem walkFileAuth_eq (fileId : List UInt8) (auth : KeysasAuthorization)
    (contexts : List (FileCtx φ)) :
    (walkFileAuth fileId auth contexts).map Prod.fst =
      if walksTo fileId contexts then
        some (withAuthorization contexts (positionOf fileId contexts) auth)
      else none := by
  induction contexts with
  | nil => rfl
  | cons ctx rest ih =>
    rw [walkFileAuth]
    rcases hid : ctx.fileId with _ | id
    · simp [walksTo, hid]
    by_cases hfound : id = fileId
    · simp [walksTo, positionOf, withAuthorization, List.findIdx_cons, hid, hfound]
    · have hwalks : walksTo fileId (ctx :: rest) = walksTo fileId rest := by
        simp [walksTo, hid, hfound]
      have hposition : positionOf fileId (ctx :: rest) = positionOf fileId rest + 1 := by
        simp [positionOf, List.findIdx_cons, hid, hfound]
      simp only [if_neg hfound, hwalks, hposition, Option.map_map, withAuthorization,
        List.modify_succ_cons]
      rw [withAuthorization] at ih
      split_ifs at ih ⊢ with hrest
      · obtain ⟨walked, hwalked, hfst⟩ := Option.map_eq_some_iff.mp ih
        rw [hwalked, ← hfst]
        rfl
      · rw [Option.map_eq_none_iff.mp ih]
        rfl

/-- A message about a file is a walk for its identifier. -/
theorem keysasPortNotify_updateFileAuth (names : VolumeNames ν) (calls : NotifyCalls ν)
    {policy : FilePolicy} (hlength : policy.file.id.length = 32) (state : FilterState ν φ) :
    keysasPortNotify names calls (updateFileAuth policy) state =
      (walkFileAuth policy.file.id policy.auth.inKernel state.fileCtxList).map fun walked ↦
        (true, { state with fileCtxList := walked.1 }) := by
  have hmessage : (updateFileAuth policy).length = 34 := by simp [updateFileAuth, hlength]
  have hid : ((updateFileAuth policy).drop 1).take 32 = policy.file.id := by
    simp [updateFileAuth, List.take_left' hlength]
  have hauth : (updateFileAuth policy).getD 33 0 = policy.auth.toKernelU8 := by
    simp [updateFileAuth, hlength]
  rw [keysasPortNotify, if_neg (by omega), if_pos (by rfl), if_neg (by omega), hid, hauth,
    FileAuthorization.ofU8_toKernelU8]
  split_ifs with hempty
  · rcases state with ⟨clientPort, instances, _ | ⟨ctx, rest⟩⟩
    · rfl
    · cases hempty
  · rfl

/-- Such a message is the step of the minifilter for an update of a file. -/
theorem eq_minifilterStep_of_keysasPortNotify [DecidableEq φ] (sha256 : Sha256)
    {names : VolumeNames ν} {calls : NotifyCalls ν} {policy : FilePolicy}
    (hlength : policy.file.id.length = 32) {state after : FilterState ν φ} {success : Bool}
    (hends : keysasPortNotify names calls (updateFileAuth policy) state = some (success, after)) :
    after = (minifilterStep sha256 state (.updateFileAuth policy.file.id policy.auth)).1 := by
  rw [keysasPortNotify_updateFileAuth names calls hlength] at hends
  obtain ⟨⟨contexts, updated⟩, hwalk, hpair⟩ := Option.map_eq_some_iff.mp hends
  obtain ⟨rfl, rfl⟩ := Prod.mk.inj hpair
  simp only [minifilterStep, FileAuthorization.ofU8_toKernelU8, hwalk]

/-- The first context whose identifier is zero gets the authorization of an update. -/
theorem keysasPortNotify_requestFileUpdate (names : VolumeNames ν) (calls : NotifyCalls ν)
    (update : FileUpdateMessage) (state : FilterState ν φ) :
    (keysasPortNotify names calls (updateFileAuth (requestFileUpdate update)) state).map Prod.snd =
      if walksTo zeroId state.fileCtxList then
        some { state with
          fileCtxList := withAuthorization state.fileCtxList
            (positionOf zeroId state.fileCtxList) update.authorization.inKernel }
      else none := by
  have hwalk := walkFileAuth_eq zeroId update.authorization.inKernel
    state.fileCtxList
  rw [keysasPortNotify_updateFileAuth names calls (by rfl), Option.map_map]
  calc (walkFileAuth (requestFileUpdate update).file.id (requestFileUpdate update).auth.inKernel
          state.fileCtxList).map _
      = ((walkFileAuth zeroId update.authorization.inKernel
          state.fileCtxList).map Prod.fst).map fun contexts ↦
            { state with fileCtxList := contexts } := by
        rw [Option.map_map]
        rfl
    _ = _ := by
        rw [hwalk]
        split_ifs <;> rfl

theorem modify_eq_self {α : Type} {entries : List α} {change : α → α} {position : ℕ}
    (hentry : ∀ entry, entries[position]? = some entry → change entry = entry) :
    entries.modify position change = entries := by
  ext1 other
  rw [List.getElem?_modify]
  split_ifs with hsame
  · subst hsame
    exact Option.map_congr hentry |>.trans Option.map_id'
  · exact Option.map_id'

/-- A change of one entry is a change of another exactly when it is the same entry, or both are
already as they should be. -/
theorem modify_eq_modify_iff {α : Type} {entries : List α} {change : α → α} {first second : ℕ} :
    entries.modify first change = entries.modify second change ↔
      first = second ∨ (∀ entry, entries[first]? = some entry → change entry = entry) ∧
        ∀ entry, entries[second]? = some entry → change entry = entry := by
  constructor
  · intro hmodify
    by_cases hsame : first = second
    · exact .inl hsame
    refine .inr ⟨fun entry hentry ↦ ?_, fun entry hentry ↦ ?_⟩
    · have hfirst := congrArg (·[first]?) hmodify
      simpa [List.getElem?_modify, hentry, Ne.symm hsame] using hfirst
    · have hsecond := congrArg (·[second]?) hmodify
      simpa [List.getElem?_modify, hentry, hsame] using hsecond.symm
  · rintro (rfl | ⟨hfirst, hsecond⟩)
    · rfl
    · rw [modify_eq_self hfirst, modify_eq_self hsecond]

/-- The context at a position, if there is one, has an authorization. -/
def IsAuthorized (contexts : List (FileCtx φ)) (position : ℕ) (auth : KeysasAuthorization) :
    Prop :=
  ∀ ctx, contexts[position]? = some ctx → ctx.authorization = auth

/-- An update of the GUI gives the context at a position the authorization that it asks for, and
changes nothing else. -/
def ReachesKernel (names : VolumeNames ν) (calls : NotifyCalls ν) (update : FileUpdateMessage)
    (state : FilterState ν φ) (position : ℕ) : Prop :=
  (keysasPortNotify names calls (updateFileAuth (requestFileUpdate update)) state).map Prod.snd =
    some { state with
      fileCtxList :=
        withAuthorization state.fileCtxList position update.authorization.inKernel }

/-- The context that an update of the GUI is about, with whichever identifier, is the one that the
update reaches exactly when the walk comes to an identifier of zeros, and this is the context, or
both are already authorized as the update asks for. -/
theorem reachesKernel_iff (names : VolumeNames ν) (calls : NotifyCalls ν)
    (update : FileUpdateMessage) (state : FilterState ν φ) (position : ℕ) :
    ReachesKernel names calls update state position ↔
      walksTo zeroId state.fileCtxList ∧
        (positionOf zeroId state.fileCtxList = position ∨
          IsAuthorized state.fileCtxList (positionOf zeroId state.fileCtxList)
              update.authorization.inKernel ∧
            IsAuthorized state.fileCtxList position update.authorization.inKernel) := by
  have hset (ctx : FileCtx φ) : { ctx with authorization := update.authorization.inKernel } = ctx ↔
      ctx.authorization = update.authorization.inKernel := by
    rcases ctx with ⟨attachedTo, authorization, fileId⟩
    simp [eq_comm]
  rw [ReachesKernel, keysasPortNotify_requestFileUpdate]
  split_ifs with hwalks
  · simp only [Option.some.injEq, FilterState.mk.injEq, true_and, withAuthorization,
      modify_eq_modify_iff, hset, IsAuthorized, hwalks]
  · simp only [hwalks, false_and, Bool.false_eq_true]

/-! ### Updates of volumes -/

theorem unit_of_bytes (unit : UInt16) :
    unit.toUInt8.toUInt16 ||| (unit >>> 8).toUInt8.toUInt16 <<< 8 = unit := by
  have hunit := unit.toNat_lt
  apply UInt16.toNat_inj.mp
  rw [toNat_unit, UInt16.toNat_toUInt8, UInt16.toNat_toUInt8, UInt16.toNat_shiftRight]
  simp [Nat.shiftRight_eq_div_pow]
  omega

theorem unitsOfBytes_bytesOfUnits (units : List UInt16) :
    unitsOfBytes (bytesOfUnits units) = units := by
  induction units with
  | nil => rfl
  | cons unit units ih =>
    rw [bytesOfUnits] at ih
    rw [bytesOfUnits, List.flatMap_cons]
    simp only [List.cons_append, List.nil_append, unitsOfBytes, unit_of_bytes, ih]

/-- A message about a volume has the name that the system gives the device. -/
theorem updateUsbAuth_eq {buffer : List UInt16} {auth : UsbAuthorization} {message : List UInt8}
    (hmessage : updateUsbAuth buffer auth = some message) :
    message = msgUsbAuth :: auth.toKernelU8 ::
      bytesOfUnits (buffer.takeWhile (· ≠ 0) ++ [0]) := by
  obtain ⟨ntPath, hpath, rfl⟩ := Option.map_eq_some_iff.mp hmessage
  rw [queryDosDevice] at hpath
  split_ifs at hpath with hunits
  rw [← Option.some.inj hpath, encodeUtf16_fromUtf16Lossy_eq_iff.mpr hunits]

/-- The minifilter reads the name that the daemon has sent. -/
theorem targetVolume_updateUsbAuth {buffer : List UInt16} {auth : UsbAuthorization}
    {message : List UInt8} (hmessage : updateUsbAuth buffer auth = some message) :
    targetVolume message = buffer.takeWhile (· ≠ 0) := by
  rw [targetVolume, updateUsbAuth_eq hmessage, List.drop_succ_cons, List.drop_succ_cons,
    List.drop_zero, unitsOfBytes_bytesOfUnits, List.takeWhile_append_of_pos]
  · simp
  · exact fun unit hunit ↦ by simpa using List.mem_takeWhile_imp hunit

/-- The loop gives an authorization to every instance that has the name and is reached. -/
theorem lookup_notifyInstances (names : VolumeNames ν) (calls : NotifyCalls ν)
    (target : List UInt16) (auth : KeysasAuthorization)
    (instances : Table ν KeysasAuthorization) (volume : ν) :
    (notifyInstances names calls target auth instances).lookup volume =
      if calls.reaches volume && names.isNamed volume target then
        (instances.lookup volume).map fun _ ↦ auth
      else instances.lookup volume :=
  lookup_foldl_keys_insert _ auth instances volume

/-- An update of a volume goes to every instance that has its name and is reached. -/
theorem keysasPortNotify_updateUsbAuth (names : VolumeNames ν) (calls : NotifyCalls ν)
    {buffer : List UInt16} {auth : UsbAuthorization} {message : List UInt8}
    (hmessage : updateUsbAuth buffer auth = some message) (state : FilterState ν φ) :
    ∃ success instances,
      keysasPortNotify names calls message state =
        some (success, { state with instances := instances }) ∧
      ∀ volume, instances.lookup volume =
        if calls.reaches volume && names.isNamed volume (buffer.takeWhile (· ≠ 0)) then
          (state.instances.lookup volume).map fun _ ↦ .ofU8 auth.toKernelU8
        else state.instances.lookup volume := by
  have hlength : 4 ≤ message.length := by
    rw [updateUsbAuth_eq hmessage]
    simp [bytesOfUnits]
  have htype : message[0]? = some msgUsbAuth := by
    rw [updateUsbAuth_eq hmessage]
    rfl
  have hauth : message.getD 1 0 = auth.toKernelU8 := by
    rw [updateUsbAuth_eq hmessage]
    rfl
  rw [keysasPortNotify, if_neg (by omega), htype, if_neg (by decide), if_pos rfl,
    if_neg (by omega), hauth, targetVolume_updateUsbAuth hmessage]
  split_ifs with hempty hallocate
  · refine ⟨true, state.instances, rfl, fun volume ↦ ?_⟩
    have hnone : state.instances.lookup volume = none := by
      refine AList.lookup_eq_none.mpr fun hvolume ↦ ?_
      have hkeys := AList.mem_keys.mp hvolume
      rw [List.isEmpty_iff.mp hempty] at hkeys
      cases hkeys
    rw [hnone]
    split_ifs <;> rfl
  · refine ⟨false, state.instances, rfl, fun volume ↦ ?_⟩
    have hallocate : calls.allocateInstances = false := by simpa using hallocate
    simp [NotifyCalls.reaches, hallocate]
  · exact ⟨true, _, rfl, lookup_notifyInstances names calls _ _ _⟩

end PortNotify

/-- The SHA-256 digest of the name `E:\a` in UTF-16. -/
def namedId : List UInt8 :=
  [0xcb, 0x65, 0x0d, 0x7d, 0x92, 0x3b, 0x2a, 0xbf, 0xf5, 0xf4, 0xf9, 0xcc, 0xd5, 0xa6, 0x1d, 0x0a,
    0x22, 0x40, 0x89, 0xb7, 0xfa, 0x97, 0x82, 0xb4, 0x3e, 0x48, 0xb0, 0xec, 0x43, 0x27, 0xf9, 0x32]

/-- The minifilter with the context of a pending file. -/
def pendingOne : FilterState ℕ ℕ where
  clientPort := true
  instances := ∅
  fileCtxList := [⟨some 1, .pending, some namedId⟩]

/-- The user allows the file. -/
def allowNamed : FileUpdateMessage := ⟨"", unitsOfBytes namedId, "E:\\a", .allowRead⟩

/-- Volumes that are named by numbers. -/
def numberedVolumes : VolumeNames ℕ := ⟨fun volume ↦ [UInt16.ofNat volume], fun unit ↦ unit⟩

/-- Every call succeeds. -/
def notifyCalls : NotifyCalls ℕ := ⟨true, true, fun _ ↦ true, fun _ ↦ true, fun _ ↦ true⟩

/-- An update of the GUI does not reach the pending file with its identifier. -/
theorem allowNamed_not_reachesKernel :
    (pendingOne.fileCtxList[0]?).bind FileCtx.fileId = some (bytesOfUnits allowNamed.id) ∧
      ¬ReachesKernel numberedVolumes notifyCalls allowNamed pendingOne 0 := by
  constructor
  · decide +kernel
  · intro hreaches
    have hauthorizations := congrArg (Option.map fun after ↦
      after.fileCtxList.map FileCtx.authorization) hreaches
    exact absurd hauthorizations (by decide +kernel)

end Keysas.Minifilter
