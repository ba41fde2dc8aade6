import Keysas.Runs.Ownership

/-!
# The filter driver of the USB hubs

Under Windows a driver sits above the USB hubs. When a hub tells the system which devices are
attached to it, the driver inspects each of them: it opens a handle, reads the descriptor of the
device and its configurations, and selects the configuration of a mass storage. Then it builds the
list of the devices anew without those that it does not allow.

The kernel and the devices answer as they like: any allocation may fail, any call may return an
error, and a descriptor is what the device says. `filtered_of_postProcessing` says that the driver
touches nothing that it does not hold, releases everything once, and hands on every device: the
inspection refuses none. It needs that no configuration descriptor is longer than the device has
announced, which the driver does not check, and without which it reads behind the descriptor.
-/

set_option autoImplicit false
set_option relaxedAutoImplicit false

namespace Keysas.UsbFilter

open Runs

/-! ### The kernel -/

/-- `NTSTATUS`. -/
abbrev NtStatus :=
  Int32

/-- `NT_SUCCESS`. -/
def ntSuccess (status : NtStatus) : Bool :=
  0 ≤ status

def statusSuccess : NtStatus := 0

/-- `STATUS_UNSUCCESSFUL`. -/
def statusUnsuccessful : NtStatus := -1073741823

/-- `STATUS_INVALID_PARAMETER`. -/
def statusInvalidParameter : NtStatus := -1073741811

/-- `STATUS_INSUFFICIENT_RESOURCES`. -/
def statusInsufficientResources : NtStatus := -1073741670

/-- What the driver asks the kernel for. -/
inductive Kind where
  | handle
  | urb
  | irp
  | pool
  deriving DecidableEq

/-- A thing: its kind, and the call that gave it. -/
abbrev Thing :=
  Kind × ℕ

/-- The types of a pipe. -/
inductive PipeType where
  | control
  | isochronous
  | bulk
  | interrupt
  deriving DecidableEq

/-- A pipe of an interface, and whether its endpoint is an input. -/
structure Pipe where
  pipeType : PipeType
  directionIn : Bool
  deriving DecidableEq

/-- What the driver looks at in a configuration descriptor. -/
structure Configuration where
  totalLength : UInt16
  numInterfaces : UInt8

/-- The answers of the kernel and of the devices, by the number of the call. -/
structure Kernel where
  /-- Whether there is something to return. -/
  grants : ℕ → Bool
  status : ℕ → NtStatus
  /-- `bNumConfigurations` of a device descriptor. -/
  numConfigurations : ℕ → UInt8
  /-- The total length in the head of a configuration descriptor. -/
  announced : ℕ → UInt16
  /-- The configuration descriptor that is read in full. -/
  configuration : ℕ → Configuration
  /-- Whether a descriptor is found in a configuration. -/
  finds : ℕ → Bool
  /-- The pipes of an interface, when the request has filled it in. -/
  pipes : ℕ → Option (List Pipe)

/-- A program of the driver, which counts its calls. -/
abbrev Driver (α : Type) :=
  Program (Access Thing) ℕ Empty α

/-- The number of a call. -/
def nextCall : Driver ℕ := do
  let call ← Program.get
  Program.modify (· + 1)
  return call

def touch (thing : Thing) (index : ℕ) : Driver Unit :=
  Program.emit (.touch thing index)

def free (thing : Thing) : Driver Unit :=
  Program.emit (.release thing)

/-- A pointer is freed unless it is null. -/
def freeUnlessNull : Option Thing → Driver Unit
  | none => return ()
  | some thing => free thing

/-- A call that returns a status and, maybe, a thing. -/
def allocateWithStatus (kernel : Kernel) (kind : Kind) : Driver (NtStatus × Option Thing) := do
  let call ← Program.get
  let thing ← allocate kernel.grants kind 1
  return (kernel.status call, thing)

/-! ### Requests to a device -/

section Requests

variable (kernel : Kernel) (handle : Thing)

/-- `KUFSubmitUrbSync`, with a request that is not null. -/
def submitUrbSync (urb : Thing) : Driver NtStatus := do
  match ← allocate kernel.grants .irp 1 with
  | none => return statusUnsuccessful
  | some irp =>
    -- `IoGetNextIrpStackLocation`
    let call ← nextCall
    if !kernel.grants call then
      free irp
      return statusUnsuccessful
    else
      -- `USBD_AssignUrbToIoStackLocation`, then `IoSetCompletionRoutineEx`
      touch handle 0
      touch urb 0
      let call ← nextCall
      if !ntSuccess (kernel.status call) then
        free irp
        return kernel.status call
      else
        -- `IoCallDriver`, which is waited for, and the status in the packet
        let call ← nextCall
        touch irp 0
        free irp
        return kernel.status call

/-- Allocate a request, format it, submit it and free it. The first status is that of the
allocation, the second that of the answer when there is one. -/
def request : Driver (NtStatus × Option NtStatus) := do
  -- `USBD_UrbAllocate`
  touch handle 0
  match ← allocateWithStatus kernel .urb with
  | (status, none) => return (status, none)
  | (status, some urb) =>
    if !ntSuccess status then
      touch handle 0
      free urb
      return (status, none)
    else
      touch urb 0
      let answer ← submitUrbSync kernel handle urb
      -- `USBD_UrbFree`
      touch handle 0
      free urb
      return (status, some answer)

/-- `KUFGetUsbDeviceDescriptor`, with the number of configurations, which is zero before the device
has answered. -/
def getUsbDeviceDescriptor : Driver (NtStatus × UInt8) := do
  match ← request kernel handle with
  | (status, none) => return (status, 0)
  | (_, some answer) =>
    let answered ← nextCall
    return (answer, kernel.numConfigurations answered)

/-- `KUFGetUsbConfigurationDescriptor`, with the descriptor that it allocates, also when it fails
after that. -/
def getUsbConfigurationDescriptor : Driver (NtStatus × Option (Thing × Configuration)) := do
  match ← request kernel handle with
  | (status, none) => return (status, none)
  | (_, some answer) =>
    if !ntSuccess answer then
      return (answer, none)
    else
      let answered ← nextCall
      match ← allocate kernel.grants .pool (kernel.announced answered).toNat with
      | none => return (statusUnsuccessful, none)
      | some descriptor =>
        let found := (descriptor, kernel.configuration answered)
        match ← request kernel handle with
        | (status, none) => return (status, some found)
        | (_, some answer) => return (answer, some found)

/-- `USBD_ParseConfigurationDescriptorEx` reads the head of a descriptor, and all of it. -/
def parseConfigurationDescriptor (found : Thing × Configuration) : Driver Bool := do
  let call ← nextCall
  touch found.1 (max 9 found.2.totalLength.toNat - 1)
  return kernel.finds call

/-- The first loop of `KUFSelectUsbReadConfiguration`, from an index on. -/
def fillInterfaceList (found : Thing × Configuration) (interfaceList : Thing) :
    ℕ → ℕ → Driver Unit
  | _, 0 => return ()
  | index, remaining + 1 => do
    let isFound ← parseConfigurationDescriptor kernel found
    if isFound then
      touch interfaceList index
      fillInterfaceList found interfaceList (index + 1) remaining
    else
      fillInterfaceList found interfaceList (index + 1) remaining

/-- The pipe is one to read from. -/
def Pipe.isBulkIn (pipe : Pipe) : Bool :=
  pipe.pipeType = .bulk && pipe.directionIn

/-- The second loop of `KUFSelectUsbReadConfiguration`. The pipes are in the request. -/
def findReadPipe (interfaceList urb : Thing) : ℕ → ℕ → Bool → Driver Bool
  | _, 0, isFound => return isFound
  | index, remaining + 1, isFound => do
    let call ← nextCall
    touch interfaceList index
    match kernel.pipes call with
    | none => findReadPipe interfaceList urb (index + 1) remaining isFound
    | some pipes =>
      touch urb 0
      findReadPipe interfaceList urb (index + 1) remaining (isFound || pipes.any Pipe.isBulkIn)

/-- `KUFSelectUsbReadConfiguration`. The pipe that it returns lies in the request that it frees, and
its caller does not look at it. -/
def selectUsbReadConfiguration (found : Thing × Configuration) : Driver NtStatus := do
  touch found.1 4
  let count := found.2.numInterfaces.toNat
  match ← allocate kernel.grants .pool (count + 1) with
  | none => return statusInsufficientResources
  | some interfaceList =>
    fillInterfaceList kernel found interfaceList 0 count
    touch interfaceList count
    -- `USBD_SelectConfigUrbAllocateAndBuild`
    touch handle 0
    match ← allocateWithStatus kernel .urb with
    | (status, none) =>
      free interfaceList
      -- A request that is null is refused by `KUFSubmitUrbSync`.
      return if ntSuccess status then statusUnsuccessful else statusInsufficientResources
    | (status, some urb) =>
      if !ntSuccess status then
        touch handle 0
        free urb
        free interfaceList
        return statusInsufficientResources
      else
        let answer ← submitUrbSync kernel handle urb
        if !ntSuccess answer then
          touch handle 0
          free urb
          free interfaceList
          return statusUnsuccessful
        else
          let isFound ← findReadPipe kernel interfaceList urb 0 count false
          touch handle 0
          free urb
          free interfaceList
          return if isFound then statusSuccess else statusUnsuccessful

/-- The loop of `KUFInspectUsbDevice`, with the descriptor that is left for `cleanup`. -/
def inspectConfigurations : ℕ → NtStatus → Driver (NtStatus × Option Thing)
  | 0, status => return (status, none)
  | remaining + 1, _ => do
    match ← getUsbConfigurationDescriptor kernel handle with
    | (status, none) => return (status, none)
    | (status, some found) =>
      if !ntSuccess status then
        return (status, some found.1)
      else
        let isMassStorage ← parseConfigurationDescriptor kernel found
        if isMassStorage then
          let status ← selectUsbReadConfiguration kernel handle found
          free found.1
          inspectConfigurations remaining status
        else
          free found.1
          inspectConfigurations remaining status

end Requests

/-! ### The list of the devices -/

/-- A device object. -/
abbrev DeviceObject :=
  ℕ

/-- `KUFInspectUsbDevice`, with the flag that it may set. -/
def inspectUsbDevice (kernel : Kernel) (driverDevice targetDevice : Option DeviceObject)
    (allowDevice : Bool) : Driver (NtStatus × Bool) := do
  if driverDevice = none ∨ targetDevice = none then
    return (statusInvalidParameter, allowDevice)
  else
    match ← allocateWithStatus kernel .handle with
    | (status, none) => return (status, true)
    | (status, some handle) =>
      if !ntSuccess status then
        free handle
        return (status, true)
      else
        let (status, count) ← getUsbDeviceDescriptor kernel handle
        if !ntSuccess status then
          free handle
          return (status, true)
        else
          let (status, descriptor) ← inspectConfigurations kernel handle count.toNat status
          free handle
          freeUnlessNull descriptor
          return (status, true)

/-- The packet that the completion routine gets: how it is called, and the list of the devices. -/
structure RelationsIrp where
  pendingReturned : Bool
  atPassiveLevel : Bool
  status : NtStatus
  information : Option (Thing × List (Option DeviceObject))

/-- The loop that inspects the devices, from an index on: the list of the authorizations, which
starts with zeros. -/
def inspectAll (kernel : Kernel) (driverDevice : Option DeviceObject)
    (relations allowDeviceList : Thing) : ℕ → List (Option DeviceObject) → Driver (List Bool)
  | _, [] => return []
  | index, target :: targets => do
    touch relations index
    touch allowDeviceList index
    let (_, allow) ← inspectUsbDevice kernel driverDevice target false
    touch allowDeviceList index
    let rest ← inspectAll kernel driverDevice relations allowDeviceList (index + 1) targets
    return allow :: rest

/-- The loop that builds the new list, from an index of the old and one of the new list on. -/
def rebuild (relations allowDeviceList newRelations : Thing) :
    ℕ → ℕ → List (Option DeviceObject × Bool) → Driver (List (Option DeviceObject))
  | _, _, [] => return []
  | index, newIndex, (target, allow) :: targets => do
    touch allowDeviceList index
    if allow then
      touch relations index
      touch newRelations newIndex
      let rest ← rebuild relations allowDeviceList newRelations (index + 1) (newIndex + 1) targets
      return target :: rest
    else
      rebuild relations allowDeviceList newRelations (index + 1) newIndex targets

/-- `KUFDeviceRelationsPostProcessing`, with the list in the packet afterwards. -/
def postProcessing (kernel : Kernel) (device : Option DeviceObject) (irp : RelationsIrp) :
    Driver (Option (Thing × List (Option DeviceObject))) := do
  match irp.information with
  | none => return none
  | some (relations, devices) =>
    if irp.pendingReturned || !irp.atPassiveLevel || irp.status ≠ statusSuccess then
      return irp.information
    else
      match ← allocate kernel.grants .pool devices.length with
      | none => return irp.information
      | some allowDeviceList =>
        let allowed ← inspectAll kernel device relations allowDeviceList 0 devices
        let nbAllowedDevices := allowed.count true
        if nbAllowedDevices = devices.length then
          free allowDeviceList
          return irp.information
        else
          let nbDeviceInList := if 0 < nbAllowedDevices then nbAllowedDevices - 1 else 0
          match ← allocate kernel.grants .pool (nbDeviceInList + 1) with
          | none =>
            free allowDeviceList
            return irp.information
          | some newRelations =>
            let kept ← rebuild relations allowDeviceList newRelations 0 0 (devices.zip allowed)
            free relations
            free allowDeviceList
            return some (newRelations, kept)

/-! ### Memory -/

section Requests

variable {kernel : Kernel} {handle : Thing} {start : ℕ} {held : Holdings Thing}

theorem respects_nextCall_bind {α : Type} {second : ℕ → Driver α}
    {post : α → ℕ → Holdings Thing → Prop}
    (hsecond : Respects (second start) (start + 1) held post) :
    Respects (nextCall >>= second) start held post :=
  hsecond

/-- A packet is freed in each case. -/
theorem neutral_submitUrbSync {urb : Thing} (hfresh : Fresh held start)
    (hhandle : held handle = some 1) (hurb : held urb = some 1) :
    Neutral (submitUrbSync kernel handle urb) start held fun _ ↦ True := by
  refine respects_allocate_bind hfresh ?_ ?_
  · exact respects_pure ⟨rfl, by omega, trivial⟩
  have hirp : Function.update held (Kind.irp, start) (some 1) (Kind.irp, start) = some 1 :=
    Function.update_self ..
  have hfreed : ∀ {call : ℕ} {status : NtStatus}, start ≤ call →
      Respects (free (Kind.irp, start) >>= fun _ ↦ (pure status : Driver NtStatus)) call
        (Function.update held (Kind.irp, start) (some 1)) fun value reached after ↦
          after = held ∧ start ≤ reached ∧ True :=
    fun hcall ↦ respects_release_bind hirp (respects_pure ⟨hfresh.restore .irp _, hcall, trivial⟩)
  refine respects_nextCall_bind ?_
  dsimp only
  split
  · exact hfreed (by omega)
  refine respects_touch_bind (hfresh.update_of_held hhandle _ _) Nat.zero_lt_one ?_
  refine respects_touch_bind (hfresh.update_of_held hurb _ _) Nat.zero_lt_one ?_
  refine respects_nextCall_bind ?_
  split
  · exact hfreed (by omega)
  refine respects_nextCall_bind ?_
  exact respects_touch_bind hirp Nat.zero_lt_one (hfreed (by omega))

/-- A call that returns a status and a new thing, or none. -/
theorem respects_allocateWithStatus_bind {α : Type} {kind : Kind} (hfresh : Fresh held start)
    {second : NtStatus × Option Thing → Driver α} {post : α → ℕ → Holdings Thing → Prop}
    (hnone : ∀ status, Respects (second (status, none)) (start + 1) held post)
    (hsome : ∀ status, Respects (second (status, some (kind, start))) (start + 1)
      (Function.update held (kind, start) (some 1)) post) :
    Respects (allocateWithStatus kernel kind >>= second) start held post := by
  have hallocate : Respects (allocateWithStatus kernel kind) start held fun value reached after ↦
      reached = start + 1 ∧ (value.2 = none ∧ after = held ∨
        value.2 = some (kind, start) ∧ after = Function.update held (kind, start) (some 1)) := by
    refine respects_get_bind ((respects_allocate hfresh).bind ?_)
    rintro value reached after hvalue
    exact respects_pure hvalue
  refine hallocate.bind ?_
  rintro ⟨status, _⟩ _ _ ⟨rfl, ⟨rfl, rfl⟩ | ⟨rfl, rfl⟩⟩
  · exact hnone status
  · exact hsome status

/-- A request is freed in each case. -/
theorem neutral_request (hfresh : Fresh held start) (hhandle : held handle = some 1) :
    Neutral (request kernel handle) start held fun _ ↦ True := by
  refine respects_touch_bind hhandle Nat.zero_lt_one ?_
  refine respects_allocateWithStatus_bind hfresh (fun status ↦ ?_) fun status ↦ ?_
  · exact respects_pure ⟨rfl, by omega, trivial⟩
  have hurb : Function.update held (Kind.urb, start) (some 1) (Kind.urb, start) = some 1 :=
    Function.update_self ..
  have hkept := hfresh.update_of_held hhandle .urb (some 1)
  dsimp only
  split
  · exact respects_touch_bind hkept Nat.zero_lt_one <| respects_release_bind hurb <|
      respects_pure ⟨hfresh.restore .urb _, by omega, trivial⟩
  refine respects_touch_bind hurb Nat.zero_lt_one ?_
  refine (neutral_submitUrbSync (hfresh.update .urb 1) hkept hurb).bind ?_
  rintro answer reached _ ⟨rfl, hreached, -⟩
  exact respects_touch_bind hkept Nat.zero_lt_one <| respects_release_bind hurb <|
    respects_pure ⟨hfresh.restore .urb _, by omega, trivial⟩

theorem neutral_getUsbDeviceDescriptor (hfresh : Fresh held start)
    (hhandle : held handle = some 1) :
    Neutral (getUsbDeviceDescriptor kernel handle) start held fun _ ↦ True := by
  refine (neutral_request hfresh hhandle).bind ?_
  rintro ⟨status, _ | answer⟩ reached _ ⟨rfl, hreached, -⟩
  · exact respects_pure ⟨rfl, hreached, trivial⟩
  · exact respects_nextCall_bind (respects_pure ⟨rfl, by omega, trivial⟩)

end Requests

section Configurations

variable {kernel : Kernel} {handle : Thing} {start : ℕ} {held : Holdings Thing}

/-- No configuration descriptor is shorter than its head, and none is longer than the device has
announced when it was asked for the head. -/
def Kernel.KeepsLengths (kernel : Kernel) : Prop :=
  ∀ call, 9 ≤ (kernel.announced call).toNat ∧
    (kernel.configuration call).totalLength.toNat ≤ (kernel.announced call).toNat

/-- The descriptor is held and has room for what is read of it. -/
def HasRoom (held : Holdings Thing) (found : Thing × Configuration) : Prop :=
  ∃ capacity, held found.1 = some capacity ∧ 9 ≤ capacity ∧ found.2.totalLength.toNat ≤ capacity

theorem respects_parse_bind {α : Type} {found : Thing × Configuration} (hroom : HasRoom held found)
    {second : Bool → Driver α} {post : α → ℕ → Holdings Thing → Prop}
    (hsecond : ∀ isFound, Respects (second isFound) (start + 1) held post) :
    Respects (parseConfigurationDescriptor kernel found >>= second) start held post := by
  obtain ⟨capacity, hheld, hhead, htotal⟩ := hroom
  have hparse : Respects (parseConfigurationDescriptor kernel found) start held
      fun _ reached after ↦ reached = start + 1 ∧ after = held :=
    respects_nextCall_bind <| respects_touch_bind hheld (by omega) (respects_pure ⟨rfl, rfl⟩)
  refine hparse.bind ?_
  rintro isFound _ _ ⟨rfl, rfl⟩
  exact hsecond isFound

theorem HasRoom.update {found : Thing × Configuration} (hroom : HasRoom held found)
    (hfresh : Fresh held start) (kind : Kind) (other : Option ℕ) :
    HasRoom (Function.update held (kind, start) other) found := by
  obtain ⟨capacity, hheld, hlengths⟩ := hroom
  exact ⟨capacity, hfresh.update_of_held hheld kind other, hlengths⟩

/-- Every entry that is filled lies in the list. -/
theorem neutral_fillInterfaceList {found : Thing × Configuration} {interfaceList : Thing}
    {capacity : ℕ} (hroom : HasRoom held found) (hlist : held interfaceList = some capacity)
    (index remaining : ℕ) (hindex : index + remaining ≤ capacity) :
    Neutral (fillInterfaceList kernel found interfaceList index remaining) start held
      fun _ ↦ True := by
  induction remaining generalizing index start with
  | zero => exact respects_pure ⟨rfl, Nat.le_refl start, trivial⟩
  | succ remaining ih =>
    have hrest : Neutral (fillInterfaceList kernel found interfaceList (index + 1) remaining)
        (start + 1) held fun _ ↦ True :=
      ih (index + 1) (by omega)
    refine respects_parse_bind hroom fun isFound ↦ ?_
    dsimp only
    split
    · exact respects_touch_bind hlist (by omega) (hrest.later (Nat.le_succ start))
    · exact hrest.later (Nat.le_succ start)

theorem neutral_findReadPipe {interfaceList urb : Thing} {capacity : ℕ}
    (hlist : held interfaceList = some capacity) (hurb : held urb = some 1)
    (index remaining : ℕ) (isFound : Bool) (hindex : index + remaining ≤ capacity) :
    Neutral (findReadPipe kernel interfaceList urb index remaining isFound) start held
      fun _ ↦ True := by
  induction remaining generalizing index isFound start with
  | zero => exact respects_pure ⟨rfl, Nat.le_refl start, trivial⟩
  | succ remaining ih =>
    have hrest : ∀ isFound, Neutral
        (findReadPipe kernel interfaceList urb (index + 1) remaining isFound) (start + 1) held
        fun _ ↦ True :=
      fun isFound ↦ ih (index + 1) isFound (by omega)
    refine respects_nextCall_bind <| respects_touch_bind hlist (by omega) ?_
    dsimp only
    split
    · exact (hrest isFound).later (Nat.le_succ start)
    · exact respects_touch_bind hurb Nat.zero_lt_one ((hrest _).later (Nat.le_succ start))

/-- The list of the interfaces and the request are freed in each case. -/
theorem neutral_selectUsbReadConfiguration {found : Thing × Configuration}
    (hfresh : Fresh held start) (hhandle : held handle = some 1) (hroom : HasRoom held found) :
    Neutral (selectUsbReadConfiguration kernel handle found) start held fun _ ↦ True := by
  obtain ⟨capacity, hheld, hhead, -⟩ := id hroom
  refine respects_touch_bind hheld (by omega) ?_
  refine respects_allocate_bind hfresh ?_ ?_
  · exact respects_pure ⟨rfl, by omega, trivial⟩
  have hlist : Function.update held (Kind.pool, start) (some (found.2.numInterfaces.toNat + 1))
      (Kind.pool, start) = some (found.2.numInterfaces.toNat + 1) :=
    Function.update_self ..
  have hlisted := hfresh.update .pool (found.2.numInterfaces.toNat + 1)
  have hlistHandle := hfresh.update_of_held hhandle .pool (some (found.2.numInterfaces.toNat + 1))
  refine (neutral_fillInterfaceList (hroom.update hfresh _ _) hlist 0 _ (by omega)).bind ?_
  rintro _ reached _ ⟨rfl, hreached, -⟩
  refine respects_touch_bind hlist (Nat.lt_succ_self _) ?_
  refine respects_touch_bind hlistHandle Nat.zero_lt_one ?_
  have hfreshReached := hlisted.mono hreached
  refine respects_allocateWithStatus_bind hfreshReached (fun status ↦ ?_) fun status ↦ ?_
  · exact respects_release_bind hlist (respects_pure ⟨hfresh.restore .pool _, by omega, trivial⟩)
  have hurb : Function.update (Function.update held (Kind.pool, start)
      (some (found.2.numInterfaces.toNat + 1))) (Kind.urb, reached) (some 1) (Kind.urb, reached) =
        some 1 :=
    Function.update_self ..
  have hurbList := hfreshReached.update_of_held hlist .urb (some 1)
  have hurbHandle := hfreshReached.update_of_held hlistHandle .urb (some 1)
  have hfreed : ∀ {call : ℕ} {answer : NtStatus}, start ≤ call →
      Respects (touch handle 0 >>= fun _ ↦ free (Kind.urb, reached) >>= fun _ ↦
        free (Kind.pool, start) >>= fun _ ↦ (pure answer : Driver NtStatus)) call
        (Function.update (Function.update held (Kind.pool, start)
          (some (found.2.numInterfaces.toNat + 1))) (Kind.urb, reached) (some 1))
        fun value reached after ↦ after = held ∧ start ≤ reached ∧ True := by
    intro call answer hcall
    refine respects_touch_bind hurbHandle Nat.zero_lt_one (respects_release_bind hurb ?_)
    rw [hfreshReached.restore]
    exact respects_release_bind hlist (respects_pure ⟨hfresh.restore .pool _, hcall, trivial⟩)
  dsimp only
  split
  · exact hfreed (by omega)
  refine (neutral_submitUrbSync (hfreshReached.update .urb 1) hurbHandle hurb).bind ?_
  rintro answer answered _ ⟨rfl, hanswered, -⟩
  split
  · exact hfreed (by omega)
  refine (neutral_findReadPipe hurbList hurb 0 _ false (by omega)).bind ?_
  rintro isFound found _ ⟨rfl, hfound, -⟩
  exact hfreed (by omega)

/-- A descriptor that is handed over is new and has room for what is read of it. -/
theorem respects_getUsbConfigurationDescriptor (hkernel : kernel.KeepsLengths)
    (hfresh : Fresh held start) (hhandle : held handle = some 1) :
    Respects (getUsbConfigurationDescriptor kernel handle) start held fun value reached after ↦
      start ≤ reached ∧ (value.2 = none ∧ after = held ∨
        ∃ call capacity configuration, value.2 = some ((Kind.pool, call), configuration) ∧
          start ≤ call ∧ call < reached ∧
          after = Function.update held (Kind.pool, call) (some capacity) ∧
          9 ≤ capacity ∧ configuration.totalLength.toNat ≤ capacity) := by
  refine (neutral_request hfresh hhandle).bind ?_
  rintro ⟨status, _ | answer⟩ reached _ ⟨rfl, hreached, -⟩
  · exact respects_pure ⟨hreached, .inl ⟨rfl, rfl⟩⟩
  dsimp only
  split
  · exact respects_pure ⟨hreached, .inl ⟨rfl, rfl⟩⟩
  have hnext := hfresh.mono (show start ≤ reached + 1 by omega)
  obtain ⟨hhead, htotal⟩ := hkernel reached
  refine respects_nextCall_bind (respects_allocate_bind hnext ?_ ?_)
  · exact respects_pure ⟨by omega, .inl ⟨rfl, rfl⟩⟩
  refine (neutral_request (hnext.update .pool _) (hnext.update_of_held hhandle .pool _)).bind ?_
  rintro ⟨_, _ | _⟩ last _ ⟨rfl, hlast, -⟩
  · exact respects_pure ⟨by omega, .inr
      ⟨reached + 1, _, _, rfl, by omega, by omega, rfl, hhead, htotal⟩⟩
  · exact respects_pure ⟨by omega, .inr
      ⟨reached + 1, _, _, rfl, by omega, by omega, rfl, hhead, htotal⟩⟩

/-- At most one descriptor is left for the cleanup. -/
theorem respects_inspectConfigurations (hkernel : kernel.KeepsLengths) (hfresh : Fresh held start)
    (hhandle : held handle = some 1) (remaining : ℕ) (status : NtStatus) :
    Respects (inspectConfigurations kernel handle remaining status) start held
      fun value reached after ↦ start ≤ reached ∧ (value.2 = none ∧ after = held ∨
        ∃ call capacity, value.2 = some (Kind.pool, call) ∧ start ≤ call ∧
          after = Function.update held (Kind.pool, call) (some capacity)) := by
  induction remaining generalizing status start with
  | zero => exact respects_pure ⟨Nat.le_refl start, .inl ⟨rfl, rfl⟩⟩
  | succ remaining ih =>
    refine (respects_getUsbConfigurationDescriptor hkernel hfresh hhandle).bind ?_
    rintro ⟨answer, _⟩ reached _ ⟨hreached, ⟨rfl, rfl⟩ |
      ⟨call, capacity, configuration, rfl, hcall, hbefore, rfl, hhead, htotal⟩⟩
    · exact respects_pure ⟨hreached, .inl ⟨rfl, rfl⟩⟩
    dsimp only
    split
    · exact respects_pure ⟨hreached, .inr ⟨call, capacity, rfl, hcall, rfl⟩⟩
    have hnew := hfresh.mono hcall
    have hheld : Function.update held (Kind.pool, call) (some capacity) (Kind.pool, call) =
        some capacity :=
      Function.update_self ..
    have hafter := (hnew.update .pool capacity).mono hbefore
    -- The descriptor is freed, and the next configuration is looked at.
    have hrest : ∀ {later : ℕ} (answer : NtStatus), start ≤ later →
        Respects (free (Kind.pool, call) >>= fun _ ↦
          inspectConfigurations kernel handle remaining answer) later
          (Function.update held (Kind.pool, call) (some capacity)) fun value last after ↦
            start ≤ last ∧ (value.2 = none ∧ after = held ∨
              ∃ call capacity, value.2 = some (Kind.pool, call) ∧ start ≤ call ∧
                after = Function.update held (Kind.pool, call) (some capacity)) := by
      intro later answer hlater
      refine respects_release_bind hheld ?_
      rw [hnew.restore]
      refine (ih (hfresh.mono hlater) answer).mono ?_
      rintro value last after ⟨hlast, hnone | ⟨call, capacity, hvalue, hcall, hupdate⟩⟩
      · exact ⟨by omega, .inl hnone⟩
      · exact ⟨by omega, .inr ⟨call, capacity, hvalue, by omega, hupdate⟩⟩
    refine respects_parse_bind ⟨capacity, hheld, hhead, htotal⟩ fun isMassStorage ↦ ?_
    split
    · refine (neutral_selectUsbReadConfiguration (hafter.mono (Nat.le_succ _))
        (hnew.update_of_held hhandle .pool _) ⟨capacity, hheld, hhead, htotal⟩).bind ?_
      rintro selected last _ ⟨rfl, hlast, -⟩
      exact hrest selected (by omega)
    · exact hrest answer (by omega)

/-- The handle and the descriptor that is left are freed in each case, and the device is allowed. -/
theorem neutral_inspectUsbDevice (hkernel : kernel.KeepsLengths) (hfresh : Fresh held start)
    (driverDevice targetDevice : Option DeviceObject) :
    Neutral (inspectUsbDevice kernel driverDevice targetDevice false) start held
      fun value ↦ value.2 = (driverDevice.isSome && targetDevice.isSome) := by
  unfold Neutral inspectUsbDevice
  split_ifs with hnull
  · refine respects_pure ⟨rfl, Nat.le_refl start, ?_⟩
    rcases hnull with rfl | rfl
    · rfl
    · rw [Option.isSome_none, Bool.and_false]
  have hallowed : true = (driverDevice.isSome && targetDevice.isSome) := by
    rw [not_or] at hnull
    rw [Option.isSome_iff_ne_none.mpr hnull.1, Option.isSome_iff_ne_none.mpr hnull.2, Bool.and_self]
  refine respects_allocateWithStatus_bind hfresh (fun status ↦ ?_) fun status ↦ ?_
  · exact respects_pure ⟨rfl, by omega, hallowed⟩
  have hhandle : Function.update held (Kind.handle, start) (some 1) (Kind.handle, start) = some 1 :=
    Function.update_self ..
  have hnext := hfresh.update .handle 1
  have hclosed : ∀ {call : ℕ} {status : NtStatus}, start ≤ call →
      Respects (free (Kind.handle, start) >>= fun _ ↦
        (pure (status, true) : Driver (NtStatus × Bool))) call
        (Function.update held (Kind.handle, start) (some 1)) fun value reached after ↦
          after = held ∧ start ≤ reached ∧
            value.2 = (driverDevice.isSome && targetDevice.isSome) :=
    fun hcall ↦ respects_release_bind hhandle
      (respects_pure ⟨hfresh.restore .handle _, hcall, hallowed⟩)
  dsimp only
  split
  · exact hclosed (by omega)
  refine (neutral_getUsbDeviceDescriptor hnext hhandle).bind ?_
  rintro ⟨answer, count⟩ reached _ ⟨rfl, hreached, -⟩
  dsimp only
  split
  · exact hclosed (by omega)
  refine (respects_inspectConfigurations hkernel (hnext.mono hreached) hhandle _ _).bind ?_
  rintro ⟨inspected, _⟩ last _ ⟨hlast, ⟨rfl, rfl⟩ | ⟨call, capacity, rfl, hcall, rfl⟩⟩
  · exact hclosed (by omega)
  have hdistinct : ((Kind.handle, start) : Thing) ≠ (Kind.pool, call) := nofun
  refine respects_release_bind (by rw [Function.update_of_ne hdistinct, hhandle]) ?_
  rw [Function.update_comm hdistinct.symm, hfresh.restore]
  exact respects_release_bind (Function.update_self ..) <|
    respects_pure ⟨(hfresh.mono (by omega)).restore .pool _, by omega, hallowed⟩

end Configurations

section Relations

variable {kernel : Kernel} {start : ℕ} {held : Holdings Thing}

theorem neutral_inspectAll (hkernel : kernel.KeepsLengths) (hfresh : Fresh held start)
    (driverDevice : Option DeviceObject) {relations allowDeviceList : Thing} {capacity : ℕ}
    (hrelations : held relations = some capacity) (hlist : held allowDeviceList = some capacity)
    (index : ℕ) (targets : List (Option DeviceObject))
    (hindex : index + targets.length ≤ capacity) :
    Neutral (inspectAll kernel driverDevice relations allowDeviceList index targets) start held
      fun allowed ↦ allowed = targets.map fun target ↦ driverDevice.isSome && target.isSome := by
  induction targets generalizing index start with
  | nil => exact respects_pure ⟨rfl, Nat.le_refl start, rfl⟩
  | cons target targets ih =>
    rw [List.length_cons] at hindex
    refine respects_touch_bind hrelations (by omega) (respects_touch_bind hlist (by omega) ?_)
    refine (neutral_inspectUsbDevice hkernel hfresh driverDevice target).bind ?_
    rintro ⟨status, allow⟩ reached _ ⟨rfl, hreached, hallow⟩
    refine respects_touch_bind hlist (by omega) ?_
    refine (ih (hfresh.mono hreached) (index + 1) (by omega)).bind ?_
    rintro rest last _ ⟨rfl, hlast, hrest⟩
    refine respects_pure ⟨rfl, by omega, ?_⟩
    rw [List.map_cons, ← hrest]
    exact congrArg (· :: rest) hallow

/-- The devices that are kept fit in the new list. -/
theorem neutral_rebuild {relations allowDeviceList newRelations : Thing} {capacity room : ℕ}
    (hrelations : held relations = some capacity) (hlist : held allowDeviceList = some capacity)
    (hnew : held newRelations = some room) (index newIndex : ℕ)
    (targets : List (Option DeviceObject × Bool)) (hindex : index + targets.length ≤ capacity)
    (hroom : newIndex + (targets.filter Prod.snd).length ≤ room) :
    Neutral (rebuild relations allowDeviceList newRelations index newIndex targets) start held
      fun kept ↦ kept = (targets.filter Prod.snd).map Prod.fst := by
  induction targets generalizing index newIndex with
  | nil => exact respects_pure ⟨rfl, Nat.le_refl start, rfl⟩
  | cons head targets ih =>
    obtain ⟨target, allow⟩ := head
    rw [List.length_cons] at hindex
    refine respects_touch_bind hlist (by omega) ?_
    dsimp only
    split
    next hallow =>
      subst hallow
      rw [List.filter_cons_of_pos rfl, List.length_cons] at hroom
      refine respects_touch_bind hrelations (by omega) (respects_touch_bind hnew (by omega) ?_)
      refine (ih (index + 1) (newIndex + 1) (by omega) (by omega)).bind ?_
      rintro rest last _ ⟨rfl, hlast, rfl⟩
      exact respects_pure ⟨rfl, hlast, by rw [List.filter_cons_of_pos rfl, List.map_cons]⟩
    next hallow =>
      rw [List.filter_cons_of_neg hallow] at hroom ⊢
      exact ih (index + 1) newIndex (by omega) hroom

/-- What the packet holds afterwards, and what the driver holds then: all as before, or a new list
of the devices that are there in place of the old one. -/
def Filtered (irp : RelationsIrp) (held : Holdings Thing)
    (result : Option (Thing × List (Option DeviceObject))) (after : Holdings Thing) : Prop :=
  result = irp.information ∧ after = held ∨
    ∃ relations devices newRelations capacity, irp.information = some (relations, devices) ∧
      none ∈ devices ∧ result = some (newRelations, devices.filter Option.isSome) ∧
      held newRelations = none ∧
      after = Function.update (Function.update held newRelations (some capacity)) relations none

theorem filter_zip_isSome (devices : List (Option DeviceObject)) :
    ((devices.zip (devices.map Option.isSome)).filter Prod.snd).map Prod.fst =
      devices.filter Option.isSome := by
  rw [← List.map_prod_left_eq_zip, List.filter_map, List.map_map]
  exact List.map_id _

/-- Whatever the kernel and the devices answer, as long as no configuration descriptor is shorter
than its head or longer than the device has announced: the driver touches nothing that it does not
hold, releases everything once, and hands on every device that is there. -/
theorem filtered_of_postProcessing {kernel : Kernel} (hkernel : kernel.KeepsLengths)
    (device : DeviceObject) {irp : RelationsIrp} {start : ℕ} {held : Holdings Thing}
    (hfresh : Fresh held start)
    (hheld : ∀ relations devices, irp.information = some (relations, devices) →
      held relations = some devices.length) :
    Respects (postProcessing kernel (some device) irp) start held
      fun result _ after ↦ Filtered irp held result after := by
  unfold postProcessing
  split
  next hnone => exact respects_pure (.inl ⟨hnone.symm, rfl⟩)
  next relations devices hinformation =>
    split_ifs with hskips
    · exact respects_pure (.inl ⟨rfl, rfl⟩)
    have hrelations := hheld relations devices hinformation
    refine respects_allocate_bind hfresh (respects_pure (.inl ⟨rfl, rfl⟩)) ?_
    have hlist : Function.update held (Kind.pool, start) (some devices.length)
        (Kind.pool, start) = some devices.length :=
      Function.update_self ..
    have hnext := hfresh.update .pool devices.length
    have hkept := hfresh.update_of_held hrelations .pool (some devices.length)
    refine (neutral_inspectAll hkernel hnext (some device) hkept hlist 0 devices (by omega)).bind ?_
    rintro allowed reached _ ⟨rfl, hreached, hallowed⟩
    obtain rfl : allowed = devices.map Option.isSome := hallowed
    have hcount : (devices.map Option.isSome).count true =
        (devices.filter Option.isSome).length := by
      rw [← List.countP_eq_length_filter, List.count, List.countP_map]
      exact List.countP_congr fun device _ ↦ by simp
    dsimp only
    split
    next hall =>
      exact respects_release_bind hlist (respects_pure (.inl ⟨rfl, hfresh.restore .pool _⟩))
    next hall =>
      have hnull : none ∈ devices := by
        by_contra hnull
        refine hall (hcount.trans (congrArg List.length (List.filter_eq_self.mpr ?_)))
        exact fun target htarget ↦ Option.isSome_iff_ne_none.mpr fun heq ↦ hnull (heq ▸ htarget)
      have hroom : (devices.filter Option.isSome).length ≤
          (if 0 < (devices.map Option.isSome).count true then
            (devices.map Option.isSome).count true - 1 else 0) + 1 := by
        rw [← hcount]
        split <;> omega
      generalize (if 0 < (devices.map Option.isSome).count true then
        (devices.map Option.isSome).count true - 1 else 0) + 1 = room at hroom ⊢
      have hlater := hnext.mono hreached
      refine respects_allocate_bind hlater ?_ ?_
      · exact respects_release_bind hlist (respects_pure (.inl ⟨rfl, hfresh.restore .pool _⟩))
      refine (neutral_rebuild (hlater.update_of_held hkept _ _) (hlater.update_of_held hlist _ _)
        (Function.update_self ..) 0 0 (devices.zip (devices.map Option.isSome)) ?_ ?_).bind ?_
      · simp
      · rw [Nat.zero_add, ← List.length_map Prod.fst, filter_zip_isSome]
        exact hroom
      rintro kept last _ ⟨rfl, hlast, rfl⟩
      have hold : relations ≠ (Kind.pool, start) := by
        rintro rfl
        rw [hfresh .pool start (Nat.le_refl start)] at hrelations
        exact nomatch hrelations
      have hnew : ((Kind.pool, reached) : Thing) ≠ (Kind.pool, start) := fun heq ↦
        absurd (congrArg Prod.snd heq) (by dsimp only; omega)
      refine respects_release_bind (hlater.update_of_held hkept _ _) ?_
      refine respects_release_bind
        ((Function.update_of_ne hold.symm _ _).trans (hlater.update_of_held hlist _ _)) ?_
      refine respects_pure (.inr ⟨relations, devices, _, room, hinformation, hnull, ?_,
        hfresh .pool reached (by omega), ?_⟩)
      · rw [filter_zip_isSome]
      · rw [Function.update_comm hold, Function.update_comm hnew, hfresh.restore]

/-- A hub with one stick that answers everything, and an entry without a device. -/
def stickKernel : Kernel where
  grants _ := true
  status _ := statusSuccess
  numConfigurations _ := 1
  announced _ := 32
  configuration _ := ⟨32, 1⟩
  finds _ := true
  pipes _ := some [⟨.bulk, false⟩, ⟨.bulk, true⟩]

def hubIrp : RelationsIrp where
  pendingReturned := false
  atPassiveLevel := true
  status := statusSuccess
  information := some ((.pool, 0), [some 1, none])

def hubHoldings : Holdings Thing :=
  Function.update (fun _ ↦ none) (.pool, 0) (some 2)

theorem filtered_of_postProcessing_stick :
    Respects (postProcessing stickKernel (some 0) hubIrp) 1 hubHoldings
      fun result _ after ↦ Filtered hubIrp hubHoldings result after := by
  refine filtered_of_postProcessing (fun _ ↦ ?_) 0 ?_ ?_
  · show 9 ≤ (32 : UInt16).toNat ∧ (32 : UInt16).toNat ≤ (32 : UInt16).toNat
    decide
  · intro kind later hlater
    have hdistinct : ((kind, later) : Thing) ≠ (Kind.pool, 0) := fun heq ↦
      absurd (congrArg Prod.snd heq) (by dsimp only; omega)
    exact Function.update_of_ne hdistinct _ _
  · rintro _ _ ⟨⟩
    rfl

/-- A stick that sends a longer configuration descriptor than it has announced. -/
def longKernel : Kernel :=
  { stickKernel with configuration := fun _ ↦ ⟨64, 1⟩ }

/-- The driver then reads behind the descriptor. -/
theorem not_respects_longKernel {post : Option (Thing × List (Option DeviceObject)) → ℕ →
    Holdings Thing → Prop} :
    ¬ Respects (postProcessing longKernel (some 0) hubIrp) 1 hubHoldings post := by
  rintro ⟨_, after, -, hafter, -⟩
  have hunsafe : (holdingsAfter hubHoldings
      ((postProcessing longKernel (some 0) hubIrp).run 1).trace).isNone = true := by
    decide
  rw [hafter] at hunsafe
  exact nomatch hunsafe

end Relations

end Keysas.UsbFilter
