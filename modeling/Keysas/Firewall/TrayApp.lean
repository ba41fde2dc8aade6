import Keysas.Firewall.FileFilter
import Keysas.Firewall.UsbGrantSoundness
import Keysas.Rust.JsonWriter

/-!
# The tray application

The tray application of the user asks the daemon from time to time for the list of the USB devices,
which comes as a JSON text, takes it over into its store, and builds its menu anew from the store.
Each device has an item in the menu, and a device that is not allowed has another one to authorize
it. Choosing it asks the daemon to override the block. Meanwhile the daemon goes on with its own
operations, so that the menu is that of an earlier moment.

`menu_of_run` says which moment: in every run the menu offers what the daemon had in its tables at
one of the polls before. `clicks_of_run` says what choosing an item does: the application asks for
the very device for which the item was made, which the daemon did not allow at that poll, and the
daemon overrides nothing that is not blocked now.
-/

set_option autoImplicit false
set_option relaxedAutoImplicit false

namespace Keysas.Firewall.Tray

open Crypto Keys Runs RustStd SerdeJson Store

/-! ### The list of the devices -/

/-- A device as it is listed: its node, its mount point, its name and its authorization. -/
structure ListedUsb where
  device : String
  path : String
  name : String
  authorization : UInt8
  deriving DecidableEq

/-- `list_usb_devices`, on the entries of the two tables in the orders of iteration. -/
def listUsbDevices (unmounted mounted : List UsbDevicePolicy) : List ListedUsb :=
  unmounted.map (fun usb ↦
    { device := usb.device.deviceId.toStringLossy
      path := ""
      name := usb.device.getName
      authorization := UInt8.ofNat usb.auth.asU8 }) ++
  mounted.map fun usb ↦
    { device := usb.device.deviceId.toStringLossy
      path := (usb.device.mntPoint.map OsString.toStringLossy).getD ""
      name := usb.device.getName
      authorization := UInt8.ofNat usb.auth.asU8 }

/-- The writer of a tuple of the list. -/
def ListedUsb.serialize (usb : ListedUsb) : Json :=
  .array [.string (some usb.device), .string (some usb.path), .string (some usb.name),
    .unsigned usb.authorization.toUInt64]

/-- The reader of a tuple of the list. -/
def ListedUsb.deserialize : Json → Option ListedUsb
  | .array [device, path, name, authorization] => do
    return ⟨← text device, ← text path, ← text name, ← SerdeJson.u8 authorization⟩
  | _ => none

/-- `get_usb_list`: the list as a JSON text. -/
def getUsbList (unmounted mounted : List UsbDevicePolicy) : String :=
  toText (.array ((listUsbDevices unmounted mounted).map ListedUsb.serialize))

/-- The reader of the list. -/
def readUsbList (json : String) : Option (List ListedUsb) :=
  (fromStr json).bind (vector ListedUsb.deserialize)

theorem ListedUsb.deserialize_serialize (usb : ListedUsb) :
    deserialize usb.serialize = some usb := by
  show (SerdeJson.u8 (.unsigned usb.authorization.toUInt64)).bind
    (fun authorization ↦ some { usb with authorization := authorization }) = some usb
  rw [u8_unsigned, Option.bind_some]

/-- The list is read as it was written. -/
theorem readUsbList_getUsbList (unmounted mounted : List UsbDevicePolicy) :
    readUsbList (getUsbList unmounted mounted) = some (listUsbDevices unmounted mounted) := by
  have hwritten : Written 127
      (.array ((listUsbDevices unmounted mounted).map ListedUsb.serialize)) := by
    refine .array fun item hitem ↦ ?_
    obtain ⟨usb, -, rfl⟩ := List.mem_map.mp hitem
    refine @Written.array 125 _ ?_
    simp only [List.forall_mem_cons, List.not_mem_nil, false_imp_iff, implies_true, and_true]
    exact ⟨.string _ _, .string _ _, .string _ _, .unsigned _ _⟩
  rw [readUsbList, getUsbList, fromStr_toText hwritten, Option.bind_some]
  exact vector_map ListedUsb.deserialize_serialize _

/-! ### The store -/

/-- `UsbDevice` of the store. -/
structure TrayDevice where
  id : String
  name : String
  path : String
  authorization : UInt8
  deriving DecidableEq

/-- The authorization that is read from a number of the list. -/
def authorizationOf (number : UInt8) : UsbAuthorization :=
  if number = 0 then .pending
  else if number = 1 then .block
  else if number = 2 then .allowRead
  else if number = 3 then .allowRW
  else .allowAll

/-- `set_usb_list`: what the store holds after a list was read. -/
def storeOf (listed : List ListedUsb) : List TrayDevice :=
  listed.map fun usb ↦
    { id := usb.device
      name := usb.name
      path := usb.path
      authorization := UInt8.ofNat (authorizationOf usb.authorization).asU8 }

/-- An authorization is read as it was written. -/
theorem authorizationOf_asU8 (auth : UsbAuthorization) :
    authorizationOf (UInt8.ofNat auth.asU8) = auth := by
  cases auth <;> decide

/-- `get_device`. -/
def getDevice (devices : List TrayDevice) (deviceId : String) : Option TrayDevice :=
  devices.find? fun device ↦ device.id == deviceId

/-! ### The menu -/

/-- An item of the menu. -/
inductive MenuItem where
  | item (id label : String)
  /-- An item that cannot be chosen. -/
  | disabled (label : String)
  | separator
  deriving DecidableEq

/-- The identifier of an item that can be chosen. -/
def MenuItem.id : MenuItem → Option String
  | .item id _ => some id
  | .disabled _ | .separator => none

/-- The items of a device. -/
def deviceItems (device : TrayDevice) : List MenuItem :=
  if device.authorization ≤ 1 then
    [.item ("device:" ++ device.id) ("✗  " ++ device.name),
      .item ("authorize:" ++ device.id) "    Autoriser"]
  else [.item ("device:" ++ device.id) ("✓  " ++ device.name)]

/-- `build_usb_menu`. -/
def buildUsbMenu (devices : List TrayDevice) : List MenuItem :=
  (if devices.isEmpty then [.disabled "Aucun périphérique USB"]
    else devices.flatMap deviceItems) ++ [.separator, .item "quit" "Quitter"]

/-- The identifiers of the items that can be chosen. -/
def menuIds (menu : List MenuItem) : List String :=
  menu.filterMap MenuItem.id

/-- What is chosen with an item. -/
inductive Choice where
  | quit
  | authorize (deviceId : String)
  | device (deviceId : String)
  | nothing
  deriving DecidableEq

/-- The order in which `on_menu_event` tells the identifiers apart. -/
def choiceOf (id : String) : Choice :=
  if id = "quit" then .quit
  else
    match stripPrefix "authorize:" id with
    | some deviceId => .authorize deviceId
    | none =>
      match stripPrefix "device:" id with
      | some deviceId => .device deviceId
      | none => .nothing

/-- A text that begins with one of two words that differ in their first characters does not begin
with the other. -/
theorem stripPrefix_eq_none {first second : String} {rest : String} {one other : Char}
    (hfirst : first.toList.head? = some one) (hsecond : second.toList.head? = some other)
    (hne : one ≠ other) : stripPrefix first (second ++ rest) = none := by
  rw [Option.eq_none_iff_forall_ne_some]
  intro found hfound
  have htext := congrArg (fun text : String ↦ text.toList.head?) (stripPrefix_eq_some_iff.mp hfound)
  simp only [String.toList_append, List.head?_append, hfirst, hsecond, Option.some_or,
    Option.some.injEq] at htext
  exact hne htext.symm

/-- A text that begins with another character than a word is not the word. -/
theorem append_ne_of_head {word first : String} {rest : String} {one other : Char}
    (hword : word.toList.head? = some one) (hfirst : first.toList.head? = some other)
    (hne : one ≠ other) : first ++ rest ≠ word := by
  intro hsame
  have hhead := congrArg (fun text : String ↦ text.toList.head?) hsame
  simp only [String.toList_append, List.head?_append, hfirst, hword, Option.some_or,
    Option.some.injEq] at hhead
  exact hne hhead.symm

/-- The item that authorizes a device is told apart, whatever the identifier of the device is. -/
theorem choiceOf_authorize (deviceId : String) :
    choiceOf ("authorize:" ++ deviceId) = .authorize deviceId := by
  have hquit : "authorize:" ++ deviceId ≠ "quit" :=
    @append_ne_of_head _ _ _ 'q' 'a' (by decide) (by decide) (by decide)
  have hstrip : stripPrefix "authorize:" ("authorize:" ++ deviceId) = some deviceId :=
    stripPrefix_eq_some_iff.mpr rfl
  rw [choiceOf, if_neg hquit, hstrip]

/-- The item of a device is told apart, whatever the identifier of the device is. -/
theorem choiceOf_device (deviceId : String) :
    choiceOf ("device:" ++ deviceId) = .device deviceId := by
  have hquit : "device:" ++ deviceId ≠ "quit" :=
    @append_ne_of_head _ _ _ 'q' 'd' (by decide) (by decide) (by decide)
  have hauthorize : stripPrefix "authorize:" ("device:" ++ deviceId) = none :=
    @stripPrefix_eq_none _ _ _ 'a' 'd' (by decide) (by decide) (by decide)
  have hstrip : stripPrefix "device:" ("device:" ++ deviceId) = some deviceId :=
    stripPrefix_eq_some_iff.mpr rfl
  rw [choiceOf, if_neg hquit, hauthorize, hstrip]

theorem mem_menuIds_deviceItems {device : TrayDevice} {id : String} :
    id ∈ menuIds (deviceItems device) ↔
      id = "device:" ++ device.id ∨
        (id = "authorize:" ++ device.id ∧ device.authorization ≤ 1) := by
  unfold deviceItems
  split_ifs with hauthorization
  · simp [menuIds, MenuItem.id, hauthorization]
  · simp [menuIds, MenuItem.id, hauthorization]

theorem menuIds_append (first second : List MenuItem) :
    menuIds (first ++ second) = menuIds first ++ menuIds second :=
  List.filterMap_append

/-- What can be chosen in a menu. -/
theorem mem_menuIds_buildUsbMenu {devices : List TrayDevice} {id : String} :
    id ∈ menuIds (buildUsbMenu devices) ↔
      id = "quit" ∨ ∃ device ∈ devices, id = "device:" ++ device.id ∨
        (id = "authorize:" ++ device.id ∧ device.authorization ≤ 1) := by
  have hdevices : id ∈ menuIds (devices.flatMap deviceItems) ↔
      ∃ device ∈ devices, id = "device:" ++ device.id ∨
        (id = "authorize:" ++ device.id ∧ device.authorization ≤ 1) := by
    induction devices with
    | nil => simp [menuIds]
    | cons device devices ih =>
      rw [List.flatMap_cons, menuIds_append, List.mem_append, mem_menuIds_deviceItems, ih,
        List.exists_mem_cons_iff]
  have hlast : menuIds [.separator, .item "quit" "Quitter"] = ["quit"] := rfl
  rw [buildUsbMenu, menuIds_append, hlast, List.mem_append, List.mem_singleton, or_comm]
  refine or_congr_right ?_
  cases devices with
  | nil => simp [menuIds, MenuItem.id]
  | cons device devices => exact hdevices

/-- The menu offers to authorize a device. -/
def Offers (menu : List MenuItem) (deviceId : String) : Prop :=
  "authorize:" ++ deviceId ∈ menuIds menu

/-- The menu shows a device. -/
def Shows (menu : List MenuItem) (deviceId : String) : Prop :=
  "device:" ++ deviceId ∈ menuIds menu

/-- The choices of a menu are to quit, and those for the devices that it shows and offers. -/
theorem choiceOf_of_mem {devices : List TrayDevice} {id : String}
    (hid : id ∈ menuIds (buildUsbMenu devices)) :
    choiceOf id = .quit ∨
      (∃ deviceId, choiceOf id = .device deviceId ∧ Shows (buildUsbMenu devices) deviceId) ∨
      ∃ deviceId, choiceOf id = .authorize deviceId ∧ Offers (buildUsbMenu devices) deviceId := by
  rcases mem_menuIds_buildUsbMenu.mp hid with rfl | ⟨device, -, rfl | ⟨rfl, -⟩⟩
  · exact .inl (by decide)
  · exact .inr (.inl ⟨device.id, choiceOf_device _, hid⟩)
  · exact .inr (.inr ⟨device.id, choiceOf_authorize _, hid⟩)

/-- A menu offers the devices that are not allowed. -/
theorem offers_iff {devices : List TrayDevice} {deviceId : String} :
    Offers (buildUsbMenu devices) deviceId ↔
      ∃ device ∈ devices, device.id = deviceId ∧ device.authorization ≤ 1 := by
  have hdevice : ∀ other, "authorize:" ++ deviceId ≠ "device:" ++ other := by
    intro other hsame
    have hchoice := choiceOf_authorize deviceId
    rw [hsame, choiceOf_device] at hchoice
    cases hchoice
  have hquit : "authorize:" ++ deviceId ≠ "quit" := by
    intro hsame
    have hchoice := choiceOf_authorize deviceId
    rw [hsame, choiceOf, if_pos rfl] at hchoice
    cases hchoice
  rw [Offers, mem_menuIds_buildUsbMenu, or_iff_right hquit]
  refine exists_congr fun device ↦ and_congr_right fun _ ↦ ?_
  rw [or_iff_right (hdevice device.id), String.append_right_inj, eq_comm]

/-- A menu shows all devices. -/
theorem shows_iff {devices : List TrayDevice} {deviceId : String} :
    Shows (buildUsbMenu devices) deviceId ↔ ∃ device ∈ devices, device.id = deviceId := by
  have hauthorize : ∀ other, "device:" ++ deviceId ≠ "authorize:" ++ other := by
    intro other hsame
    have hchoice := choiceOf_device deviceId
    rw [hsame, choiceOf_authorize] at hchoice
    cases hchoice
  have hquit : "device:" ++ deviceId ≠ "quit" := by
    intro hsame
    have hchoice := choiceOf_device deviceId
    rw [hsame, choiceOf, if_pos rfl] at hchoice
    cases hchoice
  rw [Shows, mem_menuIds_buildUsbMenu, or_iff_right hquit]
  refine exists_congr fun device ↦ and_congr_right fun _ ↦ ?_
  rw [or_iff_left fun hboth ↦ hauthorize device.id hboth.1, String.append_right_inj, eq_comm]

/-! ### The application and the daemon -/

variable {schemes : Schemes}

variable (schemes) in
/-- The daemon, and the store and the menu of the application. -/
structure Desk where
  controller : ServiceController schemes
  devices : List TrayDevice
  menu : List MenuItem

/-- Both have just started. -/
def Desk.init (policy : SecurityPolicy) (usbCaPub : KeysasHybridPubKeys schemes) :
    Desk schemes where
  controller := .init policy usbCaPub
  devices := []
  menu := buildUsbMenu []

/-- How the calls go that an override makes. -/
structure OverrideCalls where
  /-- The daemon is reached. -/
  connects : Bool
  /-- The sysfs attribute can be written. -/
  writeSucceeds : Bool
  /-- The menu can be built anew. -/
  rebuilds : Bool
  deriving DecidableEq

/-- What happens. -/
inductive DeskEvent where
  /-- The daemon goes on. -/
  | daemon (operation : Operation)
  /-- A poll that gets the list, and whether the menu can be built anew. -/
  | poll (unmounted mounted : List UsbDevicePolicy) (rebuilds : Bool)
  /-- An item of the menu is chosen. -/
  | click (id : String) (calls : OverrideCalls)
  /-- The window asks for an override. -/
  | overrideUsb (deviceId : String) (calls : OverrideCalls)

/-- What the application does. -/
inductive DeskResponse where
  | nothing
  /-- It asks the daemon to override a block. There is no answer when the daemon is not reached. -/
  | overridden (deviceId : String) (answer : Option (Except UsbError Unit))
  /-- It opens the window for a device, which is shown when the store has it. -/
  | opened (deviceId : String) (device : Option TrayDevice)
  | quit

/-- `rebuild_tray_menu`. -/
def Desk.rebuildTrayMenu (desk : Desk schemes) (rebuilds : Bool) : Desk schemes :=
  if rebuilds then { desk with menu := buildUsbMenu desk.devices } else desk

/-- `allow_usb`, with the menu built anew when the daemon agrees. -/
def Desk.allowUsb (desk : Desk schemes) (deviceId : String) (calls : OverrideCalls) :
    Desk schemes × DeskResponse :=
  if calls.connects then
    let ending := (overrideBlockedUsb deviceId calls.writeSucceeds).run desk.controller
    let after := { desk with controller := ending.state }
    match ending.value with
    | .ok () => (after.rebuildTrayMenu calls.rebuilds, .overridden deviceId (some (.ok ())))
    | .error error => (after, .overridden deviceId (some (.error error)))
  else (desk, .overridden deviceId none)

/-- One event. A poll that does not get the list leaves everything as it is. -/
def Desk.step (desk : Desk schemes) : DeskEvent → Desk schemes × DeskResponse
  | .daemon operation =>
    ({ desk with controller := (operate desk.controller operation).1 }, .nothing)
  | .poll unmounted mounted rebuilds =>
    match readUsbList (getUsbList unmounted mounted) with
    | some listed =>
      ({ desk with devices := storeOf listed }.rebuildTrayMenu rebuilds, .nothing)
    | none => (desk, .nothing)
  | .click id calls =>
    match choiceOf id with
    | .quit => (desk, .quit)
    | .authorize deviceId => desk.allowUsb deviceId calls
    | .device deviceId => (desk, .opened deviceId (getDevice desk.devices deviceId))
    | .nothing => (desk, .nothing)
  | .overrideUsb deviceId calls => desk.allowUsb deviceId calls

/-- A poll lists the entries of the two tables in some order, and only items of the menu can be
chosen. -/
def Allowed (_ : List (DeskEvent × DeskResponse)) (desk : Desk schemes) : DeskEvent → Prop
  | .poll unmounted mounted _ =>
    unmounted.Perm (desk.controller.unmountedUsb.entries.map Sigma.snd) ∧
      mounted.Perm (desk.controller.mountedUsb.entries.map Sigma.snd)
  | .click id _ => id ∈ menuIds desk.menu
  | .daemon _ | .overrideUsb _ _ => True

/-- The runs of the two from their start. -/
def IsRun (policy : SecurityPolicy) (usbCaPub : KeysasHybridPubKeys schemes) :
    List (DeskEvent × DeskResponse) → Desk schemes → Prop :=
  Run Desk.step Allowed (Desk.init policy usbCaPub)

/-- A device of the daemon, mounted or not. -/
def InTables (controller : ServiceController schemes) (entry : UsbDevicePolicy) : Prop :=
  (∃ key, controller.unmountedUsb.lookup key = some entry) ∨
    ∃ key, controller.mountedUsb.lookup key = some entry

/-- The store of a poll that found the daemon in this state. -/
def PolledFrom (controller : ServiceController schemes) (devices : List TrayDevice) : Prop :=
  ∃ unmounted mounted : List UsbDevicePolicy,
    unmounted.Perm (controller.unmountedUsb.entries.map Sigma.snd) ∧
      mounted.Perm (controller.mountedUsb.entries.map Sigma.snd) ∧
      devices = storeOf (listUsbDevices unmounted mounted)

theorem mem_entries_iff {table : UsbTable} {entry : UsbDevicePolicy} :
    entry ∈ table.entries.map Sigma.snd ↔ ∃ key, table.lookup key = some entry := by
  simp only [List.mem_map, Sigma.exists, AList.mem_lookup_iff.symm, Option.mem_def]
  constructor
  · rintro ⟨key, other, hlookup, rfl⟩
    exact ⟨key, hlookup⟩
  · rintro ⟨key, hlookup⟩
    exact ⟨key, entry, hlookup, rfl⟩

/-- A number that stands for an authorization is at most one when nothing is allowed. -/
theorem asU8_le_one_iff (auth : UsbAuthorization) :
    UInt8.ofNat auth.asU8 ≤ 1 ↔ auth.isAllowing = false := by
  cases auth <;> decide

/-- The store of a poll has a device for each entry of the tables, with its node and its
authorization. -/
theorem PolledFrom.exists_device_iff {controller : ServiceController schemes}
    {devices : List TrayDevice} (hpolled : PolledFrom controller devices)
    (property : String → UInt8 → Prop) :
    (∃ device ∈ devices, property device.id device.authorization) ↔
      ∃ entry, InTables controller entry ∧
        property entry.device.deviceId.toStringLossy (UInt8.ofNat entry.auth.asU8) := by
  obtain ⟨unmounted, mounted, hunmounted, hmounted, rfl⟩ := hpolled
  have htables : ∀ entry, InTables controller entry ↔ entry ∈ unmounted ∨ entry ∈ mounted := by
    intro entry
    rw [hunmounted.mem_iff, hmounted.mem_iff, mem_entries_iff, mem_entries_iff]
    rfl
  simp only [storeOf, listUsbDevices, List.map_append, List.map_map, List.mem_append, or_and_right,
    exists_or, List.mem_map, exists_exists_and_eq_and, Function.comp_apply, authorizationOf_asU8,
    htables]

/-- The menu of a poll offers the devices that are not allowed. -/
theorem PolledFrom.offers_iff {controller : ServiceController schemes}
    {devices : List TrayDevice} (hpolled : PolledFrom controller devices) (deviceId : String) :
    Offers (buildUsbMenu devices) deviceId ↔
      ∃ entry, InTables controller entry ∧ entry.device.deviceId.toStringLossy = deviceId ∧
        entry.auth.isAllowing = false := by
  rw [Tray.offers_iff, hpolled.exists_device_iff fun id number ↦ id = deviceId ∧ number ≤ 1]
  simp only [asU8_le_one_iff]

/-- The menu of a poll shows all devices. -/
theorem PolledFrom.shows_iff {controller : ServiceController schemes}
    {devices : List TrayDevice} (hpolled : PolledFrom controller devices) (deviceId : String) :
    Shows (buildUsbMenu devices) deviceId ↔
      ∃ entry, InTables controller entry ∧ entry.device.deviceId.toStringLossy = deviceId := by
  rw [Tray.shows_iff, hpolled.exists_device_iff fun id _ ↦ id = deviceId]

/-! ### Runs -/

section Runs

variable {policy : SecurityPolicy} {usbCaPub : KeysasHybridPubKeys schemes}
  {history : List (DeskEvent × DeskResponse)} {desk : Desk schemes}

variable (policy usbCaPub) in
/-- The store is empty, or that of a poll in a history. -/
def Polled (history : List (DeskEvent × DeskResponse)) (devices : List TrayDevice) : Prop :=
  devices = [] ∨ ∃ (front : List (DeskEvent × DeskResponse)) (reached : Desk schemes),
    IsRun policy usbCaPub front reached ∧ front <+: history ∧ PolledFrom reached.controller devices

theorem Polled.append {devices : List TrayDevice}
    (hpolled : Polled policy usbCaPub history devices)
    (more : List (DeskEvent × DeskResponse)) :
    Polled policy usbCaPub (history ++ more) devices := by
  refine hpolled.imp_right ?_
  rintro ⟨front, reached, hfront, hbefore, hfrom⟩
  exact ⟨front, reached, hfront, hbefore.trans (List.prefix_append history more), hfrom⟩

/-- The store and the menu are those of polls. -/
structure AsPolled (policy : SecurityPolicy) (usbCaPub : KeysasHybridPubKeys schemes)
    (history : List (DeskEvent × DeskResponse)) (desk : Desk schemes) : Prop where
  devices : Polled policy usbCaPub history desk.devices
  menu : ∃ shown, Polled policy usbCaPub history shown ∧ desk.menu = buildUsbMenu shown

/-- An event leaves the store as it is, unless it is a poll, and the menu is as before or that of
the store. -/
theorem step_cases (desk : Desk schemes) (event : DeskEvent) :
    ((∃ unmounted mounted rebuilds, event = .poll unmounted mounted rebuilds ∧
        (desk.step event).1.devices = storeOf (listUsbDevices unmounted mounted)) ∨
      (desk.step event).1.devices = desk.devices) ∧
    ((desk.step event).1.menu = desk.menu ∨
      (desk.step event).1.menu = buildUsbMenu (desk.step event).1.devices) := by
  have hrebuild : ∀ (desk : Desk schemes) (rebuilds : Bool),
      (desk.rebuildTrayMenu rebuilds).devices = desk.devices ∧
        ((desk.rebuildTrayMenu rebuilds).menu = desk.menu ∨
          (desk.rebuildTrayMenu rebuilds).menu =
            buildUsbMenu (desk.rebuildTrayMenu rebuilds).devices) := by
    intro desk rebuilds
    cases rebuilds with
    | true => exact ⟨rfl, .inr rfl⟩
    | false => exact ⟨rfl, .inl rfl⟩
  have hallow : ∀ deviceId calls, (desk.allowUsb deviceId calls).1.devices = desk.devices ∧
      ((desk.allowUsb deviceId calls).1.menu = desk.menu ∨
        (desk.allowUsb deviceId calls).1.menu =
          buildUsbMenu (desk.allowUsb deviceId calls).1.devices) := by
    intro deviceId calls
    unfold Desk.allowUsb
    split_ifs
    · dsimp only
      split
      · exact hrebuild _ _
      · exact ⟨rfl, .inl rfl⟩
    · exact ⟨rfl, .inl rfl⟩
  cases event with
  | daemon operation => exact ⟨.inr rfl, .inl rfl⟩
  | poll unmounted mounted rebuilds =>
    rw [Desk.step, readUsbList_getUsbList]
    obtain ⟨hdevices, hmenu⟩ :=
      hrebuild { desk with devices := storeOf (listUsbDevices unmounted mounted) } rebuilds
    exact ⟨.inl ⟨unmounted, mounted, rebuilds, rfl, hdevices⟩, hmenu⟩
  | click id calls =>
    unfold Desk.step
    dsimp only
    split
    · exact ⟨.inr rfl, .inl rfl⟩
    · exact (hallow _ _).imp_left .inr
    · exact ⟨.inr rfl, .inl rfl⟩
    · exact ⟨.inr rfl, .inl rfl⟩
  | overrideUsb deviceId calls => exact (hallow deviceId calls).imp_left .inr

theorem asPolled_of_run (hrun : IsRun policy usbCaPub history desk) :
    AsPolled policy usbCaPub history desk := by
  refine Run.invariant ⟨.inl rfl, [], .inl rfl, rfl⟩ ?_ hrun
  intro history desk event hbefore hasPolled hallowed
  obtain ⟨hdevices, hmenu⟩ := step_cases desk event
  have hstore : Polled policy usbCaPub (history ++ [(event, (desk.step event).2)])
      (desk.step event).1.devices := by
    rcases hdevices with ⟨unmounted, mounted, rebuilds, rfl, hdevices⟩ | hdevices
    · exact .inr ⟨history, desk, hbefore, List.prefix_append _ _, unmounted, mounted, hallowed.1,
        hallowed.2, hdevices⟩
    · rw [hdevices]
      exact hasPolled.devices.append _
  refine ⟨hstore, ?_⟩
  rcases hmenu with hmenu | hmenu
  · obtain ⟨shown, hshown, hsame⟩ := hasPolled.menu
    exact ⟨shown, hshown.append _, hmenu.trans hsame⟩
  · exact ⟨_, hstore, hmenu⟩

variable (policy usbCaPub) in
/-- A poll of a history found a device in the tables of the daemon. -/
def Listed (history : List (DeskEvent × DeskResponse)) (deviceId : String) : Prop :=
  ∃ (front : List (DeskEvent × DeskResponse)) (reached : Desk schemes),
    IsRun policy usbCaPub front reached ∧ front <+: history ∧
      ∃ entry, InTables reached.controller entry ∧ entry.device.deviceId.toStringLossy = deviceId

variable (policy usbCaPub) in
/-- A poll of a history found a device in the tables of the daemon that was not allowed. -/
def Barred (history : List (DeskEvent × DeskResponse)) (deviceId : String) : Prop :=
  ∃ (front : List (DeskEvent × DeskResponse)) (reached : Desk schemes),
    IsRun policy usbCaPub front reached ∧ front <+: history ∧
      ∃ entry, InTables reached.controller entry ∧ entry.device.deviceId.toStringLossy = deviceId ∧
        entry.auth.isAllowing = false

variable (policy usbCaPub) in
/-- The menu is the empty one, or there was a moment in the history at which it offers the devices
that the daemon did not allow then, and shows all that it had. -/
def MenuAsOf (history : List (DeskEvent × DeskResponse)) (menu : List MenuItem) : Prop :=
  menu = buildUsbMenu [] ∨
    ∃ (front : List (DeskEvent × DeskResponse)) (reached : Desk schemes),
      IsRun policy usbCaPub front reached ∧ front <+: history ∧ ∀ deviceId,
        (Offers menu deviceId ↔
          ∃ entry, InTables reached.controller entry ∧
            entry.device.deviceId.toStringLossy = deviceId ∧ entry.auth.isAllowing = false) ∧
        (Shows menu deviceId ↔
          ∃ entry, InTables reached.controller entry ∧
            entry.device.deviceId.toStringLossy = deviceId)

/-- In every run the menu is that of an earlier moment of the daemon. -/
theorem menu_of_run (hrun : IsRun policy usbCaPub history desk) :
    MenuAsOf policy usbCaPub history desk.menu := by
  obtain ⟨shown, hshown, hmenu⟩ := (asPolled_of_run hrun).menu
  rw [hmenu]
  rcases hshown with rfl | ⟨front, reached, hreached, hbefore, hpolled⟩
  · exact .inl rfl
  · exact .inr ⟨front, reached, hreached, hbefore, fun deviceId ↦
      ⟨hpolled.offers_iff deviceId, hpolled.shows_iff deviceId⟩⟩

/-- An override that succeeds meets a device that is blocked, under a policy with overrides. -/
theorem blocked_of_overrideBlockedUsb {controller : ServiceController schemes} {deviceId : String}
    {writeSucceeds : Bool}
    (hvalue : ((overrideBlockedUsb deviceId writeSucceeds).run controller).value = .ok ()) :
    controller.policy.allowUserUsbAuthorization = true ∧
      ∃ entry, controller.unmountedUsb.lookup (.ofText deviceId) = some entry ∧
        entry.auth = .block := by
  cases hreaches : reachesWrite controller deviceId with
  | false =>
    obtain ⟨error, hrun⟩ :=
      overrideBlockedUsb_of_not_reachesWrite controller hreaches writeSucceeds
    rw [hrun] at hvalue
    cases hvalue
  | true =>
    obtain ⟨entry, -, hlookup, hblock, -⟩ :=
      overrideBlockedUsb_of_reachesWrite controller hreaches writeSucceeds
    exact ⟨(Bool.and_eq_true_iff.mp hreaches).1, entry, hlookup, hblock⟩

variable (policy usbCaPub) in
/-- What choosing an item may lead to after a history: the application quits, or opens the window
for a device that a poll found, or asks the daemon to override the block of a device that was not
allowed at a poll. The daemon agrees only when the device is blocked at that moment and the policy
lets the user override. -/
def ChosenWell (history : List (DeskEvent × DeskResponse)) (response : DeskResponse) : Prop :=
  response = .quit ∨
    (∃ deviceId device, response = .opened deviceId device ∧
      Listed policy usbCaPub history deviceId) ∨
    ∃ deviceId answer, response = .overridden deviceId answer ∧
      Barred policy usbCaPub history deviceId ∧
      (answer = some (.ok ()) → ∃ reached : Desk schemes, IsRun policy usbCaPub history reached ∧
        reached.controller.policy.allowUserUsbAuthorization = true ∧
        ∃ entry, reached.controller.unmountedUsb.lookup (.ofText deviceId) = some entry ∧
          entry.auth = .block)

/-- In every run, what choosing an item leads to is about the device for which the item was made. -/
theorem clicks_of_run (hrun : IsRun policy usbCaPub history desk)
    {front back : List (DeskEvent × DeskResponse)} {id : String} {calls : OverrideCalls}
    {response : DeskResponse} (hhistory : history = front ++ (.click id calls, response) :: back) :
    ChosenWell policy usbCaPub front response := by
  obtain ⟨reached, hreached, hid, hresponse⟩ := hrun.split hhistory
  obtain ⟨shown, hshown, hmenu⟩ := (asPolled_of_run hreached).menu
  have hchosen : id ∈ menuIds (buildUsbMenu shown) := hmenu ▸ hid
  change response = (reached.step (.click id calls)).2 at hresponse
  rw [Desk.step] at hresponse
  rcases choiceOf_of_mem hchosen with hquit | ⟨deviceId, hdevice, hshows⟩ |
    ⟨deviceId, hauthorize, hoffers⟩
  · rw [hquit] at hresponse
    exact .inl hresponse
  · rw [hdevice] at hresponse
    refine .inr (.inl ⟨deviceId, _, hresponse, ?_⟩)
    rcases hshown with rfl | ⟨earlier, polled, hpolled, hbefore, hfrom⟩
    · obtain ⟨_, ⟨⟩, -⟩ := shows_iff.mp hshows
    · exact ⟨earlier, polled, hpolled, hbefore, (hfrom.shows_iff deviceId).mp hshows⟩
  · rw [hauthorize] at hresponse
    have hbarred : Barred policy usbCaPub front deviceId := by
      rcases hshown with rfl | ⟨earlier, polled, hpolled, hbefore, hfrom⟩
      · obtain ⟨_, ⟨⟩, -⟩ := offers_iff.mp hoffers
      · exact ⟨earlier, polled, hpolled, hbefore, (hfrom.offers_iff deviceId).mp hoffers⟩
    dsimp only at hresponse
    unfold Desk.allowUsb at hresponse
    split_ifs at hresponse with hconnects
    · dsimp only at hresponse
      split at hresponse
      · next hvalue =>
        exact .inr (.inr ⟨deviceId, _, hresponse, hbarred, fun _ ↦
          ⟨reached, hreached, blocked_of_overrideBlockedUsb hvalue⟩⟩)
      · refine .inr (.inr ⟨deviceId, _, hresponse, hbarred, ?_⟩)
        rintro ⟨⟩
    · refine .inr (.inr ⟨deviceId, _, hresponse, hbarred, ?_⟩)
      rintro ⟨⟩

end Runs

/-! ### A run -/

theorem step_poll (desk : Desk schemes) (unmounted mounted : List UsbDevicePolicy)
    (rebuilds : Bool) :
    desk.step (.poll unmounted mounted rebuilds) =
      ({ desk with devices := storeOf (listUsbDevices unmounted mounted) }.rebuildTrayMenu rebuilds,
        .nothing) := by
  rw [Desk.step, readUsbList_getUsbList]

/-- An unsigned device is blocked, and the application polls the daemon. -/
def polledDesk : Desk transparentSchemes :=
  (execute Desk.step (Desk.init overridePolicy (transparentPubKeys 0))
    [.daemon (.authorizeUsb unsignedDevice none),
      .poll [⟨unsignedDevice, .block⟩] [] true]).2

/-- What has happened then. -/
def polledHistory : List (DeskEvent × DeskResponse) :=
  (execute Desk.step (Desk.init overridePolicy (transparentPubKeys 0))
    [.daemon (.authorizeUsb unsignedDevice none),
      .poll [⟨unsignedDevice, .block⟩] [] true]).1

theorem isRun_polled : IsRun overridePolicy (transparentPubKeys 0) polledHistory polledDesk :=
  run_execute _ ⟨trivial, ⟨by decide, by decide⟩, trivial⟩

theorem menu_of_run_polled :
    MenuAsOf overridePolicy (transparentPubKeys 0) polledHistory polledDesk.menu :=
  menu_of_run isRun_polled

/-- The user chooses to authorize the device. -/
theorem clicks_of_run_polled :
    ChosenWell overridePolicy (transparentPubKeys 0) polledHistory
      (polledDesk.step (.click "authorize:/dev/sdb1" ⟨true, true, true⟩)).2 := by
  have hmenu : polledDesk.menu = buildUsbMenu (storeOf (listUsbDevices
      [⟨unsignedDevice, .block⟩] [])) := by
    rw [polledDesk, execute, execute, execute, step_poll]
    rfl
  have hclick : "authorize:/dev/sdb1" ∈ menuIds polledDesk.menu := by
    rw [hmenu]
    decide
  exact clicks_of_run (isRun_polled.next
    (DeskEvent.click "authorize:/dev/sdb1" ⟨true, true, true⟩) hclick)
    rfl

end Keysas.Firewall.Tray
