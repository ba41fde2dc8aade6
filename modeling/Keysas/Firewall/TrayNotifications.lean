import Keysas.Firewall.TrayApp
import Keysas.Firewall.WindowsListener

/-!
# The notifications of the tray application

Under Windows the daemon tells the tray application about files and USB devices through a mailslot.
Each message is a JSON text. The application reads the messages one after the other and takes those
that it can read as an update of a file into its store; others are passed over. A message that is
too long is not posted, and any call into Windows may fail.

`files_of_run` says what the store holds in every interleaving of posts and reads: together with the
messages that still wait, the files of the updates that were posted, each once and in their order.
-/

set_option autoImplicit false
set_option relaxedAutoImplicit false

namespace Keysas.Firewall.Tray

open Gui Runs SerdeJson Wire.Bincode

/-! ### The messages -/

/-- `FileAuth` of the store. -/
structure FileAuth where
  device : String
  id : List.Vector UInt16 16
  path : String
  authorization : UInt8
  deriving DecidableEq

/-- `as_u8`. -/
def fileAuthorizationNumber : FileAuthorization → UInt8
  | .pending => 0
  | .block => 1
  | .allowRead => 2
  | .allowRW => 3

/-- The fields of `FileUpdateMessage`, as the application knows it. -/
def notificationFields : List String :=
  ["device", "id", "path", "authorization"]

/-- The reader of `FileUpdateMessage`, with the file that `notify_file_change` makes of it. -/
def readNotification (json : Json) : Option FileAuth := do
  match ← structFields notificationFields json with
  | [device, id, path, authorization] =>
    return ⟨← text device, ← fixedArray 16 u16 id, ← text path,
      fileAuthorizationNumber (← deserializeFileAuthorization authorization)⟩
  | _ => none

/-- The file of a message, when it is read as an update of a file. -/
def storedFile (bytes : List UInt8) : Option FileAuth :=
  (messageText bytes).bind fun msg ↦ (fromStr msg).bind readNotification

/-- The file of an update of the daemon. -/
def fileOf (update : Gui.FileUpdateMessage) : FileAuth where
  device := update.device
  id := update.id
  path := update.path
  authorization := fileAuthorizationNumber update.authorization

/-- An update of a file is read by the application, which does not know its code. -/
theorem readNotification_fileUpdate (update : Gui.FileUpdateMessage) :
    readNotification update.serialize = some (fileOf update) := by
  have hfields : structFields notificationFields update.serialize =
      some [.string update.device, .array (update.id.toList.map fun word ↦ .unsigned word.toUInt64),
        .string update.path, .string (fileAuthorizationName update.authorization)] :=
    structFields_structObject_cons (by decide) (by decide) _ rfl
  rw [readNotification, hfields]
  simp [deserializeFileAuthorization_name, text, fixedArray_map u16_unsigned, fileOf]

/-- An update of a USB device is not read by the application. -/
theorem readNotification_usbUpdate (update : Gui.UsbUpdateMessage) :
    readNotification update.serialize = none := by
  have hfields : structFields notificationFields update.serialize = none :=
    @structFields_structObject_of_notMem UsbUpdateMessage.fields _ "id" (by decide) (by decide) _
  rw [readNotification, hfields]
  rfl

/-- A message is read as it was written. -/
theorem storedFile_toText {value : Json} (hvalue : Written 127 value) :
    storedFile (utf8 (toText value)) = readNotification value := by
  have hzero : '\x00' ∉ (toText value).toList := by
    rw [toText, String.toList_ofList]
    exact fun hmem ↦ ne_zero_of_mem_write hvalue hmem rfl
  rw [storedFile, messageText_utf8 hzero, Option.bind_some, fromStr_toText hvalue, Option.bind_some]

theorem written_fileUpdate (update : Gui.FileUpdateMessage) : Written 127 update.serialize := by
  refine @written_structObject 126 _ _ ?_
  have hid : Written 126 (.array (update.id.toList.map fun word ↦ .unsigned word.toUInt64)) := by
    refine .array fun item hitem ↦ ?_
    obtain ⟨word, -, rfl⟩ := List.mem_map.mp hitem
    exact .unsigned _ _
  simp only [List.forall_mem_cons, List.not_mem_nil, false_imp_iff, implies_true, and_true]
  exact ⟨.string _ _, .string _ _, hid, .string _ _, .string _ _⟩

theorem written_usbUpdate (update : Gui.UsbUpdateMessage) : Written 127 update.serialize := by
  refine @written_structObject 126 _ _ ?_
  simp only [List.forall_mem_cons, List.not_mem_nil, false_imp_iff, implies_true, and_true]
  exact ⟨.string _ _, .string _ _, .string _ _, .string _ _, .string _ _⟩

/-! ### Posts and reads -/

/-- The errors of a post. -/
inductive PostError where
  | tooLong
  | write
  deriving DecidableEq

/-- `write_mailslot`, with what it leaves in the mailslot. -/
def writeMailslot (writes : Bool) (message : String) (mailslot : List (List UInt8)) :
    Except PostError Unit × List (List UInt8) :=
  if maxMsgSize < (utf8 message).length then (.error .tooLong, mailslot)
  else if writes then (.ok (), mailslot ++ [utf8 message])
  else (.error .write, mailslot)

/-- A post appends the message to the mailslot, or it fails and leaves the mailslot as it is. -/
theorem writeMailslot_cases (writes : Bool) (message : String) (mailslot : List (List UInt8)) :
    writeMailslot writes message mailslot = (.ok (), mailslot ++ [utf8 message]) ∨
      ∃ error, writeMailslot writes message mailslot = (.error error, mailslot) := by
  unfold writeMailslot
  split_ifs
  · exact .inr ⟨.tooLong, rfl⟩
  · exact .inl rfl
  · exact .inr ⟨.write, rfl⟩

/-- A read changes nothing, it takes a message away that is no text, or it gives the text of the
first message and takes the message away. -/
theorem readMailslot_cases (failing : Option WindowsCall) (mailslot : List (List UInt8)) :
    (∀ msg, (readMailslot failing mailslot).1 ≠ .ok (some msg)) ∧
        (readMailslot failing mailslot).2 = mailslot ∨
      ∃ bytes, mailslot = bytes :: (readMailslot failing mailslot).2 ∧
        (messageText bytes = none ∧ (readMailslot failing mailslot).1 = .error .utf8 ∨
          ∃ msg, messageText bytes = some msg ∧
            (readMailslot failing mailslot).1 = .ok (some msg)) := by
  by_cases hinfo : failing = some .getMailslotInfo
  · rw [readMailslot.eq_def, if_pos hinfo]
    exact .inl ⟨nofun, rfl⟩
  rw [readMailslot.eq_def, if_neg hinfo]
  cases mailslot with
  | nil => exact .inl ⟨nofun, rfl⟩
  | cons bytes rest =>
    by_cases hread : failing = some .readFile
    · dsimp only
      rw [if_pos hread]
      exact .inl ⟨nofun, rfl⟩
    · dsimp only
      rw [if_neg hread]
      refine .inr ⟨bytes, ?_⟩
      cases hmsg : messageText bytes with
      | none => exact ⟨rfl, .inl ⟨rfl, rfl⟩⟩
      | some msg => exact ⟨rfl, .inr ⟨msg, rfl, rfl⟩⟩

/-- The mailslot of the application, and the files of its store. -/
structure Notifications where
  mailslot : List (List UInt8)
  files : List FileAuth
  deriving DecidableEq

/-- What happens. -/
inductive NotificationEvent where
  /-- Another program posts a message. -/
  | post (bytes : List UInt8)
  /-- The daemon tells about a file. -/
  | sendFileUpdate (update : Gui.FileUpdateMessage) (writes : Bool)
  /-- The daemon tells about a USB device. -/
  | sendUsbUpdate (update : Gui.UsbUpdateMessage) (writes : Bool)
  /-- The application reads a message. -/
  | read (failing : Option WindowsCall)

/-- One event, with the result of a post. A message that is too large for the mailslot is refused by
it. -/
def Notifications.step (state : Notifications) :
    NotificationEvent → Notifications × Option (Except PostError Unit)
  | .post bytes =>
    if maxMsgSize < bytes.length then (state, some (.error .write))
    else ({ state with mailslot := state.mailslot ++ [bytes] }, some (.ok ()))
  | .sendFileUpdate update writes =>
    let posted := writeMailslot writes (toText update.serialize) state.mailslot
    ({ state with mailslot := posted.2 }, some posted.1)
  | .sendUsbUpdate update writes =>
    let posted := writeMailslot writes (toText update.serialize) state.mailslot
    ({ state with mailslot := posted.2 }, some posted.1)
  | .read failing =>
    let found := readMailslot failing state.mailslot
    match found.1 with
    | .ok (some msg) =>
      match (fromStr msg).bind readNotification with
      | some file => ({ mailslot := found.2, files := state.files ++ [file] }, none)
      | none => ({ state with mailslot := found.2 }, none)
    | .ok none | .error _ => ({ state with mailslot := found.2 }, none)

/-- The file that an entry of a history brings to the application: that of an update which was
posted, and what another program posted when it is read as an update. -/
def broughtBy : NotificationEvent × Option (Except PostError Unit) → Option FileAuth
  | (.post bytes, some (.ok ())) => storedFile bytes
  | (.sendFileUpdate update _, some (.ok ())) => some (fileOf update)
  | _ => none

/-- The files of the store with those that wait in the mailslot. -/
def Notifications.known (state : Notifications) : List FileAuth :=
  state.files ++ state.mailslot.filterMap storedFile

/-- A read moves the file of the first message into the store. -/
theorem known_read (state : Notifications) (failing : Option WindowsCall) :
    (state.step (.read failing)).1.known = state.known := by
  have hcases := readMailslot_cases failing state.mailslot
  rw [Notifications.step]
  generalize readMailslot failing state.mailslot = found at hcases ⊢
  obtain ⟨result, rest⟩ := found
  obtain ⟨hnone, hrest⟩ | ⟨bytes, hmailslot, ⟨hmsg, hresult⟩ | ⟨msg, hmsg, hresult⟩⟩ := hcases
  · rcases result with error | _ | msg
    · exact congrArg (fun mailslot ↦ state.files ++ mailslot.filterMap storedFile) hrest
    · exact congrArg (fun mailslot ↦ state.files ++ mailslot.filterMap storedFile) hrest
    · exact absurd rfl (hnone msg)
  · have hstored : storedFile bytes = none := by rw [storedFile, hmsg, Option.bind_none]
    dsimp only at hresult hmailslot
    subst hresult
    simp [Notifications.known, hmailslot, hstored]
  · have hstored : storedFile bytes = (fromStr msg).bind readNotification := by
      rw [storedFile, hmsg, Option.bind_some]
    dsimp only at hresult hmailslot
    subst hresult
    cases hfile : (fromStr msg).bind readNotification with
    | none => simp [Notifications.known, hmailslot, hstored, hfile]
    | some file => simp [Notifications.known, hmailslot, hstored, hfile]

/-- A message of the daemon that was posted brings the file which it is read as. -/
theorem known_posted (state : Notifications) {value : Json} (hvalue : Written 127 value) :
    ({ state with mailslot := state.mailslot ++ [utf8 (toText value)] } : Notifications).known =
      state.known ++ (readNotification value).toList := by
  rw [Notifications.known, List.filterMap_append, ← List.append_assoc, Notifications.known,
    List.filterMap_cons, storedFile_toText hvalue]
  cases readNotification value <;> rfl

/-- An event adds the file that it brings to those that are known. -/
theorem known_step (state : Notifications) (event : NotificationEvent) :
    (state.step event).1.known =
      state.known ++ (broughtBy (event, (state.step event).2)).toList := by
  cases event with
  | post bytes =>
    rw [Notifications.step]
    split_ifs with hlarge
    · simp [broughtBy]
    · simp only [Notifications.known, List.filterMap_append, List.append_assoc, broughtBy]
      cases hstored : storedFile bytes <;> simp [hstored]
  | sendFileUpdate update writes =>
    rw [Notifications.step]
    obtain hposted | ⟨error, hposted⟩ :=
      writeMailslot_cases writes (toText update.serialize) state.mailslot
    · rw [hposted, known_posted state (written_fileUpdate update), readNotification_fileUpdate]
      rfl
    · rw [hposted]
      exact (List.append_nil _).symm
  | sendUsbUpdate update writes =>
    rw [Notifications.step]
    obtain hposted | ⟨error, hposted⟩ :=
      writeMailslot_cases writes (toText update.serialize) state.mailslot
    · rw [hposted, known_posted state (written_usbUpdate update), readNotification_usbUpdate]
      rfl
    · rw [hposted]
      exact (List.append_nil _).symm
  | read failing =>
    rw [known_read]
    exact (List.append_nil _).symm

/-! ### Runs -/

/-- A run from an empty store and an empty mailslot. -/
abbrev IsNotified (history : List (NotificationEvent × Option (Except PostError Unit)))
    (state : Notifications) : Prop :=
  Run Notifications.step (fun _ _ _ ↦ True) ⟨[], []⟩ history state

/-- The files of the store, followed by those that wait, are the files that were brought: each once
and in their order. -/
theorem files_of_run {history : List (NotificationEvent × Option (Except PostError Unit))}
    {state : Notifications} (hrun : IsNotified history state) :
    state.files ++ state.mailslot.filterMap storedFile = history.filterMap broughtBy := by
  refine @Run.invariant _ _ _ _ _ _ (fun history state ↦
    state.known = history.filterMap broughtBy) rfl ?_ _ _ hrun
  intro history state event _ ih _
  rw [known_step, ih, List.filterMap_append, List.filterMap_cons]
  cases broughtBy (event, (state.step event).2) <;> rfl

/-- The daemon tells about a file that the user has not decided on. -/
def pendingUpdate : Gui.FileUpdateMessage where
  code := .fileUpdateMessage
  device := "\\\\Device\\HarddiskVolume4"
  id := .replicate 16 7
  path := "note.txt"
  authorization := .pending

/-- The application reads before the message is there, when it is there, and when none is left. -/
def notifiedEvents : List NotificationEvent :=
  [.read none, .sendFileUpdate pendingUpdate true, .read none, .read none]

theorem files_of_run_notified :
    let after := execute Notifications.step ⟨[], []⟩ notifiedEvents
    after.2.files ++ after.2.mailslot.filterMap storedFile = after.1.filterMap broughtBy :=
  files_of_run (run_execute _ ⟨trivial, trivial, trivial, trivial, trivial⟩)

end Keysas.Firewall.Tray
