import Keysas.Firewall.FileAuthorization
import Keysas.Rust.SerdeJson

/-!
# Messages between the user interface and the daemon

The user interface posts updates of the authorization of a file or of a USB device, and requests for
the list of both. Each message has a code for its kind, but the daemon does not look at it: it
tries to read a message as an update of a file, then as one of a USB device, then as a request for
the list (`dispatch`). Members that a structure does not have are passed over, so that a message of
one kind may be read as one of a kind that is tried before.

`ownKindFirst_iff_dispatchedByCode` says for which texts the order of the trials gives each message
to the method of its own code. What the derived writers make of a message is such a text
(`dispatch_of_fileUpdateMessage`, `dispatch_of_usbUpdateMessage`, `dispatch_of_usbFileListRequest`).
-/

set_option autoImplicit false
set_option relaxedAutoImplicit false

namespace Keysas.Firewall.Gui

open SerdeJson

/-! ### Messages -/

/-- The code of a message, for its kind. -/
inductive GuiMessageCode where
  | usbUpdateMessage
  | fileUpdateMessage
  | usbFileListRequest
  deriving DecidableEq

/-- The name of a code in a message. -/
def GuiMessageCode.name : GuiMessageCode → String
  | .usbUpdateMessage => "UsbUpdateMessage"
  | .fileUpdateMessage => "FileUpdateMessage"
  | .usbFileListRequest => "UsbFileListRequest"

/-- A USB status message. -/
structure UsbUpdateMessage where
  code : GuiMessageCode
  device : String
  path : String
  name : String
  authorization : UsbAuthorization
  deriving DecidableEq

/-- A file status message. -/
structure FileUpdateMessage where
  code : GuiMessageCode
  device : String
  id : List.Vector UInt16 16
  path : String
  authorization : FileAuthorization
  deriving DecidableEq

/-- A request for the list of devices and files. -/
structure UsbFileListRequest where
  code : GuiMessageCode
  deriving DecidableEq

/-- The name of an authorization of a USB device in a message. -/
def usbAuthorizationName : UsbAuthorization → String
  | .pending => "Pending"
  | .block => "Block"
  | .allowRead => "AllowRead"
  | .allowRW => "AllowRW"
  | .allowAll => "AllowAll"

/-- The name of an authorization of a file in a message. -/
def fileAuthorizationName : FileAuthorization → String
  | .pending => "Pending"
  | .block => "Block"
  | .allowRead => "AllowRead"
  | .allowRW => "AllowRW"

/-! ### Readers and writers -/

/-- The reader of `GuiMessageCode`. -/
def GuiMessageCode.deserialize : Json → Option GuiMessageCode :=
  unitVariant ([.usbUpdateMessage, .fileUpdateMessage, .usbFileListRequest].map
    fun code : GuiMessageCode ↦ (code.name, code))

/-- The reader of `UsbAuthorization`. -/
def deserializeUsbAuthorization : Json → Option UsbAuthorization :=
  unitVariant ([.pending, .block, .allowRead, .allowRW, .allowAll].map
    fun authorization ↦ (usbAuthorizationName authorization, authorization))

/-- The reader of `FileAuthorization`. -/
def deserializeFileAuthorization : Json → Option FileAuthorization :=
  unitVariant ([.pending, .block, .allowRead, .allowRW].map
    fun authorization ↦ (fileAuthorizationName authorization, authorization))

/-- The fields of `UsbUpdateMessage`. -/
def UsbUpdateMessage.fields : List String :=
  ["code", "device", "path", "name", "authorization"]

/-- The fields of `FileUpdateMessage`. -/
def FileUpdateMessage.fields : List String :=
  ["code", "device", "id", "path", "authorization"]

/-- The fields of `UsbFileListRequest`. -/
def UsbFileListRequest.fields : List String :=
  ["code"]

/-- The reader of `UsbUpdateMessage`. -/
def UsbUpdateMessage.deserialize (json : Json) : Option UsbUpdateMessage := do
  match ← structFields fields json with
  | [code, device, path, name, authorization] =>
    return ⟨← GuiMessageCode.deserialize code, ← text device, ← text path, ← text name,
      ← deserializeUsbAuthorization authorization⟩
  | _ => none

/-- The reader of `FileUpdateMessage`. -/
def FileUpdateMessage.deserialize (json : Json) : Option FileUpdateMessage := do
  match ← structFields fields json with
  | [code, device, id, path, authorization] =>
    return ⟨← GuiMessageCode.deserialize code, ← text device, ← fixedArray 16 u16 id, ← text path,
      ← deserializeFileAuthorization authorization⟩
  | _ => none

/-- The reader of `UsbFileListRequest`. -/
def UsbFileListRequest.deserialize (json : Json) : Option UsbFileListRequest := do
  match ← structFields fields json with
  | [code] => return ⟨← GuiMessageCode.deserialize code⟩
  | _ => none

/-- The writer of `UsbUpdateMessage`. -/
def UsbUpdateMessage.serialize (update : UsbUpdateMessage) : Json :=
  structObject fields [.string update.code.name, .string update.device, .string update.path,
    .string update.name, .string (usbAuthorizationName update.authorization)]

/-- The writer of `FileUpdateMessage`. -/
def FileUpdateMessage.serialize (update : FileUpdateMessage) : Json :=
  structObject fields [.string update.code.name, .string update.device,
    .array (update.id.toList.map fun word ↦ .unsigned word.toUInt64), .string update.path,
    .string (fileAuthorizationName update.authorization)]

/-- The writer of `UsbFileListRequest`. -/
def UsbFileListRequest.serialize (request : UsbFileListRequest) : Json :=
  structObject fields [.string request.code.name]

/-- A code is read back from its name. -/
theorem deserialize_name (code : GuiMessageCode) :
    GuiMessageCode.deserialize (.string code.name) = some code := by
  cases code <;> decide

/-- An authorization of a USB device is read back from its name. -/
theorem deserializeUsbAuthorization_name (authorization : UsbAuthorization) :
    deserializeUsbAuthorization (.string (usbAuthorizationName authorization)) =
      some authorization := by
  cases authorization <;> decide

/-- An authorization of a file is read back from its name. -/
theorem deserializeFileAuthorization_name (authorization : FileAuthorization) :
    deserializeFileAuthorization (.string (fileAuthorizationName authorization)) =
      some authorization := by
  cases authorization <;> decide

/-- A written `UsbUpdateMessage` is read back. -/
theorem UsbUpdateMessage.deserialize_serialize (update : UsbUpdateMessage) :
    deserialize update.serialize = some update := by
  rw [deserialize, serialize, structFields_structObject (by decide) rfl]
  simp [deserialize_name, deserializeUsbAuthorization_name, text]

/-- A written `FileUpdateMessage` is read back. -/
theorem FileUpdateMessage.deserialize_serialize (update : FileUpdateMessage) :
    deserialize update.serialize = some update := by
  rw [deserialize, serialize, structFields_structObject (by decide) rfl]
  simp [deserialize_name, deserializeFileAuthorization_name, text, fixedArray_map u16_unsigned]

/-- A written `UsbFileListRequest` is read back. -/
theorem UsbFileListRequest.deserialize_serialize (request : UsbFileListRequest) :
    deserialize request.serialize = some request := by
  rw [deserialize, serialize, structFields_structObject (by decide) rfl]
  simp [deserialize_name]

/-! ### Trials -/

/-- What a message makes the daemon do. -/
inductive ControllerCall where
  | requestFileUpdate (update : FileUpdateMessage)
  | requestUsbUpdate (update : UsbUpdateMessage)
  | sendUsbFileList
  deriving DecidableEq

/-- `from_slice`. `parse` gives the syntax tree of a text that is JSON. -/
def fromSlice {α : Type} (parse : String → Option Json) (deserialize : Json → Option α)
    (msg : String) : Option α :=
  (parse msg).bind deserialize

/-- The method of the controller that a message is given to, if any. -/
def dispatch (parse : String → Option Json) (msg : String) : Option ControllerCall :=
  match fromSlice parse FileUpdateMessage.deserialize msg with
  | some update => some (.requestFileUpdate update)
  | none =>
    match fromSlice parse UsbUpdateMessage.deserialize msg with
    | some update => some (.requestUsbUpdate update)
    | none =>
      match fromSlice parse UsbFileListRequest.deserialize msg with
      | some _ => some .sendUsbFileList
      -- The message is not recognized, which is only logged.
      | none => none

/-- A message of each kind, with the code of the kind, is given to the method of that kind. -/
structure DispatchedByCode (parse : String → Option Json) (msg : String)
    (call : Option ControllerCall) : Prop where
  fileUpdate : ∀ update, fromSlice parse FileUpdateMessage.deserialize msg = some update →
    update.code = .fileUpdateMessage → call = some (.requestFileUpdate update)
  usbUpdate : ∀ update, fromSlice parse UsbUpdateMessage.deserialize msg = some update →
    update.code = .usbUpdateMessage → call = some (.requestUsbUpdate update)
  listRequest : ∀ request, fromSlice parse UsbFileListRequest.deserialize msg = some request →
    request.code = .usbFileListRequest → call = some .sendUsbFileList

/-- A text that has the shape and the code of one kind does not have the shape of a kind that is
tried before. -/
def OwnKindFirst (parse : String → Option Json) (msg : String) : Prop :=
  ((fromSlice parse UsbUpdateMessage.deserialize msg).any (fun update ↦
      update.code = .usbUpdateMessage) →
    fromSlice parse FileUpdateMessage.deserialize msg = none) ∧
  ((fromSlice parse UsbFileListRequest.deserialize msg).any (fun request ↦
      request.code = .usbFileListRequest) →
    fromSlice parse FileUpdateMessage.deserialize msg = none ∧
      fromSlice parse UsbUpdateMessage.deserialize msg = none)

instance decidableOwnKindFirst (parse : String → Option Json) (msg : String) :
    Decidable (OwnKindFirst parse msg) :=
  inferInstanceAs (Decidable (_ ∧ _))

/-- The order of the trials gives a message to the method of its code exactly when it does not have
the shape of a kind that is tried before. -/
theorem ownKindFirst_iff_dispatchedByCode (parse : String → Option Json) (msg : String) :
    OwnKindFirst parse msg ↔ DispatchedByCode parse msg (dispatch parse msg) := by
  constructor
  · rintro ⟨husb, hlist⟩
    constructor
    · intro update hread _
      rw [dispatch, hread]
    · intro update hread hcode
      have hfile := husb (by rw [hread, Option.any_some, hcode]; rfl)
      rw [dispatch, hfile, hread]
    · intro request hread hcode
      have hothers := hlist (by rw [hread, Option.any_some, hcode]; rfl)
      rw [dispatch, hothers.1, hothers.2, hread]
  · intro hdispatched
    constructor
    · intro hany
      obtain ⟨update, hread, hcode⟩ := (Option.any_eq_true _ _).mp hany
      have hcall := hdispatched.usbUpdate update hread (of_decide_eq_true hcode)
      cases hfile : fromSlice parse FileUpdateMessage.deserialize msg with
      | none => rfl
      | some other => simp [dispatch, hfile] at hcall
    · intro hany
      obtain ⟨request, hread, hcode⟩ := (Option.any_eq_true _ _).mp hany
      have hcall := hdispatched.listRequest request hread (of_decide_eq_true hcode)
      cases hfile : fromSlice parse FileUpdateMessage.deserialize msg with
      | some other => simp [dispatch, hfile] at hcall
      | none =>
        cases husb : fromSlice parse UsbUpdateMessage.deserialize msg with
        | none => exact ⟨rfl, rfl⟩
        | some other => simp [dispatch, hfile, husb] at hcall

/-- An object without an `id` is not read as an update of a file. -/
theorem fileUpdateMessage_of_notMem {names : List String} (hid : "id" ∉ names)
    (values : List Json) : FileUpdateMessage.deserialize (structObject names values) = none := by
  have hfield : "id" ∈ FileUpdateMessage.fields := by decide
  rw [FileUpdateMessage.deserialize, structFields_structObject_of_notMem hfield hid]
  rfl

/-- An object without a `name` is not read as an update of a USB device. -/
theorem usbUpdateMessage_of_notMem {names : List String} (hname : "name" ∉ names)
    (values : List Json) : UsbUpdateMessage.deserialize (structObject names values) = none := by
  have hfield : "name" ∈ UsbUpdateMessage.fields := by decide
  rw [UsbUpdateMessage.deserialize, structFields_structObject_of_notMem hfield hname]
  rfl

/-- An object that begins with a code is read as a request for the list with that code. -/
theorem usbFileListRequest_of_code {names : List String} (hnames : "code" ∉ names)
    (code : GuiMessageCode) (values : List Json) :
    UsbFileListRequest.deserialize
      (structObject ("code" :: names) (.string code.name :: values)) = some ⟨code⟩ := by
  have hfields : structFields UsbFileListRequest.fields
      (structObject ("code" :: names) (.string code.name :: values)) =
        some [.string code.name] :=
    structFields_singleton hnames _ _
  rw [UsbFileListRequest.deserialize, hfields]
  simp [deserialize_name]

/-- An update of a file as the writer makes it, with its code, is given to the method of its kind,
and has the shape of no other kind with that code. -/
theorem dispatch_of_fileUpdateMessage {parse : String → Option Json} {msg : String}
    {update : FileUpdateMessage} (hparse : parse msg = some update.serialize)
    (hcode : update.code = .fileUpdateMessage) :
    OwnKindFirst parse msg ∧ dispatch parse msg = some (.requestFileUpdate update) := by
  have hfile : fromSlice parse FileUpdateMessage.deserialize msg = some update := by
    rw [fromSlice, hparse, Option.bind_some, FileUpdateMessage.deserialize_serialize]
  have husb : fromSlice parse UsbUpdateMessage.deserialize msg = none := by
    rw [fromSlice, hparse, Option.bind_some]
    exact usbUpdateMessage_of_notMem (by decide) _
  have hlist : fromSlice parse UsbFileListRequest.deserialize msg = some ⟨update.code⟩ := by
    rw [fromSlice, hparse, Option.bind_some]
    exact usbFileListRequest_of_code (by decide) _ _
  constructor
  · simp [OwnKindFirst, husb, hlist, hcode]
  · rw [dispatch, hfile]

/-- An update of a USB device as the writer makes it, with its code, is given to the method of its
kind, and has the shape of no kind that is tried before. -/
theorem dispatch_of_usbUpdateMessage {parse : String → Option Json} {msg : String}
    {update : UsbUpdateMessage} (hparse : parse msg = some update.serialize)
    (hcode : update.code = .usbUpdateMessage) :
    OwnKindFirst parse msg ∧ dispatch parse msg = some (.requestUsbUpdate update) := by
  have hfile : fromSlice parse FileUpdateMessage.deserialize msg = none := by
    rw [fromSlice, hparse, Option.bind_some]
    exact fileUpdateMessage_of_notMem (by decide) _
  have husb : fromSlice parse UsbUpdateMessage.deserialize msg = some update := by
    rw [fromSlice, hparse, Option.bind_some, UsbUpdateMessage.deserialize_serialize]
  have hlist : fromSlice parse UsbFileListRequest.deserialize msg = some ⟨update.code⟩ := by
    rw [fromSlice, hparse, Option.bind_some]
    exact usbFileListRequest_of_code (by decide) _ _
  constructor
  · simp [OwnKindFirst, hfile, hlist, hcode]
  · rw [dispatch, hfile, husb]

/-- A request for the list as the writer makes it has the shape of no kind that is tried before, and
is answered with the list. -/
theorem dispatch_of_usbFileListRequest {parse : String → Option Json} {msg : String}
    {request : UsbFileListRequest} (hparse : parse msg = some request.serialize) :
    OwnKindFirst parse msg ∧ dispatch parse msg = some .sendUsbFileList := by
  have hfile : fromSlice parse FileUpdateMessage.deserialize msg = none := by
    rw [fromSlice, hparse, Option.bind_some]
    exact fileUpdateMessage_of_notMem (by decide) _
  have husb : fromSlice parse UsbUpdateMessage.deserialize msg = none := by
    rw [fromSlice, hparse, Option.bind_some]
    exact usbUpdateMessage_of_notMem (by decide) _
  have hlist : fromSlice parse UsbFileListRequest.deserialize msg = some request := by
    rw [fromSlice, hparse, Option.bind_some, UsbFileListRequest.deserialize_serialize]
  constructor
  · exact ⟨fun _ ↦ hfile, fun _ ↦ ⟨hfile, husb⟩⟩
  · rw [dispatch, hfile, husb, hlist]

end Keysas.Firewall.Gui
