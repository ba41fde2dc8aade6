import Keysas.Firewall.FileFilter

/-!
# Messages between the minifilter and the daemon

On Windows the daemon is asked by a minifilter in the kernel. A request carries an operation code
and the file or volume that it is about, the reply is one byte, and the daemon sends updates of its
own with such a byte. The byte is a `KEYSAS_AUTHORIZATION`, which `toKernelU8` makes of the
authorizations of the daemon.

`answer` is the arm of the daemon's loop for a request. It evaluates a file only under the
operation code `SCAN_FILE`, and `ofU8_answer_userAllowFile` says that the code by which the
minifilter asks the user is answered like one that the daemon does not know. `ofU8_toKernelU8`
gives the authorizations of the kernel that an authorization of a file can become, which do not
include `allowAll`.
-/

set_option autoImplicit false
set_option relaxedAutoImplicit false

namespace Keysas.Minifilter

/-! ### Authorizations -/

/-- `KEYSAS_AUTHORIZATION`. A variable of the type holds any byte that was sent. -/
inductive KeysasAuthorization where
  | unknown
  | pending
  | block
  | allowRead
  | allowWarning
  | allowAll
  /-- A byte without a name. -/
  | other (value : UInt8)
  deriving DecidableEq

/-- The cast of a byte to `KEYSAS_AUTHORIZATION`. -/
def KeysasAuthorization.ofU8 (value : UInt8) : KeysasAuthorization :=
  if value = 0 then .unknown
  else if value = 1 then .pending
  else if value = 2 then .block
  else if value = 3 then .allowRead
  else if value = 4 then .allowWarning
  else if value = 5 then .allowAll
  else .other value

/-- The authorization lets a file be opened by what it says. -/
def KeysasAuthorization.isAllowing : KeysasAuthorization → Bool
  | .allowRead => true
  | .allowWarning => true
  | .allowAll => true
  | _ => false

end Keysas.Minifilter

namespace Keysas.Firewall

open Minifilter

/-- `to_kernel_u8` of the authorizations of USB devices. -/
def UsbAuthorization.toKernelU8 (auth : UsbAuthorization) : UInt8 :=
  UInt8.ofNat auth.asU8 + 1

/-- `as_u8` of the authorizations of files. -/
def FileAuthorization.asU8 : FileAuthorization → UInt8
  | .pending => 0
  | .block => 1
  | .allowRead => 2
  | .allowRW => 3

/-- `to_kernel_u8` of the authorizations of files. -/
def FileAuthorization.toKernelU8 (auth : FileAuthorization) : UInt8 :=
  auth.asU8 + 1

/-- What an authorization of a file becomes in the kernel: reading and writing is allowed there with
a warning. -/
def FileAuthorization.inKernel : FileAuthorization → KeysasAuthorization
  | .pending => .pending
  | .block => .block
  | .allowRead => .allowRead
  | .allowRW => .allowWarning

theorem FileAuthorization.ofU8_toKernelU8 (auth : FileAuthorization) :
    KeysasAuthorization.ofU8 auth.toKernelU8 = auth.inKernel := by
  cases auth <;> decide

/-- No authorization of a file becomes the one that allows everything. -/
theorem FileAuthorization.inKernel_ne_allowAll (auth : FileAuthorization) :
    auth.inKernel ≠ .allowAll := by
  cases auth <;> decide

end Keysas.Firewall

namespace Keysas.Minifilter

open Firewall

/-! ### Requests -/

/-- `KEYSAS_FILTER_OPERATION`. -/
inductive KeysasFilterOperation where
  | scanFile
  | userAllowFile
  | scanUsb
  | userAllowUsbAll
  | userAllowUsbWithWarning
  deriving DecidableEq

/-- The code of an operation in a request. -/
def KeysasFilterOperation.code : KeysasFilterOperation → UInt32
  | .scanFile => 0
  | .userAllowFile => 1
  | .scanUsb => 2
  | .userAllowUsbAll => 3
  | .userAllowUsbWithWarning => 4

/-- `KEYSAS_DRIVER_REQUEST`, with the part of the content that is sent. -/
structure DriverRequest where
  operation : UInt32
  content : List UInt16
  deriving DecidableEq

/-- A buffer of bytes as one of 16-bit units, the lowest byte first. -/
def unitsOfBytes : List UInt8 → List UInt16
  | low :: high :: rest => (low.toUInt16 ||| high.toUInt16 <<< 8) :: unitsOfBytes rest
  | _ => []

/-- `to_le_bytes` of a buffer of 16-bit units. -/
def bytesOfUnits (units : List UInt16) : List UInt8 :=
  units.flatMap fun unit : UInt16 ↦ [unit.toUInt8, (unit >>> 8).toUInt8]

/-- The content of a request about a file: the identifier and then the name. -/
def fileContent (fileId : List UInt8) (fileName : List UInt16) : List UInt16 :=
  unitsOfBytes fileId ++ fileName

/-! ### The daemon -/

/-- The unit is one half of a surrogate pair. -/
def isSurrogate (unit : UInt16) : Bool :=
  0xD800 ≤ unit && unit ≤ 0xDFFF

/-- The characters of a run of UTF-16 units, each half of a pair that stands alone read as
U+FFFD. -/
def utf16Chars : List UInt16 → List Char
  | [] => []
  | [unit] => [if isSurrogate unit then '\uFFFD' else Char.ofNat unit.toNat]
  | unit :: next :: rest =>
    if !isSurrogate unit then Char.ofNat unit.toNat :: utf16Chars (next :: rest)
    else if unit < 0xDC00 && 0xDC00 ≤ next && next ≤ 0xDFFF then
      Char.ofNat (0x10000 + (unit.toNat - 0xD800) * 0x400 + (next.toNat - 0xDC00)) ::
        utf16Chars rest
    else '\uFFFD' :: utf16Chars (next :: rest)

/-- `String::from_utf16_lossy`. -/
def fromUtf16Lossy (units : List UInt16) : String :=
  String.ofList (utf16Chars units)

example : fromUtf16Lossy [0x61, 0xD83D, 0xDE00, 0xDC00, 0xE9] = "a😀\uFFFDé" := by
  decide

/-- A file as the daemon reads it from a request. -/
structure ScannedFile where
  id : List UInt8
  path : String
  deriving DecidableEq

/-- The buffer into which the daemon receives the content of a request: 1024 units, zero where
nothing was sent. -/
def receivedContent (content : List UInt16) : List UInt16 :=
  (content ++ List.replicate 1024 0).take 1024

/-- The file of a request under `SCAN_FILE`. -/
def scannedFile (content : List UInt16) : ScannedFile where
  id := bytesOfUnits ((receivedContent content).take 16)
  path := fromUtf16Lossy (((receivedContent content).drop 16).takeWhile (· ≠ 0))

/-- The volume of a request under `SCAN_USB`. -/
def scannedVolume (content : List UInt16) : String :=
  fromUtf16Lossy ((receivedContent content).takeWhile (· ≠ 0))

/-- What the controller answers at the time of a request. -/
structure Daemon where
  /-- `authorize_file`, with the kind of access. -/
  authorizeFile : ScannedFile → Bool → Except FileError Bool
  /-- `get_usb_auth_by_mount` for the drive of a volume, nothing when it has no drive. -/
  usbAuthByVolume : String → Option UsbAuthorization

/-- `SCAN_FILE` of the daemon. -/
def scanFileCode : UInt32 := 0

/-- `SCAN_USB` of the daemon. -/
def scanUsbCode : UInt32 := 2

/-- The reply to a request that asks for a file to be evaluated. -/
def Daemon.scanFile (daemon : Daemon) (file : ScannedFile) : FileAuthorization :=
  match daemon.authorizeFile file true with
  | .ok true => .allowRead
  | .ok false => .block
  | .error _ => .block

/-- The reply of the loop of `start` to a request. -/
def Daemon.answer (daemon : Daemon) (request : DriverRequest) : UInt8 :=
  if request.operation = scanFileCode then
    (daemon.scanFile (scannedFile request.content)).toKernelU8
  else if request.operation = scanUsbCode then
    ((daemon.usbAuthByVolume (scannedVolume request.content)).getD .block).toKernelU8
  else 2

section Answers

variable (daemon : Daemon) (content : List UInt16)

/-- A file is allowed in read mode or blocked. -/
theorem ofU8_answer_scanFile :
    KeysasAuthorization.ofU8 (daemon.answer ⟨KeysasFilterOperation.scanFile.code, content⟩) =
      (daemon.scanFile (scannedFile content)).inKernel := by
  rw [← FileAuthorization.ofU8_toKernelU8]
  rfl

/-- The daemon does not know the operation by which the minifilter asks the user, and blocks. -/
theorem ofU8_answer_userAllowFile :
    KeysasAuthorization.ofU8 (daemon.answer ⟨KeysasFilterOperation.userAllowFile.code, content⟩) =
      .block :=
  rfl

/-- A scanned file is allowed in read mode or blocked. -/
theorem Daemon.scanFile_cases (file : ScannedFile) :
    daemon.scanFile file = .allowRead ∨ daemon.scanFile file = .block := by
  rw [Daemon.scanFile]
  rcases daemon.authorizeFile file true with error | allowed
  · exact .inr rfl
  · cases allowed
    · exact .inr rfl
    · exact .inl rfl

/-- A file is allowed in read mode when the controller authorizes it for writing. -/
theorem Daemon.scanFile_of_authorized {file : ScannedFile}
    (haccepted : daemon.authorizeFile file true = .ok true) :
    daemon.scanFile file = .allowRead := by
  rw [Daemon.scanFile, haccepted]

end Answers

end Keysas.Minifilter
