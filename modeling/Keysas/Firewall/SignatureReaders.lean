import Keysas.Firewall.UsbGrantSoundness
import Keysas.Io.DeviceSignature

/-!
# Three readers of one record

The record behind the first sector of a USB device is read by three programs: keysas-io, and the
firewalls on Linux and Windows. Each has its own reader. `extractSignature` of Linux reads the
length and then the text; `readSignature` of Windows reads sixteen sectors at once and cuts the
text out of them. Both give the text to `validateUsbSignature`, or nothing when the device counts
as unsigned.

`ReadersAgree` says that the three come to the same decision, and that the two firewalls agree on
which devices are unsigned. It fails for a record of length 0, which only Windows takes for an
unsigned device, and for a record in which the two signatures of the device are followed by another
bar, which only keysas-io refuses. `readersAgree_iff` says that it holds everywhere else.
-/

set_option autoImplicit false
set_option relaxedAutoImplicit false

namespace Keysas.Firewall

open Crypto Io Keys RustStd Wire

variable {schemes : Schemes}

/-! ### The readers of the firewalls -/

/-- The errors of the two readers. -/
inductive RecordError where
  /-- `read_exact` meets the end of the disk. -/
  | unexpectedEof
  /-- "Read only ... bytes (need ≥ 4)". -/
  | shortRead (bytesRead : ℕ)
  /-- "Signature extends past read". -/
  | pastRead (needed bytesRead : ℕ)
  /-- The text is not UTF-8. -/
  | utf8
  deriving DecidableEq

/-- The end of `extract_usb_info` of the Linux monitor, which reads the raw disk. A record of
length 0 has the empty text. -/
def extractSignature (image : List UInt8) : Except RecordError (Option String) := do
  let (sizeBuf, rest) ← okOr (PrefixCodec.takeExactly 4 (image.drop signatureOffset)) .unexpectedEof
  let sigSize := bigEndianValue sizeBuf
  if sigSize ≤ maxSignatureSize then
    let (sigBuf, _) ← okOr (PrefixCodec.takeExactly sigSize rest) .unexpectedEof
    let text ← okOr (Bincode.fromUtf8 sigBuf) .utf8
    return some text
  else
    return none

/-- The number of bytes that `read_signature` asks for: sixteen sectors. -/
def readSize : ℕ := 8192

/-- `read_signature` of the Windows monitor. -/
def readSignature (image : List UInt8) : Except RecordError (Option String) := do
  let buf := (image.drop signatureOffset).take readSize
  if buf.length < 4 then throw (.shortRead buf.length)
  let sigSize := bigEndianValue (buf.take 4)
  if sigSize = 0 ∨ maxSignatureSize < sigSize then
    return none
  else
    if buf.length < 4 + sigSize then throw (.pastRead (4 + sigSize) buf.length)
    let text ← okOr (Bincode.fromUtf8 ((buf.take (4 + sigSize)).drop 4)) .utf8
    return some text

/-- A firewall finds the device signed. -/
def firewallSigned (usbCa : KeysasHybridPubKeys schemes) (device : UsbDevice)
    (signature : Except RecordError (Option String)) : Bool :=
  match signature with
  | .error _ => false
  | .ok signature => signatureVerifies usbCa device signature

/-- The identity that keysas-io verifies for a device. -/
def deviceIdentity (device : UsbDevice) : DeviceIdentity where
  vendor := device.vendor.toStringLossy
  model := device.model.toStringLossy
  revision := device.revision.toStringLossy
  serial := device.serial.toStringLossy

/-- The three readers agree about a device, and the two firewalls about which devices are unsigned.
-/
structure ReadersAgree (usbCa : KeysasHybridPubKeys schemes) (device : UsbDevice)
    (image : List UInt8) : Prop where
  io_linux : isSigned (some usbCa) image (deviceIdentity device) =
    firewallSigned usbCa device (extractSignature image)
  linux_windows : firewallSigned usbCa device (extractSignature image) =
    firewallSigned usbCa device (readSignature image)
  unsigned : extractSignature image = .ok none ↔ readSignature image = .ok none

/-! ### What the readers give -/

/-- The length field of the record, as far as the disk reaches. -/
def sizeField (image : List UInt8) : List UInt8 :=
  (image.drop signatureOffset).take 4

/-- The disk reaches behind the length field. -/
def HasSize (image : List UInt8) : Prop :=
  (sizeField image).length = 4

theorem takeExactly_of_hasSize {image : List UInt8} (hsize : HasSize image) :
    PrefixCodec.takeExactly 4 (image.drop signatureOffset) =
      some (sizeField image, (image.drop signatureOffset).drop 4) :=
  PrefixCodec.takeExactly_eq_some_iff.mpr ⟨hsize, (List.take_append_drop 4 _).symm⟩

/-- A disk that ends before the length is an error for both firewalls. -/
theorem readers_of_not_hasSize {image : List UInt8} (hsize : ¬ HasSize image) :
    (∃ error, extractSignature image = .error error) ∧
      ∃ error, readSignature image = .error error := by
  have hshort : (image.drop signatureOffset).length < 4 := by
    by_contra hlong
    exact hsize (List.length_take_of_le (Nat.le_of_not_lt hlong))
  constructor
  · refine ⟨.unexpectedEof, ?_⟩
    rw [extractSignature, PrefixCodec.takeExactly, if_neg (by omega)]
    rfl
  · refine ⟨.shortRead ((image.drop signatureOffset).take readSize).length, ?_⟩
    have hbuf : ((image.drop signatureOffset).take readSize).length < 4 :=
      lt_of_le_of_lt (List.length_take_le' _ _) hshort
    rw [readSignature]
    simp only [hbuf, if_true]
    rfl

/-- What Windows reads at once: the length field and the sixteen sectors behind it, as far as the
disk reaches. -/
theorem take_readSize {image : List UInt8} (hsize : HasSize image) :
    (image.drop signatureOffset).take readSize =
      sizeField image ++ ((image.drop signatureOffset).drop 4).take (readSize - 4) := by
  have hsplit := List.take_append_drop 4 (image.drop signatureOffset)
  rw [← sizeField] at hsplit
  conv_lhs => rw [← hsplit]
  rw [List.take_append, hsize, List.take_of_length_le (by rw [hsize]; decide)]

/-- For a record of length 0 Linux has the empty text, and Windows an unsigned device. -/
theorem readers_of_size_zero {image : List UInt8} (hsize : HasSize image)
    (hzero : bigEndianValue (sizeField image) = 0) :
    extractSignature image = .ok (some "") ∧ readSignature image = .ok none := by
  constructor
  · rw [extractSignature, takeExactly_of_hasSize hsize]
    simp only [okOr_some, ok_bind, hzero, PrefixCodec.takeExactly, Nat.zero_le, if_true,
      List.take_zero]
    rfl
  · have hlength : ¬ ((image.drop signatureOffset).take readSize).length < 4 := by
      rw [take_readSize hsize, List.length_append, hsize]
      omega
    have hfield : ((image.drop signatureOffset).take readSize).take 4 = sizeField image := by
      rw [take_readSize hsize]
      exact List.take_left' hsize
    rw [readSignature]
    simp only [hlength, if_false, hfield, hzero, true_or, if_true]
    rfl

/-- For a record of any other length the two firewalls read the same or both fail. -/
theorem readers_of_size_ne_zero {image : List UInt8} (hsize : HasSize image)
    (hnonzero : bigEndianValue (sizeField image) ≠ 0) (signature : Option String) :
    extractSignature image = .ok signature ↔ readSignature image = .ok signature := by
  have hbuf := take_readSize hsize
  set body := (image.drop signatureOffset).drop 4 with hbody
  have hlength : ((image.drop signatureOffset).take readSize).length =
      4 + min (readSize - 4) body.length := by
    rw [hbuf, List.length_append, hsize, List.length_take]
  have hfield : ((image.drop signatureOffset).take readSize).take 4 = sizeField image := by
    rw [hbuf]
    exact List.take_left' hsize
  have hlong : ¬ ((image.drop signatureOffset).take readSize).length < 4 := by omega
  rw [extractSignature, readSignature, takeExactly_of_hasSize hsize]
  simp only [okOr_some, ok_bind, hlong, if_false, hfield, hnonzero, false_or]
  rw [← hbody]
  generalize bigEndianValue (sizeField image) = size
  by_cases hsmall : size ≤ maxSignatureSize
  swap
  · rw [if_neg hsmall, if_pos (Nat.lt_of_not_le hsmall)]
  have hsector : size ≤ readSize - 4 := hsmall.trans (by decide)
  rw [if_pos hsmall, if_neg (Nat.not_lt_of_le hsmall), PrefixCodec.takeExactly]
  by_cases hroom : size ≤ body.length
  · have htext : (((image.drop signatureOffset).take readSize).take (4 + size)).drop 4 =
        body.take size := by
      have hfour := hsize
      rw [HasSize] at hfour
      rw [hbuf, ← hfour, List.take_length_add_append, List.drop_left, List.take_take, hfour,
        Nat.min_eq_left hsector]
    rw [if_pos hroom, if_neg (by omega), htext]
    rfl
  · rw [if_neg hroom, if_pos (by omega)]
    refine iff_of_false ?_ ?_ <;> (intro herror; cases herror)

/-- Linux reads the text that keysas-io reads. -/
theorem extractSignature_eq_some_iff {image : List UInt8} {text : String} :
    extractSignature image = .ok (some text) ↔ readRecord image = .ok text := by
  unfold extractSignature readRecord
  cases PrefixCodec.takeExactly 4 (image.drop signatureOffset) with
  | none => refine iff_of_false ?_ ?_ <;> (intro hread; cases hread)
  | some header =>
    simp only [okOr_some, ok_bind]
    by_cases hsmall : bigEndianValue header.1 ≤ maxSignatureSize
    swap
    · rw [if_neg hsmall, if_pos (Nat.lt_of_not_le hsmall)]
      refine iff_of_false ?_ ?_ <;> (intro hread; cases hread)
    rw [if_pos hsmall, if_neg (Nat.not_lt_of_le hsmall)]
    cases PrefixCodec.takeExactly (bigEndianValue header.1) header.2 with
    | none => refine iff_of_false ?_ ?_ <;> (intro hread; cases hread)
    | some body =>
      simp only [okOr_some, ok_bind]
      cases Bincode.fromUtf8 body.1 with
      | none => refine iff_of_false ?_ ?_ <;> (intro hread; cases hread)
      | some read =>
        constructor
        · intro hread
          rw [Option.some.inj (Except.ok.inj hread), okOr_some]
        · intro hread
          rw [Except.ok.inj hread]
          rfl

/-! ### The decisions -/

/-- The empty text is no signature. -/
theorem not_signedFor_empty (usbCa : KeysasHybridPubKeys schemes) (device : UsbDevice) :
    ¬ SignedFor usbCa device "" := by
  rintro ⟨sigCl, sigPq, rest, -, -, -, hsplit, -⟩
  rw [split_empty] at hsplit
  cases hsplit

/-- Linux finds a device signed when its record is a text with two signatures of the device in
front. -/
theorem firewallSigned_extractSignature_iff {usbCa : KeysasHybridPubKeys schemes}
    {device : UsbDevice} {image : List UInt8} :
    firewallSigned usbCa device (extractSignature image) = true ↔
      ∃ text, readRecord image = .ok text ∧ SignedFor usbCa device text := by
  constructor
  · intro hsigned
    cases hread : extractSignature image with
    | error error => rw [hread] at hsigned; cases hsigned
    | ok signature =>
      rw [hread] at hsigned
      obtain ⟨text, rfl, htext⟩ := signatureVerifies_iff.mp hsigned
      exact ⟨text, extractSignature_eq_some_iff.mp hread, htext⟩
  · rintro ⟨text, hread, htext⟩
    rw [extractSignature_eq_some_iff.mpr hread]
    exact signatureVerifies_iff.mpr ⟨text, rfl, htext⟩

/-- The text that the signatures of a device cover is the same for all. -/
theorem data_deviceIdentity (device : UsbDevice) :
    (deviceIdentity device).data "out" = signedData device := rfl

/-- A text of which keysas-io gets signatures that verify has two pieces, and they are the
signatures of the device. -/
theorem signedFor_of_parseRecord {usbCa : KeysasHybridPubKeys schemes} {device : UsbDevice}
    {text : String} {signatures : KeysasHybridSignature schemes}
    (hparse : parseRecord text = .ok signatures)
    (hverify : verifyKeySignatures (Bincode.utf8 (signedData device)) signatures usbCa = true) :
    SignedFor usbCa device text ∧ (split '|' text).length = 2 := by
  rw [parseRecord] at hparse
  by_cases hcount : (split '|' text).length = 2
  swap
  · simp only [hcount, ne_eq, not_false_eq_true, if_true] at hparse
    cases hparse
  simp only [hcount, ne_eq, not_true_eq_false, if_false] at hparse
  obtain ⟨sigCl, sigPq, hsplit⟩ := List.length_eq_two.mp hcount
  rw [hsplit] at hparse
  obtain ⟨sCl, hsCl, hparse⟩ := exists_of_okOr_bind_eq_ok hparse
  obtain rfl := Option.some.inj hsCl
  obtain ⟨classic, hclassic, hparse⟩ := exists_of_okOr_bind_eq_ok hparse
  obtain ⟨sPq, hsPq, hparse⟩ := exists_of_okOr_bind_eq_ok hparse
  obtain rfl := Option.some.inj hsPq
  obtain ⟨pqBytes, hpqBytes, hparse⟩ := exists_of_okOr_bind_eq_ok hparse
  by_cases hlength : classic.length = 64
  swap
  · simp only [hlength, not_false_eq_true, if_true] at hparse
    cases hparse
  simp only [hlength, not_true_eq_false, if_false] at hparse
  obtain ⟨pq, hpq, hparse⟩ := exists_of_okOr_bind_eq_ok hparse
  rw [← Except.ok.inj hparse] at hverify
  obtain ⟨hclassicValid, hpqValid⟩ := Bool.and_eq_true_iff.mp hverify
  exact ⟨⟨sigCl, sigPq, [], classic, pqBytes, pq, hsplit, hclassic, hlength, hpqBytes, hpq,
    hclassicValid, hpqValid⟩, hcount⟩

/-- Of two pieces that are the signatures of the device keysas-io gets signatures that verify. -/
theorem exists_parseRecord_of_signedFor {usbCa : KeysasHybridPubKeys schemes} {device : UsbDevice}
    {text : String} (hsigned : SignedFor usbCa device text)
    (hcount : (split '|' text).length = 2) :
    ∃ signatures, parseRecord text = .ok signatures ∧
      verifyKeySignatures (Bincode.utf8 (signedData device)) signatures usbCa = true := by
  obtain ⟨sigCl, sigPq, rest, classic, pqBytes, pq, hsplit, hclassic, hlength, hpqBytes, hpq,
    hclassicValid, hpqValid⟩ := hsigned
  refine ⟨⟨classic, pq⟩, ?_, Bool.and_eq_true_iff.mpr ⟨hclassicValid, hpqValid⟩⟩
  rw [hsplit] at hcount
  simp only [parseRecord, hsplit, hcount, ne_eq, not_true_eq_false, if_false, List.head?_cons,
    List.tail_cons, okOr_some, ok_bind, hclassic, hpqBytes, hlength, hpq]
  rfl

/-- keysas-io also asks that the text has no third piece. -/
theorem isSigned_iff {usbCa : KeysasHybridPubKeys schemes} {device : UsbDevice}
    {image : List UInt8} :
    isSigned (some usbCa) image (deviceIdentity device) = true ↔
      ∃ text, readRecord image = .ok text ∧ SignedFor usbCa device text ∧
        (split '|' text).length = 2 := by
  unfold isSigned getSignature
  rw [data_deviceIdentity]
  constructor
  · intro hsigned
    cases hread : readRecord image with
    | error error =>
      rw [hread] at hsigned
      cases hsigned
    | ok text =>
      cases hparse : (parseRecord text : Except _ (KeysasHybridSignature schemes)) with
      | error error => simp [hread, hparse] at hsigned
      | ok signatures =>
        refine ⟨text, rfl, signedFor_of_parseRecord hparse ?_⟩
        simpa [hread, hparse] using hsigned
  · rintro ⟨text, hread, hsigned, hcount⟩
    obtain ⟨signatures, hparse, hverify⟩ := exists_parseRecord_of_signedFor hsigned hcount
    simp [hread, hparse, hverify]

/-- The two firewalls always come to the same decision. -/
theorem firewallSigned_eq (usbCa : KeysasHybridPubKeys schemes) (device : UsbDevice)
    (image : List UInt8) :
    firewallSigned usbCa device (extractSignature image) =
      firewallSigned usbCa device (readSignature image) := by
  by_cases hsize : HasSize image
  swap
  · obtain ⟨⟨first, hlinux⟩, ⟨second, hwindows⟩⟩ := readers_of_not_hasSize hsize
    rw [hlinux, hwindows]
    rfl
  by_cases hzero : bigEndianValue (sizeField image) = 0
  · obtain ⟨hlinux, hwindows⟩ := readers_of_size_zero hsize hzero
    have hempty : signatureVerifies usbCa device (some "") = false := by
      rw [Bool.eq_false_iff]
      intro hverifies
      obtain ⟨text, htext, hsigned⟩ := signatureVerifies_iff.mp hverifies
      rw [← Option.some.inj htext] at hsigned
      exact not_signedFor_empty usbCa device hsigned
    rw [hlinux, hwindows]
    exact hempty
  · have hsame := readers_of_size_ne_zero hsize hzero
    cases hlinux : extractSignature image with
    | ok signature => rw [(hsame signature).mp hlinux]
    | error error =>
      cases hwindows : readSignature image with
      | error other => rfl
      | ok signature =>
        rw [(hsame signature).mpr hwindows] at hlinux
        cases hlinux

/-! ### Agreement -/

/-- The record of a length that a reader takes carries the two signatures of the device and then at
least one more bar. -/
def SignedWithMore (usbCa : KeysasHybridPubKeys schemes) (device : UsbDevice)
    (image : List UInt8) : Prop :=
  ∃ text rest, image.drop signatureOffset = record text ++ rest ∧
    (Bincode.utf8 text).length ≤ maxSignatureSize ∧ SignedFor usbCa device text ∧
    2 < (split '|' text).length

/-- keysas-io and Linux come to the same decision exactly when no bar follows the signatures of the
device. -/
theorem isSigned_eq_firewallSigned_iff (usbCa : KeysasHybridPubKeys schemes) (device : UsbDevice)
    (image : List UInt8) :
    isSigned (some usbCa) image (deviceIdentity device) =
        firewallSigned usbCa device (extractSignature image) ↔
      ¬ SignedWithMore usbCa device image := by
  rw [Bool.eq_iff_iff, isSigned_iff, firewallSigned_extractSignature_iff]
  constructor
  · rintro hsame ⟨text, rest, himage, hlength, hsigned, hmore⟩
    have hread := readRecord_of_record himage hlength
    obtain ⟨other, hother, -, hcount⟩ := hsame.mpr ⟨text, hread, hsigned⟩
    obtain rfl : text = other := Except.ok.inj (hread.symm.trans hother)
    omega
  · intro hmore
    constructor
    · rintro ⟨text, hread, hsigned, -⟩
      exact ⟨text, hread, hsigned⟩
    · rintro ⟨text, hread, hsigned⟩
      refine ⟨text, hread, hsigned, ?_⟩
      obtain ⟨hlength, rest, himage⟩ := readRecord_eq_ok_iff.mp hread
      have hfew : ¬ 2 < (split '|' text).length :=
        fun hcount ↦ hmore ⟨text, rest, himage, hlength, hsigned, hcount⟩
      obtain ⟨sigCl, sigPq, others, -, -, -, hsplit, -⟩ := hsigned
      rw [hsplit, List.length_cons, List.length_cons] at hfew ⊢
      omega

/-- A length field stands for 0 exactly when its four bytes are 0. -/
theorem sizeField_eq_zeros_iff {image : List UInt8} :
    sizeField image = [0, 0, 0, 0] ↔
      HasSize image ∧ bigEndianValue (sizeField image) = 0 := by
  constructor
  · intro hzeros
    rw [HasSize, hzeros]
    exact ⟨rfl, rfl⟩
  · rintro ⟨hsize, hzero⟩
    have hbytes := bigEndianBytes_bigEndianValue (sizeField image)
    rw [hsize, hzero] at hbytes
    exact hbytes.symm

/-- The two firewalls agree about which devices are unsigned exactly when the length is not 0. -/
theorem unsigned_iff (image : List UInt8) :
    (extractSignature image = .ok none ↔ readSignature image = .ok none) ↔
      sizeField image ≠ [0, 0, 0, 0] := by
  rw [Ne, sizeField_eq_zeros_iff]
  by_cases hsize : HasSize image
  swap
  · obtain ⟨⟨first, hlinux⟩, ⟨second, hwindows⟩⟩ := readers_of_not_hasSize hsize
    rw [hlinux, hwindows]
    simp [hsize]
  by_cases hzero : bigEndianValue (sizeField image) = 0
  · obtain ⟨hlinux, hwindows⟩ := readers_of_size_zero hsize hzero
    rw [hlinux, hwindows]
    simp [hsize, hzero]
  · simp [hzero, readers_of_size_ne_zero hsize hzero none]

/-- The three readers agree about a device if and only if the length of the record is not 0 and no
bar follows the two signatures of the device. -/
theorem readersAgree_iff (usbCa : KeysasHybridPubKeys schemes) (device : UsbDevice)
    (image : List UInt8) :
    ReadersAgree usbCa device image ↔
      sizeField image ≠ [0, 0, 0, 0] ∧ ¬ SignedWithMore usbCa device image := by
  constructor
  · intro hagree
    exact ⟨(unsigned_iff image).mp hagree.unsigned,
      (isSigned_eq_firewallSigned_iff usbCa device image).mp hagree.io_linux⟩
  · rintro ⟨hzeros, hmore⟩
    constructor
    · exact (isSigned_eq_firewallSigned_iff usbCa device image).mpr hmore
    · exact firewallSigned_eq usbCa device image
    · exact (unsigned_iff image).mpr hzeros

/-- A disk of zeros, which has never been signed. -/
def blankDisk : List UInt8 :=
  List.replicate (signatureOffset + 4) 0

/-- A text with the two transparent signatures of a device, each followed by a bar. -/
def extendedText (device : UsbDevice) : String :=
  let message := Bincode.utf8 (signedData device)
  Base64.encode (transparentEd25519.sign (0 : UInt8) message) ++ "|" ++
    (Base64.encode (0 :: message) ++ "|" ++ "")

theorem split_extendedText (device : UsbDevice) :
    split '|' (extendedText device) =
      [Base64.encode (transparentEd25519.sign (0 : UInt8) (Bincode.utf8 (signedData device))),
        Base64.encode (0 :: Bincode.utf8 (signedData device)), ""] := by
  have hlast := split_append
    (Base64.bar_not_mem_encode (0 :: Bincode.utf8 (signedData device))) ""
  have hfirst := split_append (Base64.bar_not_mem_encode
    (transparentEd25519.sign (0 : UInt8) (Bincode.utf8 (signedData device))))
    (Base64.encode (0 :: Bincode.utf8 (signedData device)) ++ "|" ++ "")
  rw [split_empty] at hlast
  exact hfirst.trans (congrArg _ hlast)

theorem signedFor_extendedText (device : UsbDevice) :
    SignedFor (transparentPubKeys 0) device (extendedText device) :=
  ⟨_, _, _, _, _, _, split_extendedText device, Base64.decode_encode _,
    transparentEd25519.length_sign _ _, Base64.decode_encode _, rfl,
    beq_self_eq_true _, beq_self_eq_true _⟩

/-- A disk with the record of that text. -/
def extendedDisk : List UInt8 :=
  writeAt signatureOffset (record (extendedText unsignedDevice)) []

/-- The readers do not always agree: about a disk of zeros, and about one on which the signatures
are followed by another bar. -/
theorem not_readersAgree :
    ¬ ReadersAgree (transparentPubKeys 0) unsignedDevice blankDisk ∧
      ¬ ReadersAgree (transparentPubKeys 0) unsignedDevice extendedDisk := by
  constructor
  · intro hagree
    have hzeros : sizeField blankDisk = [0, 0, 0, 0] := by
      rw [sizeField, blankDisk, List.drop_replicate, List.take_replicate]
      rfl
    exact (unsigned_iff blankDisk).mp hagree.unsigned hzeros
  · intro hagree
    have hlength : (Bincode.utf8 (extendedText unsignedDevice)).length ≤ maxSignatureSize := by
      decide +kernel
    have hcount : 2 < (split '|' (extendedText unsignedDevice)).length := by
      rw [split_extendedText]
      exact Nat.lt_succ_self 2
    exact (isSigned_eq_firewallSigned_iff _ _ _).mp hagree.io_linux
      ⟨extendedText unsignedDevice, _, drop_writeAt _ _ _, hlength,
        signedFor_extendedText unsignedDevice, hcount⟩

end Keysas.Firewall
