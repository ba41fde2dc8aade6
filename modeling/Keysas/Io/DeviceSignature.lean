import Keysas.Keys.HybridKeys
import Keysas.Rust.Text
import Keysas.Wire.DiskImage

/-!
# The signature on a device, as keysas-io reads it

A signed USB device carries a record behind its first sector: a length of four bytes, the most
significant one first, and a text with the two signatures in base64, separated by a bar.
`getSignature` reads the record and `isSigned` verifies it for the identity that the kernel
reports.

`getSignature_of_record` says what is read where a record stands: the signatures of its text,
whatever follows it on the disk. The decision depends on nothing before the record
(`isSigned_congr`).
-/

set_option autoImplicit false
set_option relaxedAutoImplicit false

namespace Keysas.Io

open Crypto Keys RustStd Wire

variable {schemes : Schemes}

/-! ### Reading the record -/

/-- The errors of `get_signature`. -/
inductive SignatureError where
  /-- The disk ends before the length does. -/
  | readSize
  /-- "Invalid length for signature". -/
  | invalidLength
  /-- The disk ends before the text does. -/
  | readSignature
  /-- The record is not UTF-8. -/
  | utf8
  /-- "Invalid number of certificates". -/
  | invalidCount
  /-- "Cannot parse Classic signature from USB device". -/
  | parseClassic
  /-- "Cannot decode base64 Classic signature from bytes". -/
  | decodeClassic
  /-- "Cannot parse PQ signature from USB device". -/
  | parsePq
  /-- "Cannot decode base64 PQ signature from bytes". -/
  | decodePq
  /-- "Signature is not 64 bytes long". -/
  | classicLength
  /-- "Cannot parse PQ signature from bytes". -/
  | pqFromBytes
  deriving DecidableEq

/-- Where the record begins: behind the first sector. -/
def signatureOffset : ℕ := 512

/-- The largest length that a reader takes. -/
def maxSignatureSize : ℕ := 7684

/-- The first part of `get_signature`: the text of the record. -/
def readRecord (image : List UInt8) : Except SignatureError String := do
  let (buf, rest) ← okOr (PrefixCodec.takeExactly 4 (image.drop signatureOffset)) .readSize
  let signatureSize := bigEndianValue buf
  if maxSignatureSize < signatureSize then throw .invalidLength
  let (buffer, _) ← okOr (PrefixCodec.takeExactly signatureSize rest) .readSignature
  okOr (Bincode.fromUtf8 buffer) .utf8

/-- The second part of `get_signature`: exactly two signatures. -/
def parseRecord (text : String) : Except SignatureError (KeysasHybridSignature schemes) := do
  let signatures := split '|' text
  if signatures.length ≠ 2 then throw .invalidCount
  let sCl ← okOr signatures.head? .parseClassic
  let sClDecoded ← okOr (Base64.decode sCl) .decodeClassic
  let sPq ← okOr signatures.tail.head? .parsePq
  let sPqDecoded ← okOr (Base64.decode sPq) .decodePq
  if sClDecoded.length ≠ 64 then throw .classicLength
  let sigPq ← okOr (schemes.mlDsa87.signatureFromBytes sPqDecoded) .pqFromBytes
  return ⟨sClDecoded, sigPq⟩

/-- `get_signature`. -/
def getSignature (image : List UInt8) : Except SignatureError (KeysasHybridSignature schemes) := do
  parseRecord (← readRecord image)

/-! ### Verifying it -/

/-- What names a physical device, in texts. -/
@[ext] structure DeviceIdentity where
  vendor : String
  model : String
  revision : String
  serial : String
  deriving DecidableEq

/-- The text that is signed for a device and a direction. -/
def DeviceIdentity.data (identity : DeviceIdentity) (direction : String) : String :=
  identity.vendor ++ "/" ++ identity.model ++ "/" ++ identity.revision ++ "/" ++ identity.serial ++
    "/" ++ direction

/-- No field of an identity has a slash. -/
structure DeviceIdentity.SlashFree (identity : DeviceIdentity) : Prop where
  vendor : '/' ∉ identity.vendor.toList
  model : '/' ∉ identity.model.toList
  revision : '/' ∉ identity.revision.toList
  serial : '/' ∉ identity.serial.toList

/-- The signed text determines fields without slashes and the direction. Assumes: no field has a
slash, on either side. -/
theorem DeviceIdentity.data_eq_iff {first second : DeviceIdentity} {direction other : String}
    (hfirst : first.SlashFree) (hsecond : second.SlashFree) :
    first.data direction = second.data other ↔ first = second ∧ direction = other := by
  constructor
  · intro hdata
    unfold DeviceIdentity.data at hdata
    simp only [String.append_assoc] at hdata
    obtain ⟨hvendor, hmodels⟩ := append_separator_inj hfirst.vendor hsecond.vendor hdata
    obtain ⟨hmodel, hrevisions⟩ := append_separator_inj hfirst.model hsecond.model hmodels
    obtain ⟨hrevision, hserials⟩ :=
      append_separator_inj hfirst.revision hsecond.revision hrevisions
    obtain ⟨hserial, hdirection⟩ := append_separator_inj hfirst.serial hsecond.serial hserials
    refine ⟨?_, hdirection⟩
    ext1
    · exact hvendor
    · exact hmodel
    · exact hrevision
    · exact hserial
  · rintro ⟨rfl, rfl⟩
    rfl

/-- `is_signed`. The keys are those of the two certificates of the authority, when these have
some. -/
def isSigned (pubkeys : Option (KeysasHybridPubKeys schemes)) (image : List UInt8)
    (identity : DeviceIdentity) : Bool :=
  match pubkeys with
  | none => false
  | some pubkeys =>
    match getSignature image with
    | .error _ => false
    | .ok signatures => verifyKeySignatures (Bincode.utf8 (identity.data "out")) signatures pubkeys

/-! ### Where a record stands -/

/-- A record: the length of a text in four bytes and the text. -/
def record (text : String) : List UInt8 :=
  bigEndianBytes 4 (Bincode.utf8 text).length ++ Bincode.utf8 text

/-- A record that stands behind the first sector is read, whatever follows it. Assumes: its length
is one that a reader takes. -/
theorem readRecord_of_record {image rest : List UInt8} {text : String}
    (himage : image.drop signatureOffset = record text ++ rest)
    (hlength : (Bincode.utf8 text).length ≤ maxSignatureSize) : readRecord image = .ok text := by
  have hfits : (Bincode.utf8 text).length < 256 ^ 4 := lt_of_le_of_lt hlength (by decide)
  have hsize : PrefixCodec.takeExactly 4 (image.drop signatureOffset) =
      some (bigEndianBytes 4 (Bincode.utf8 text).length, Bincode.utf8 text ++ rest) := by
    rw [PrefixCodec.takeExactly_eq_some_iff, himage, record, List.append_assoc]
    exact ⟨length_bigEndianBytes 4 _, rfl⟩
  simp only [readRecord, hsize, okOr_some, ok_bind, bigEndianValue_bigEndianBytes hfits]
  rw [if_neg (by omega), PrefixCodec.takeExactly_append]
  simp only [okOr_some, ok_bind, Bincode.fromUtf8_utf8]

/-- What is read is a record that stands behind the first sector, of a length that a reader takes.
-/
theorem readRecord_eq_ok_iff {image : List UInt8} {text : String} :
    readRecord image = .ok text ↔
      (Bincode.utf8 text).length ≤ maxSignatureSize ∧
        ∃ rest, image.drop signatureOffset = record text ++ rest := by
  constructor
  · intro hread
    obtain ⟨⟨buf, rest⟩, hbuf, hread⟩ := exists_of_okOr_bind_eq_ok hread
    obtain ⟨hsize, hdrop⟩ := PrefixCodec.takeExactly_eq_some_iff.mp hbuf
    by_cases hlength : maxSignatureSize < bigEndianValue buf
    · simp only [hlength, if_true] at hread
      cases hread
    · simp only [hlength, if_false] at hread
      obtain ⟨⟨buffer, tail⟩, hbuffer, hread⟩ := exists_of_okOr_bind_eq_ok hread
      obtain ⟨hcount, hrest⟩ := PrefixCodec.takeExactly_eq_some_iff.mp hbuffer
      obtain rfl := Bincode.fromUtf8_eq_some_iff.mp (okOr_eq_ok_iff.mp hread)
      refine ⟨by omega, tail, ?_⟩
      rw [hdrop, hrest, record, hcount, ← hsize, bigEndianBytes_bigEndianValue,
        List.append_assoc]
  · rintro ⟨hlength, rest, himage⟩
    exact readRecord_of_record himage hlength

/-- Where a record stands, the signatures are those of its text. -/
theorem getSignature_of_record {image rest : List UInt8} {text : String}
    (himage : image.drop signatureOffset = record text ++ rest)
    (hlength : (Bincode.utf8 text).length ≤ maxSignatureSize) :
    getSignature image =
      (parseRecord text : Except SignatureError (KeysasHybridSignature schemes)) := by
  rw [getSignature, readRecord_of_record himage hlength]
  rfl

/-- The signatures on a device depend only on what stands behind its first sector. -/
theorem isSigned_congr (pubkeys : Option (KeysasHybridPubKeys schemes)) (identity : DeviceIdentity)
    {first second : List UInt8}
    (hdrop : first.drop signatureOffset = second.drop signatureOffset) :
    isSigned pubkeys first identity = isSigned pubkeys second identity := by
  have hread : readRecord first = readRecord second := by
    rw [readRecord, hdrop, ← readRecord]
  unfold isSigned getSignature
  rw [hread]

/-- The text of a record with two signatures is parsed back into them. Assumes: the first has 64
bytes and the scheme takes the second. -/
theorem parseRecord_encode {classic pq : List UInt8} {signature : schemes.mlDsa87.Signature}
    (hclassic : classic.length = 64)
    (hpq : schemes.mlDsa87.signatureFromBytes pq = some signature) :
    parseRecord (Base64.encode classic ++ "|" ++ Base64.encode pq) = .ok ⟨classic, signature⟩ := by
  have hsplit : split '|' (Base64.encode classic ++ "|" ++ Base64.encode pq) =
      [Base64.encode classic, Base64.encode pq] :=
    split_join (Base64.bar_not_mem_encode classic) (Base64.bar_not_mem_encode pq)
  simp [parseRecord, hsplit, hclassic, hpq]

end Keysas.Io
