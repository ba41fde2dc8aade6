import Keysas.Io.DeviceSignature
import Keysas.Reports.FileReport
import Keysas.Runs.HistoryRun
import Keysas.Runs.TracedProgram

/-!
# Signing and revoking USB devices

The administration tool signs a USB device for keysas-io. `signUsb` gives the disk a partition
table and writes the record with the signatures behind it; `revokeDevice` overwrites the record
with zeros. A device can be signed and revoked any number of times, in any order, with records of
any lengths, and an operation that fails may have written the partition table.

`holdsLast_of_run` is the invariant of such histories: behind its first sector the disk has the
record of the last operation that succeeded, or what it had at the start when none did. From it
`isSigned_iff_of_run` says what keysas-io decides about the device then. The last operation must
have been a signature with the keys of the authority, and it must have covered the text that
keysas-io puts together: the fields of the identity and the direction `out`, joined by slashes.
`data_eq_iff` says that this text determines the fields when they have no slash, as those of the
kernel do.
-/

set_option autoImplicit false
set_option relaxedAutoImplicit false

namespace Keysas.Admin

open Crypto Io Keys Reports RustStd Runs Wire

variable {schemes : Schemes}

/-! ### The operations -/

/-- The partition table that the library makes for a disk, when it can: one sector. -/
structure PartitionTable where
  /-- The first sector of the disk with a fresh table. -/
  reset : List UInt8 → Option (List UInt8)
  length_reset : ∀ {image sector}, reset image = some sector → sector.length = signatureOffset

variable (schemes) in
/-- What `sign_usb` is called with. The keys are those that the directory of the authority holds
and the password opens, when there are some. -/
structure SignRequest where
  identity : DeviceIdentity
  direction : String
  keys : Option (HybridKeyPair schemes)

/-- The errors of the operations. -/
inductive UsbSignError where
  /-- "Could not make a partition table". -/
  | partitionTable
  /-- The private keys are not found or not opened. -/
  | loadKeys
  /-- The ML-DSA-87 signature fails. -/
  | messageSign
  deriving DecidableEq

/-- `sign_device`: the two signatures in base64 with a bar between them. -/
def signDevice (identity : DeviceIdentity) (direction : String) (keys : HybridKeyPair schemes) :
    Except UsbSignError String := do
  let data := Bincode.utf8 (identity.data direction)
  let classicSig := schemes.ed25519.sign keys.classic data
  let pqSig ← okOr (schemes.mlDsa87.sign keys.pq data) .messageSign
  return Base64.encode classicSig ++ "|" ++ Base64.encode pqSig

/-- The two writes of a record: its length and its text. -/
def writeRecord (text : String) : Program Empty (List UInt8) UsbSignError Unit := do
  Program.modify (writeAt signatureOffset (bigEndianBytes 4 (Bincode.utf8 text).length))
  Program.modify (writeAt (signatureOffset + 4) (Bincode.utf8 text))

/-- `sign_usb` on a disk that has room for the record: the partition table is written before the
keys are loaded. -/
def signUsb (mbr : PartitionTable) (request : SignRequest schemes) :
    Program Empty (List UInt8) UsbSignError Unit := do
  let image ← Program.get
  let sector ← Program.ofExcept (okOr (mbr.reset image) .partitionTable)
  Program.modify (writeAt 0 sector)
  let keys ← Program.ofExcept (okOr request.keys .loadKeys)
  let attrs ← Program.ofExcept (signDevice request.identity request.direction keys)
  writeRecord attrs

/-- The text that `revoke_device` writes. -/
def blank : String :=
  String.ofList (List.replicate 7683 '0')

/-- `revoke_device`. -/
def revokeDevice : Program Empty (List UInt8) UsbSignError Unit :=
  writeRecord blank

variable (schemes) in
/-- One operation on a device. -/
inductive DiskOperation where
  | sign (request : SignRequest schemes)
  | revoke

/-- The program of an operation. -/
def DiskOperation.program (mbr : PartitionTable) :
    DiskOperation schemes → Program Empty (List UInt8) UsbSignError Unit
  | .sign request => signUsb mbr request
  | .revoke => revokeDevice

/-- One operation on a disk: the disk afterwards and the result. -/
def diskStep (mbr : PartitionTable) (image : List UInt8) (operation : DiskOperation schemes) :
    List UInt8 × Except UsbSignError Unit :=
  let ending := (operation.program mbr).run image
  (ending.state, ending.value)

/-! ### What one operation leaves on the disk -/

/-- The text of the record that an operation writes, unless it fails. -/
def DiskOperation.text : DiskOperation schemes → Except UsbSignError String
  | .sign request => do
    signDevice request.identity request.direction (← okOr request.keys .loadKeys)
  | .revoke => .ok blank

/-- The record of an operation has a length that a reader takes. -/
def DiskOperation.Fits (operation : DiskOperation schemes) : Prop :=
  ∀ text, operation.text = .ok text → (Bincode.utf8 text).length ≤ maxSignatureSize

/-- A record with an ML-DSA-87 signature of at most 5694 bytes fits; the scheme makes signatures of
4627 bytes. -/
theorem DiskOperation.fits_sign {request : SignRequest schemes}
    (hlength : ∀ keys bytes, request.keys = some keys →
      schemes.mlDsa87.sign keys.pq
        (Bincode.utf8 (request.identity.data request.direction)) = some bytes →
      bytes.length ≤ 5694) : (DiskOperation.sign request).Fits := by
  intro text htext
  obtain ⟨keys, hkeys, hsign⟩ := exists_of_okOr_bind_eq_ok htext
  obtain ⟨bytes, hbytes, hattrs⟩ := exists_of_okOr_bind_eq_ok hsign
  have hpq := hlength keys bytes hkeys hbytes
  have hbar : String.utf8ByteSize "|" = 1 := rfl
  rw [← Except.ok.inj hattrs, Bincode.length_utf8, String.utf8ByteSize_append,
    String.utf8ByteSize_append, Base64.utf8ByteSize_encode, Base64.utf8ByteSize_encode,
    schemes.ed25519.length_sign, hbar]
  unfold maxSignatureSize
  omega

/-- Behind the first sector stands the record of a text. -/
def HoldsRecord (image : List UInt8) (text : String) : Prop :=
  ∃ rest, image.drop signatureOffset = record text ++ rest

/-- The two writes of a record put it behind the first sector. -/
theorem run_writeRecord (text : String) (image : List UInt8) :
    (writeRecord text).run image = ⟨[], writeAt signatureOffset (record text) image, .ok ()⟩ := by
  have hwrites := writeAt_writeAt signatureOffset (bigEndianBytes 4 (Bincode.utf8 text).length)
    (Bincode.utf8 text) image
  rw [length_bigEndianBytes] at hwrites
  rw [writeRecord, Program.run_modify_bind, Program.run_modify, hwrites, record]

theorem holdsRecord_writeAt (text : String) (image : List UInt8) :
    HoldsRecord (writeAt signatureOffset (record text) image) text :=
  ⟨_, drop_writeAt signatureOffset (record text) image⟩

/-- An operation either succeeds, and then its record stands behind the first sector, or fails and
leaves everything there as it was. -/
theorem diskStep_cases (mbr : PartitionTable) (image : List UInt8)
    (operation : DiskOperation schemes) :
    ((diskStep mbr image operation).2 = .ok () ∧
      ∃ text, operation.text = .ok text ∧ HoldsRecord (diskStep mbr image operation).1 text) ∨
    ((∃ error, (diskStep mbr image operation).2 = .error error) ∧
      (diskStep mbr image operation).1.drop signatureOffset = image.drop signatureOffset) := by
  cases operation with
  | revoke =>
    left
    rw [diskStep, DiskOperation.program, revokeDevice, run_writeRecord]
    exact ⟨rfl, blank, rfl, holdsRecord_writeAt blank image⟩
  | sign request =>
    rw [diskStep, DiskOperation.program, signUsb, Program.run_get_bind]
    cases hreset : mbr.reset image with
    | none => exact Or.inr ⟨⟨_, rfl⟩, rfl⟩
    | some sector =>
      have hsector : (writeAt 0 sector image).drop signatureOffset =
          image.drop signatureOffset :=
        drop_writeAt_of_le (by rw [mbr.length_reset hreset, Nat.zero_add]) image
      rw [okOr_some, Program.run_ofExcept_ok_bind, Program.run_modify_bind]
      cases hkeys : request.keys with
      | none => exact Or.inr ⟨⟨_, rfl⟩, hsector⟩
      | some keys =>
        rw [okOr_some, Program.run_ofExcept_ok_bind]
        cases hattrs : signDevice request.identity request.direction keys with
        | error error => exact Or.inr ⟨⟨error, rfl⟩, hsector⟩
        | ok attrs =>
          left
          rw [Program.run_ofExcept_ok_bind, run_writeRecord]
          refine ⟨rfl, attrs, ?_, holdsRecord_writeAt attrs _⟩
          rw [DiskOperation.text, hkeys, okOr_some, ok_bind, hattrs]

/-! ### Runs -/

variable (schemes) in
/-- What has been done to a disk, with the results, oldest first. -/
abbrev DiskHistory := List (DiskOperation schemes × Except UsbSignError Unit)

/-- The last operation of a history that succeeded. -/
def lastSuccess (history : DiskHistory schemes) :
    Option (DiskOperation schemes) :=
  (history.reverse.find? fun entry ↦ entry.2.toBool).map Prod.fst

theorem lastSuccess_append (history : DiskHistory schemes)
    (operation : DiskOperation schemes) (result : Except UsbSignError Unit) :
    lastSuccess (history ++ [(operation, result)]) =
      if result.toBool then some operation else lastSuccess history := by
  rw [lastSuccess, List.reverse_append, List.reverse_singleton, List.singleton_append,
    List.find?_cons]
  cases result with
  | error error => rfl
  | ok value => rfl

/-- The last operation that succeeded is one of the history. -/
theorem mem_of_lastSuccess {history : DiskHistory schemes}
    {operation : DiskOperation schemes} (hlast : lastSuccess history = some operation) :
    operation ∈ history.map Prod.fst := by
  obtain ⟨entry, hentry, rfl⟩ := Option.map_eq_some_iff.mp hlast
  exact List.mem_map_of_mem (List.mem_reverse.mp (List.mem_of_find?_eq_some hentry))

/-- Behind its first sector a disk has the record of the last operation that succeeded, or what it
had at the start. -/
def HoldsLast (start : List UInt8) (history : DiskHistory schemes)
    (image : List UInt8) : Prop :=
  match lastSuccess history with
  | none => image.drop signatureOffset = start.drop signatureOffset
  | some operation => ∃ text, operation.text = .ok text ∧ HoldsRecord image text

/-- What stands behind the first sector is all that the invariant is about. -/
theorem HoldsLast.congr {start : List UInt8}
    {history : DiskHistory schemes} {first second : List UInt8}
    (hlast : HoldsLast start history first)
    (hdrop : second.drop signatureOffset = first.drop signatureOffset) :
    HoldsLast start history second := by
  unfold HoldsLast HoldsRecord at hlast ⊢
  rw [hdrop]
  exact hlast

/-- Every run keeps the record of the last operation that succeeded. -/
theorem holdsLast_of_run {mbr : PartitionTable} {start : List UInt8}
    {guard : DiskHistory schemes → List UInt8 →
      DiskOperation schemes → Prop}
    {history : DiskHistory schemes} {image : List UInt8}
    (hrun : Run (diskStep mbr) guard start history image) : HoldsLast start history image := by
  refine Run.invariant ?_ ?_ hrun
  · show start.drop signatureOffset = start.drop signatureOffset
    rfl
  · intro history image operation _ hlast _
    rcases diskStep_cases mbr image operation with ⟨hresult, hrecord⟩ | ⟨⟨error, hresult⟩, hdrop⟩
    · rw [HoldsLast, lastSuccess_append, hresult]
      exact hrecord
    · have hkept := hlast.congr hdrop
      rw [HoldsLast, lastSuccess_append, hresult]
      exact hkept

/-! ### What keysas-io decides -/

/-- The public keys of a key pair. -/
def publicKeys (keys : HybridKeyPair schemes) : Option (KeysasHybridPubKeys schemes) := do
  let classic ← schemes.ed25519.verifyingKeyFromBytes
    (schemes.ed25519.verifyingKeyBytes keys.classic)
  let pq ← schemes.mlDsa87.publicKeyFromBytes (schemes.mlDsa87.publicKeyBytes keys.pq)
  return ⟨classic, pq⟩

/-- The signatures of one message under one key pair are ideal: they pass for a message and public
keys only when these are the signed message and the keys of the pair. No scheme has this for all
messages at once, as signatures are shorter than messages. -/
structure Ideal (keys : HybridKeyPair schemes) (signed : List UInt8)
    (pubkeys : KeysasHybridPubKeys schemes) (message : List UInt8) : Prop where
  classic : schemes.ed25519.verifyStrict pubkeys.classic message
      (schemes.ed25519.sign keys.classic signed) = true →
    schemes.ed25519.verifyingKeyFromBytes (schemes.ed25519.verifyingKeyBytes keys.classic) =
      some pubkeys.classic ∧ signed = message
  pq : ∀ bytes signature, schemes.mlDsa87.sign keys.pq signed = some bytes →
    schemes.mlDsa87.signatureFromBytes bytes = some signature →
    schemes.mlDsa87.verify pubkeys.pq message signature = true →
      schemes.mlDsa87.publicKeyFromBytes (schemes.mlDsa87.publicKeyBytes keys.pq) =
        some pubkeys.pq ∧ signed = message

/-- The signatures that the operations of a history make are ideal for one identity and the keys of
the authority. -/
def IdealSignatures (usbCa : KeysasHybridPubKeys schemes) (identity : DeviceIdentity)
    (history : DiskHistory schemes) : Prop :=
  ∀ request keys, .sign request ∈ history.map Prod.fst → request.keys = some keys →
    Ideal keys (Bincode.utf8 (request.identity.data request.direction)) usbCa
      (Bincode.utf8 (identity.data "out"))

theorem publicKeys_eq_some_iff {keys : HybridKeyPair schemes}
    {pubkeys : KeysasHybridPubKeys schemes} :
    publicKeys keys = some pubkeys ↔
      schemes.ed25519.verifyingKeyFromBytes (schemes.ed25519.verifyingKeyBytes keys.classic) =
          some pubkeys.classic ∧
        schemes.mlDsa87.publicKeyFromBytes (schemes.mlDsa87.publicKeyBytes keys.pq) =
          some pubkeys.pq := by
  constructor
  · intro hkeys
    obtain ⟨classic, hclassic, hrest⟩ := Option.bind_eq_some_iff.mp hkeys
    obtain ⟨pq, hpq, hpubkeys⟩ := Option.bind_eq_some_iff.mp hrest
    rw [← Option.some.inj hpubkeys]
    exact ⟨hclassic, hpq⟩
  · rintro ⟨hclassic, hpq⟩
    rw [publicKeys, hclassic, hpq]
    rfl

/-- What a key pair signed verifies under its public keys. -/
theorem verifyKeySignatures_sign {keys : HybridKeyPair schemes}
    {pubkeys : KeysasHybridPubKeys schemes} {message bytes : List UInt8}
    {signature : schemes.mlDsa87.Signature} (hkeys : publicKeys keys = some pubkeys)
    (hsign : schemes.mlDsa87.sign keys.pq message = some bytes)
    (hsignature : schemes.mlDsa87.signatureFromBytes bytes = some signature) :
    verifyKeySignatures message ⟨schemes.ed25519.sign keys.classic message, signature⟩ pubkeys =
      true := by
  obtain ⟨hclassic, hpq⟩ := publicKeys_eq_some_iff.mp hkeys
  obtain ⟨verifying, hverifying, hverify⟩ := schemes.ed25519.verifyStrict_sign keys.classic
  obtain ⟨publicKey, other, hpublicKey, hother, hverifyPq⟩ := schemes.mlDsa87.verify_sign hsign
  obtain rfl : verifying = pubkeys.classic := Option.some.inj (hverifying.symm.trans hclassic)
  obtain rfl : publicKey = pubkeys.pq := Option.some.inj (hpublicKey.symm.trans hpq)
  obtain rfl : other = signature := Option.some.inj (hother.symm.trans hsignature)
  rw [verifyKeySignatures, hverify, hverifyPq]
  rfl

/-- Ideal signatures verify exactly under the keys and for the message of their making. -/
theorem verifyKeySignatures_sign_iff {keys : HybridKeyPair schemes}
    {pubkeys : KeysasHybridPubKeys schemes} {signed message bytes : List UInt8}
    {signature : schemes.mlDsa87.Signature} (hideal : Ideal keys signed pubkeys message)
    (hsign : schemes.mlDsa87.sign keys.pq signed = some bytes)
    (hsignature : schemes.mlDsa87.signatureFromBytes bytes = some signature) :
    verifyKeySignatures message ⟨schemes.ed25519.sign keys.classic signed, signature⟩ pubkeys =
      true ↔ publicKeys keys = some pubkeys ∧ signed = message := by
  constructor
  · intro hverify
    obtain ⟨hclassic, hpq⟩ := Bool.and_eq_true_iff.mp hverify
    obtain ⟨hclassicKey, hmessage⟩ := hideal.classic hclassic
    obtain ⟨hpqKey, -⟩ := hideal.pq bytes signature hsign hsignature hpq
    exact ⟨publicKeys_eq_some_iff.mpr ⟨hclassicKey, hpqKey⟩, hmessage⟩
  · rintro ⟨hkeys, rfl⟩
    exact verifyKeySignatures_sign hkeys hsign hsignature

/-- Where the record of a text stands, the device is signed when the signatures in the text verify.
Assumes: a reader takes the length of the text. -/
theorem isSigned_of_holdsRecord {image : List UInt8} {text : String}
    {signatures : KeysasHybridSignature schemes} (himage : HoldsRecord image text)
    (hlength : (Bincode.utf8 text).length ≤ maxSignatureSize)
    (hparse : parseRecord text = .ok signatures) (pubkeys : KeysasHybridPubKeys schemes)
    (identity : DeviceIdentity) :
    isSigned (some pubkeys) image identity =
      verifyKeySignatures (Bincode.utf8 (identity.data "out")) signatures pubkeys := by
  obtain ⟨rest, hrest⟩ := himage
  have hget : getSignature image = (parseRecord text : Except _ (KeysasHybridSignature schemes)) :=
    getSignature_of_record hrest hlength
  unfold isSigned
  simp only [hget, hparse]

/-- The text of a signature is parsed into the two signatures of the data. -/
theorem exists_of_signDevice {identity : DeviceIdentity} {direction : String}
    {keys : HybridKeyPair schemes} {text : String}
    (hsign : signDevice identity direction keys = .ok text) :
    ∃ bytes signature,
      schemes.mlDsa87.sign keys.pq (Bincode.utf8 (identity.data direction)) = some bytes ∧
      schemes.mlDsa87.signatureFromBytes bytes = some signature ∧
      parseRecord text = .ok ⟨schemes.ed25519.sign keys.classic
        (Bincode.utf8 (identity.data direction)), signature⟩ := by
  obtain ⟨bytes, hbytes, htext⟩ := exists_of_okOr_bind_eq_ok hsign
  obtain ⟨publicKey, signature, -, hsignature, -⟩ := schemes.mlDsa87.verify_sign hbytes
  refine ⟨bytes, signature, hbytes, hsignature, ?_⟩
  rw [← Except.ok.inj htext]
  exact parseRecord_encode (schemes.ed25519.length_sign _ _) hsignature

/-- An operation that signs needs keys. -/
theorem exists_of_text_sign {request : SignRequest schemes} {text : String}
    (htext : (DiskOperation.sign request).text = .ok text) :
    ∃ keys, request.keys = some keys ∧
      signDevice request.identity request.direction keys = .ok text :=
  exists_of_okOr_bind_eq_ok htext

/-- The text of a revocation has no second signature. -/
theorem parseRecord_blank :
    (parseRecord blank : Except _ (KeysasHybridSignature schemes)) = .error .invalidCount := by
  have hbar : ∀ count, '|' ∉ (String.ofList (List.replicate count '0')).toList := by
    intro count hmem
    rw [String.toList_ofList] at hmem
    have hequal : '|' = '0' := List.eq_of_mem_replicate hmem
    exact absurd hequal (by decide)
  have hsplit : split '|' blank = [blank] := split_of_not_mem (hbar 7683)
  rw [parseRecord, hsplit]
  rfl

/-- A revoked device is not signed. -/
theorem isSigned_of_blank {image : List UInt8} (himage : HoldsRecord image blank)
    (pubkeys : KeysasHybridPubKeys schemes) (identity : DeviceIdentity) :
    isSigned (some pubkeys) image identity = false := by
  have hzero : Char.utf8Size '0' = 1 := rfl
  have hsize : (Bincode.utf8 blank).length = 7683 :=
    (Bincode.length_utf8 blank).trans (Bincode.utf8ByteSize_replicate hzero 7683)
  have hlength : (Bincode.utf8 blank).length ≤ maxSignatureSize := by
    unfold maxSignatureSize
    omega
  obtain ⟨rest, hrest⟩ := himage
  have hget : getSignature image = (parseRecord blank : Except _ (KeysasHybridSignature schemes)) :=
    getSignature_of_record hrest hlength
  unfold isSigned
  simp only [hget, parseRecord_blank]

/-- Where the record of a request stands, the device is signed when its signatures verify. -/
theorem isSigned_of_text_sign {request : SignRequest schemes} {image : List UInt8} {text : String}
    (htext : (DiskOperation.sign request).text = .ok text) (himage : HoldsRecord image text)
    (hlength : (Bincode.utf8 text).length ≤ maxSignatureSize)
    {usbCa : KeysasHybridPubKeys schemes} {identity : DeviceIdentity}
    (hideal : ∀ keys, request.keys = some keys →
      Ideal keys (Bincode.utf8 (request.identity.data request.direction)) usbCa
        (Bincode.utf8 (identity.data "out"))) :
    isSigned (some usbCa) image identity = true ↔
      request.keys.bind publicKeys = some usbCa ∧
        request.identity.data request.direction = identity.data "out" := by
  obtain ⟨keys, hkeys, hsign⟩ := exists_of_text_sign htext
  obtain ⟨bytes, signature, hbytes, hsignature, hparse⟩ := exists_of_signDevice hsign
  rw [isSigned_of_holdsRecord himage hlength hparse,
    verifyKeySignatures_sign_iff (hideal keys hkeys) hbytes hsignature, hkeys, Option.bind_some,
    Bincode.utf8_injective.eq_iff]

/-- Right after a signature has succeeded, the device is signed with the keys and for the text of
the request. -/
theorem isSigned_diskStep_sign {mbr : PartitionTable} {image : List UInt8}
    {request : SignRequest schemes} (hfits : (DiskOperation.sign request).Fits)
    (hresult : (diskStep mbr image (.sign request)).2 = .ok ())
    {usbCa : KeysasHybridPubKeys schemes} {identity : DeviceIdentity}
    (hideal : ∀ keys, request.keys = some keys →
      Ideal keys (Bincode.utf8 (request.identity.data request.direction)) usbCa
        (Bincode.utf8 (identity.data "out"))) :
    isSigned (some usbCa) (diskStep mbr image (.sign request)).1 identity = true ↔
      request.keys.bind publicKeys = some usbCa ∧
        request.identity.data request.direction = identity.data "out" := by
  rcases diskStep_cases mbr image (.sign request) with
    ⟨-, text, htext, himage⟩ | ⟨⟨error, herror⟩, -⟩
  · exact isSigned_of_text_sign htext himage (hfits text htext) hideal
  · rw [hresult] at herror
    cases herror

/-- Every operation of a run whose steps fit has a record that a reader takes. -/
theorem fits_of_run {mbr : PartitionTable} {start : List UInt8}
    {history : DiskHistory schemes} {image : List UInt8}
    (hrun : Run (diskStep mbr) (fun _ _ operation ↦ operation.Fits) start history image) :
    ∀ entry ∈ history, entry.1.Fits := by
  intro entry hentry
  obtain ⟨front, back, hhistory⟩ := List.append_of_mem hentry
  obtain ⟨reached, -, hfits, -⟩ := hrun.split hhistory
  exact hfits

/-- Where the record of an operation stands, the device is signed when the operation is a signature
with the keys of the authority of the text that belongs to the identity. -/
theorem isSigned_iff_of_text {operation : DiskOperation schemes} {image : List UInt8}
    {text : String} (htext : operation.text = .ok text) (himage : HoldsRecord image text)
    (hfits : operation.Fits) {usbCa : KeysasHybridPubKeys schemes} {identity : DeviceIdentity}
    (hideal : ∀ request keys, operation = .sign request → request.keys = some keys →
      Ideal keys (Bincode.utf8 (request.identity.data request.direction)) usbCa
        (Bincode.utf8 (identity.data "out"))) :
    isSigned (some usbCa) image identity = true ↔
      ∃ request, operation = .sign request ∧ request.keys.bind publicKeys = some usbCa ∧
        request.identity.data request.direction = identity.data "out" := by
  cases operation with
  | revoke =>
    obtain rfl : blank = text := Except.ok.inj htext
    rw [isSigned_of_blank himage]
    simp
  | sign request =>
    rw [isSigned_of_text_sign htext himage (hfits text htext) fun keys ↦ hideal request keys rfl]
    simp

/-- After every history of signatures and revocations on every disk, keysas-io accepts the device
with an identity exactly when the last operation that succeeded is a signature with the keys of the
authority of the text that belongs to the identity; for fields without slashes, that is a signature
of this identity for the direction `out`. When no operation succeeded, the decision is that of the
start.

Assumes: the records fit the length that a reader takes, and the signatures made are ideal for this
identity and the authority. -/
theorem isSigned_iff_of_run {mbr : PartitionTable} {usbCa : KeysasHybridPubKeys schemes}
    {start : List UInt8} {history : DiskHistory schemes}
    {image : List UInt8} (identity : DeviceIdentity)
    (hrun : Run (diskStep mbr) (fun _ _ operation ↦ operation.Fits) start history image)
    (hideal : IdealSignatures usbCa identity history) :
    (lastSuccess history = none →
      isSigned (some usbCa) image identity = isSigned (some usbCa) start identity) ∧
    ∀ operation, lastSuccess history = some operation →
      (isSigned (some usbCa) image identity = true ↔
        ∃ request, operation = .sign request ∧ request.keys.bind publicKeys = some usbCa ∧
          request.identity.data request.direction = identity.data "out") ∧
      (identity.SlashFree →
        (∀ request, operation = .sign request → request.identity.SlashFree) →
        (isSigned (some usbCa) image identity = true ↔
          ∃ request, operation = .sign request ∧ request.keys.bind publicKeys = some usbCa ∧
            request.identity = identity ∧ request.direction = "out")) := by
  have hlast := holdsLast_of_run hrun
  have hfits := fits_of_run hrun
  constructor
  · intro hnone
    rw [HoldsLast, hnone] at hlast
    exact isSigned_congr _ identity hlast
  · intro operation hsome
    rw [HoldsLast, hsome] at hlast
    obtain ⟨text, htext, himage⟩ := hlast
    have hmem := mem_of_lastSuccess hsome
    obtain ⟨entry, hentry, hoperation⟩ := List.mem_map.mp hmem
    have haccepts := isSigned_iff_of_text htext himage (hoperation ▸ hfits entry hentry)
      fun request keys hsign ↦ hideal request keys (hsign ▸ hmem)
    refine ⟨haccepts, fun hidentity hrequest ↦ haccepts.trans ?_⟩
    constructor
    · rintro ⟨request, hoperation, hkeys, hdata⟩
      obtain ⟨hequal, hdirection⟩ :=
        (DeviceIdentity.data_eq_iff (hrequest request hoperation) hidentity).mp hdata
      exact ⟨request, hoperation, hkeys, hequal, hdirection⟩
    · rintro ⟨request, hoperation, hkeys, hequal, hdirection⟩
      refine ⟨request, hoperation, hkeys, ?_⟩
      rw [hequal, hdirection]

/-! ### Examples of runs -/

/-- A partition table of zeros. -/
def zeroTable : PartitionTable where
  reset _ := some (List.replicate signatureOffset 0)
  length_reset := by
    intro image sector hreset
    rw [← Option.some.inj hreset]
    exact List.length_replicate

/-- A USB stick. -/
def stick : DeviceIdentity := ⟨"0781", "5581", "0100", "4C53"⟩

/-- A request to sign with the transparent key 7. -/
def requestFor (identity : DeviceIdentity) (direction : String) :
    SignRequest transparentSchemes where
  identity := identity
  direction := direction
  keys := some ⟨(7 : UInt8), (7 : UInt8)⟩

/-- The disk of a device after it has been signed. -/
def signedDisk (identity : DeviceIdentity) (direction : String) : List UInt8 :=
  (diskStep zeroTable [] (.sign (requestFor identity direction))).1

/-- The public keys of the transparent key 7. -/
abbrev usbCa : KeysasHybridPubKeys transparentSchemes := transparentPubKeys 7

/-- Transparent signatures are ideal for two messages that the front of an Ed25519 signature tells
apart. -/
theorem ideal_transparent {signed message : List UInt8}
    (hclassic : transparentEd25519.verifyStrict (7 : UInt8) message
      (transparentEd25519.sign (7 : UInt8) signed) = true → signed = message) :
    Ideal (⟨(7 : UInt8), (7 : UInt8)⟩ : HybridKeyPair transparentSchemes) signed usbCa message := by
  constructor
  · exact fun hverify ↦ ⟨rfl, hclassic hverify⟩
  · intro bytes signature hsign hsignature hverify
    obtain rfl := Option.some.inj hsign
    obtain rfl := Option.some.inj hsignature
    have hequal : (7 : UInt8) :: signed = 7 :: message := eq_of_beq hverify
    exact ⟨rfl, (List.cons.inj hequal).2⟩

/-- The signature of one request is ideal for an identity when the front of an Ed25519 signature
tells their texts apart. -/
theorem idealSignatures_requestFor {signed identity : DeviceIdentity} {direction : String}
    (hclassic : transparentEd25519.verifyStrict (7 : UInt8) (Bincode.utf8 (identity.data "out"))
        (transparentEd25519.sign (7 : UInt8) (Bincode.utf8 (signed.data direction))) = true →
      Bincode.utf8 (signed.data direction) = Bincode.utf8 (identity.data "out"))
    (result : Except UsbSignError Unit) :
    IdealSignatures usbCa identity [(.sign (requestFor signed direction), result)] := by
  intro request keys hmem hkeys
  obtain rfl : request = requestFor signed direction := by simpa using hmem
  obtain rfl := Option.some.inj hkeys
  exact ideal_transparent hclassic

/-- A request with a short text fits. -/
theorem fits_requestFor {identity : DeviceIdentity} {direction : String}
    (hlength : (identity.data direction).utf8ByteSize ≤ 5693) :
    (DiskOperation.sign (requestFor identity direction)).Fits := by
  refine DiskOperation.fits_sign fun keys bytes hkeys hsign ↦ ?_
  obtain rfl := Option.some.inj hkeys
  have hbytes : (7 : UInt8) :: Bincode.utf8 (identity.data direction) = bytes :=
    Option.some.inj hsign
  rw [← hbytes, List.length_cons, Bincode.length_utf8]
  exact Nat.succ_le_succ hlength

/-- The run of one signature. -/
theorem run_requestFor {identity : DeviceIdentity} {direction : String}
    (hlength : (identity.data direction).utf8ByteSize ≤ 5693) :
    Run (diskStep zeroTable) (fun _ _ operation ↦ operation.Fits) []
      [(.sign (requestFor identity direction), .ok ())] (signedDisk identity direction) :=
  Run.nil.next _ (fits_requestFor hlength)

/-- The signed stick is accepted. -/
theorem isSigned_signedDisk_stick : isSigned (some usbCa) (signedDisk stick "out") stick = true :=
  ((isSigned_iff_of_run stick (run_requestFor (by decide))
    (idealSignatures_requestFor (fun _ ↦ rfl) _)).2 _ rfl).1.mpr
      ⟨requestFor stick "out", rfl, rfl, rfl⟩

/-- The decision is that of the last operation, taken with the fields of the identity: a signature
of this identity with the keys of the authority. -/
def AcceptsLast (usbCa : KeysasHybridPubKeys schemes)
    (history : DiskHistory schemes) (image : List UInt8)
    (identity : DeviceIdentity) : Prop :=
  isSigned (some usbCa) image identity = true ↔
    ∃ request result, history.getLast? = some (.sign request, result) ∧
      request.keys.bind publicKeys = some usbCa ∧ request.identity = identity

/-- A run with ideal signatures after which the decision is not that of the last operation. -/
structure Misjudged (start : List UInt8)
    (history : DiskHistory transparentSchemes)
    (image : List UInt8) (identity : DeviceIdentity) : Prop where
  run : Run (diskStep zeroTable) (fun _ _ operation ↦ operation.Fits) start history image
  ideal : IdealSignatures usbCa identity history
  not_acceptsLast : ¬ AcceptsLast usbCa history image identity

/-- The disk of a request is accepted for an identity with the text of the request, and for no
other. Assumes: the front of an Ed25519 signature tells their texts apart. -/
theorem isSigned_signedDisk_iff {signed identity : DeviceIdentity} {direction : String}
    (hlength : (signed.data direction).utf8ByteSize ≤ 5693)
    (hclassic : transparentEd25519.verifyStrict (7 : UInt8) (Bincode.utf8 (identity.data "out"))
        (transparentEd25519.sign (7 : UInt8) (Bincode.utf8 (signed.data direction))) = true →
      Bincode.utf8 (signed.data direction) = Bincode.utf8 (identity.data "out")) :
    isSigned (some usbCa) (signedDisk signed direction) identity = true ↔
      signed.data direction = identity.data "out" := by
  have hideal : ∀ keys, (requestFor signed direction).keys = some keys →
      Ideal keys (Bincode.utf8 (signed.data direction)) usbCa
        (Bincode.utf8 (identity.data "out")) := by
    intro keys hkeys
    obtain rfl := Option.some.inj hkeys
    exact ideal_transparent hclassic
  have hresult : (diskStep zeroTable [] (.sign (requestFor signed direction))).2 = .ok () := rfl
  exact (isSigned_diskStep_sign (fits_requestFor hlength) hresult hideal).trans (and_iff_right rfl)

/-- A stick whose vendor has a slash. -/
def slashedStick : DeviceIdentity := ⟨"0781/5581", "0100", "4C53", "7"⟩

/-- Another identity with the signed text of `slashedStick`. -/
def shiftedStick : DeviceIdentity := ⟨"0781", "5581/0100", "4C53", "7"⟩

theorem data_shiftedStick : slashedStick.data "out" = shiftedStick.data "out" := by
  decide

/-- The request to sign another stick, with a password that opens no keys. -/
def unopenedRequest : SignRequest transparentSchemes where
  identity := slashedStick
  direction := "out"
  keys := none

theorem accepted_stick : isSigned (some usbCa) (signedDisk stick "out") stick = true :=
  (isSigned_signedDisk_iff (by decide) fun _ ↦ rfl).mpr rfl

/-- A disk that was signed before the first operation is accepted. -/
theorem misjudged_before :
    Misjudged (signedDisk stick "out") [] (signedDisk stick "out") stick where
  run := .nil
  ideal := by
    intro request keys hmem
    cases hmem
  not_acceptsLast := by
    intro haccepts
    obtain ⟨request, result, hlast, -⟩ := haccepts.mp accepted_stick
    cases hlast

/-- A signature is accepted for another identity whose fields make the same text. -/
theorem misjudged_slash :
    Misjudged [] [(.sign (requestFor slashedStick "out"), .ok ())] (signedDisk slashedStick "out")
      shiftedStick where
  run := run_requestFor (by decide)
  ideal := idealSignatures_requestFor (fun _ ↦ congrArg Bincode.utf8 data_shiftedStick) _
  not_acceptsLast := by
    intro haccepts
    have haccepted : isSigned (some usbCa) (signedDisk slashedStick "out") shiftedStick = true :=
      (isSigned_signedDisk_iff (by decide) fun _ ↦ congrArg Bincode.utf8 data_shiftedStick).mpr
        data_shiftedStick
    obtain ⟨request, result, hlast, -, hidentity⟩ := haccepts.mp haccepted
    obtain rfl : requestFor slashedStick "out" = request := by
      simpa using congrArg (Option.map fun entry ↦ entry.1) hlast
    exact absurd hidentity (by decide)

/-- The front of an Ed25519 signature tells the two directions of the stick apart. -/
theorem verifyStrict_stick_in :
    transparentEd25519.verifyStrict (7 : UInt8) (Bincode.utf8 (stick.data "out"))
      (transparentEd25519.sign (7 : UInt8) (Bincode.utf8 (stick.data "in"))) = false := by
  decide +kernel

/-- A signature for another direction is not accepted. -/
theorem misjudged_direction :
    Misjudged [] [(.sign (requestFor stick "in"), .ok ())] (signedDisk stick "in") stick where
  run := run_requestFor (by decide)
  ideal := idealSignatures_requestFor
    (fun hverify ↦ by rw [verifyStrict_stick_in] at hverify; cases hverify) _
  not_acceptsLast := by
    intro haccepts
    have haccepted := haccepts.mpr ⟨requestFor stick "in", .ok (), rfl, rfl, rfl⟩
    have hdata : stick.data "in" = stick.data "out" :=
      (isSigned_signedDisk_iff (by decide)
        (fun hverify ↦ by rw [verifyStrict_stick_in] at hverify; cases hverify)).mp haccepted
    exact absurd hdata (by decide)

/-- A signature that fails leaves the record of the one before. -/
theorem misjudged_failure :
    Misjudged [] [(.sign (requestFor stick "out"), .ok ()),
      (.sign unopenedRequest, .error .loadKeys)]
      (diskStep zeroTable (signedDisk stick "out") (.sign unopenedRequest)).1 stick where
  run := by
    have hfits : (DiskOperation.sign unopenedRequest).Fits := by
      intro text htext
      cases htext
    exact (run_requestFor (by decide)).next _ hfits
  ideal := by
    intro request keys hmem hkeys
    rcases List.mem_pair.mp hmem with hequal | hequal
    · obtain rfl := DiskOperation.sign.inj hequal
      obtain rfl := Option.some.inj hkeys
      exact ideal_transparent fun _ ↦ rfl
    · obtain rfl := DiskOperation.sign.inj hequal
      cases hkeys
  not_acceptsLast := by
    intro haccepts
    have hkept : isSigned (some usbCa)
        (diskStep zeroTable (signedDisk stick "out") (.sign unopenedRequest)).1 stick = true := by
      rcases diskStep_cases zeroTable (signedDisk stick "out") (.sign unopenedRequest) with
        ⟨hresult, -⟩ | ⟨-, hdrop⟩
      · cases hresult
      · exact (isSigned_congr _ stick hdrop).trans accepted_stick
    obtain ⟨request, result, hlast, -, hidentity⟩ := haccepts.mp hkept
    obtain rfl : unopenedRequest = request := by
      simpa using congrArg (Option.map fun entry ↦ entry.1) hlast
    exact absurd hidentity (by decide)

/-- The decision is not always that of the last operation, taken with the fields of the identity:
the disk may have been signed before the first operation, a field may have a slash, a signature may
be for another direction, and the last operation may have failed. -/
theorem misjudged_sticks :
    Misjudged (signedDisk stick "out") [] (signedDisk stick "out") stick ∧
    Misjudged [] [(.sign (requestFor slashedStick "out"), .ok ())] (signedDisk slashedStick "out")
      shiftedStick ∧
    Misjudged [] [(.sign (requestFor stick "in"), .ok ())] (signedDisk stick "in") stick ∧
    Misjudged [] [(.sign (requestFor stick "out"), .ok ()),
      (.sign unopenedRequest, .error .loadKeys)]
      (diskStep zeroTable (signedDisk stick "out") (.sign unopenedRequest)).1 stick :=
  ⟨misjudged_before, misjudged_slash, misjudged_direction, misjudged_failure⟩

end Keysas.Admin
