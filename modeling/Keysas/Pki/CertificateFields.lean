import Mathlib.Data.List.Sort
import Keysas.Keys.HybridKeys
import Keysas.Reports.Verification
import Keysas.Rust.Numbers
import Keysas.Wire.DiskImage

/-!
# The fields of certificates

`fromFields` checks what a user enters for a certificate, `generateDn` makes a name of it, and
`constructTbsCertificate` the part of a certificate that is signed.

A name is a list of sets of attributes. The elements of a set are in the order of their DER
encodings; `perm_generateDn` says which attributes the name of some fields has, in whatever order.
`ValidFor` are the fields for which a certificate can be made, and
`constructTbsCertificate_of_validFor` says what is in it. `X509` is the library of the formats.
-/

set_option autoImplicit false
set_option relaxedAutoImplicit false

namespace Keysas.Pki

open Crypto Keys Reports RustStd Wire Wire.Bincode

/-! ### Fields -/

/-- `CertificateFields`. -/
structure CertificateFields where
  orgName : Option String
  orgUnit : Option String
  country : Option String
  commonName : Option String
  validity : Option UInt32
  deriving DecidableEq

/-- The ways in which `from_fields` fails. -/
inductive FieldsError where
  /-- "Invalid country name". -/
  | countryName
  /-- The cut of the country is within a character, which is a panic. -/
  | countryBoundary
  /-- The validity is not a number of 32 bits. -/
  | parseValidity
  /-- "Validity value is too large". -/
  | validityTooLarge
  deriving DecidableEq

/-- The country of `from_fields`: the first two bytes, which have to end a character. -/
def countryOf (name : String) : Except FieldsError String :=
  match name.utf8ByteSize with
  | 0 => .error .countryName
  | 1 => .error .countryName
  | 2 => .ok name
  | _ => okOr (fromUtf8 ((utf8 name).take 2)) .countryBoundary

/-- The validity of `from_fields`: a number of days whose seconds fit 32 bits. -/
def validityOf (value : String) : Except FieldsError UInt32 := do
  let days ← okOr (parseU32 value) .parseValidity
  if days.toNat * 86400 < 2 ^ 32 then return days else throw .validityTooLarge

/-- `CertificateFields::from_fields`. -/
def fromFields (orgName orgUnit country commonName validity : Option String) :
    Except FieldsError CertificateFields := do
  let country ← country.mapM countryOf
  let validity ← validity.mapM validityOf
  return ⟨orgName, orgUnit, country, commonName, validity⟩

/-- A country that is accepted has two bytes. -/
theorem length_utf8_of_countryOf {name country : String} (hcountry : countryOf name = .ok country) :
    (utf8 country).length = 2 := by
  have hsize : (utf8 name).length = name.utf8ByteSize := by
    rw [utf8, Array.length_toList]
    rfl
  rw [countryOf] at hcountry
  split at hcountry
  · cases hcountry
  · cases hcountry
  · next htwo =>
    obtain rfl := Except.ok.inj hcountry
    rw [hsize, htwo]
  · next hzero hone htwo =>
    have hlong : 2 ≤ name.utf8ByteSize :=
      Nat.two_le_iff _ |>.mpr ⟨hzero, hone⟩
    have hbytes := fromUtf8_eq_some_iff.mp (okOr_eq_ok_iff.mp hcountry)
    rw [hbytes, List.length_take, hsize, Nat.min_eq_left hlong]

/-- What the fields of a PKI are when they are accepted. -/
theorem of_fromFields {orgName orgUnit country validity : String} {infos : CertificateFields}
    (hfields : fromFields (some orgName) (some orgUnit) (some country) none (some validity) =
      .ok infos) :
    ∃ accepted days, countryOf country = .ok accepted ∧ accepted ≠ "" ∧
      days.toNat * 86400 < 2 ^ 32 ∧
      infos = ⟨some orgName, some orgUnit, some accepted, none, some days⟩ := by
  obtain ⟨found, hcountry, hfields⟩ := exists_of_bind_eq_ok hfields
  obtain ⟨number, hvalidity, hfields⟩ := exists_of_bind_eq_ok hfields
  obtain rfl := Except.ok.inj hfields
  obtain ⟨accepted, haccepted, hcountry⟩ := exists_of_bind_eq_ok hcountry
  obtain ⟨days, hdays, hvalidity⟩ := exists_of_bind_eq_ok hvalidity
  obtain rfl := Except.ok.inj hcountry
  obtain rfl := Except.ok.inj hvalidity
  refine ⟨accepted, days, haccepted, ?_, ?_, rfl⟩
  · rintro rfl
    exact absurd (length_utf8_of_countryOf haccepted) (by decide)
  · obtain ⟨value, -, hvalue⟩ := exists_of_okOr_bind_eq_ok hdays
    split_ifs at hvalue with hfits
    obtain rfl := Except.ok.inj hvalue
    exact hfits

/-! ### Names -/

/-- A DER value by its tag and its content. -/
structure Any where
  tag : UInt8
  value : List UInt8
  deriving DecidableEq

/-- `AttributeTypeAndValue`. -/
structure AttributeTypeAndValue where
  oid : String
  value : Any
  deriving DecidableEq

/-- `RelativeDistinguishedName`: a set in the order of the encodings of its elements. -/
abbrev RelativeDistinguishedName := List AttributeTypeAndValue

/-- `RdnSequence`. -/
abbrev RdnSequence := List RelativeDistinguishedName

/-- `Tag::PrintableString`. -/
def printableString : UInt8 := 0x13

/-- `rfc4519::C`. -/
def oidC : String := "2.5.4.6"

/-- `rfc4519::O`. -/
def oidO : String := "2.5.4.10"

/-- `rfc4519::OU`. -/
def oidOu : String := "2.5.4.11"

/-- `rfc4519::CN`. -/
def oidCn : String := "2.5.4.3"

/-- The attribute of a name for a text. The characters of the text are not checked. -/
def attributeOf (oid text : String) : AttributeTypeAndValue :=
  ⟨oid, printableString, utf8 text⟩

/-- The attributes of the name of some fields, in the order in which they are inserted. -/
def CertificateFields.attributes (fields : CertificateFields) : List AttributeTypeAndValue :=
  (fields.country.map (attributeOf oidC)).toList ++
    (fields.orgName.map (attributeOf oidO)).toList ++
    (fields.orgUnit.map (attributeOf oidOu)).toList ++
    (fields.commonName.map (attributeOf oidCn)).toList

/-! ### Certificates -/

/-- `BitString`. -/
structure BitString where
  unusedBits : ℕ
  bytes : List UInt8
  deriving DecidableEq

/-- `BitString::from_bytes`. -/
def BitString.fromBytes (bytes : List UInt8) : BitString :=
  ⟨0, bytes⟩

/-- `as_bytes`: nothing when the last byte is not full. -/
def BitString.asBytes (bits : BitString) : Option (List UInt8) :=
  if bits.unusedBits = 0 then some bits.bytes else none

/-- `AlgorithmIdentifier`. -/
structure AlgorithmIdentifier where
  oid : String
  parameters : Option Any
  deriving DecidableEq

/-- `SubjectPublicKeyInfo`. -/
structure SubjectPublicKeyInfo where
  algorithm : AlgorithmIdentifier
  subjectPublicKey : BitString
  deriving DecidableEq

/-- `Validity`, in seconds of Unix time. -/
structure Validity where
  notBefore : ℕ
  notAfter : ℕ
  deriving DecidableEq

/-- `Extension`. -/
structure Extension where
  extnId : String
  critical : Bool
  extnValue : List UInt8
  deriving DecidableEq

/-- `TbsCertificate`, without the unique identifiers, which are not used. -/
structure TbsCertificate where
  version : ℕ
  serialNumber : ℕ
  signature : AlgorithmIdentifier
  issuer : RdnSequence
  validity : Validity
  subject : RdnSequence
  subjectPublicKeyInfo : SubjectPublicKeyInfo
  extensions : List Extension
  deriving DecidableEq

/-- `x509_cert::Certificate`. -/
structure X509Certificate where
  tbsCertificate : TbsCertificate
  signatureAlgorithm : AlgorithmIdentifier
  signature : BitString
  deriving DecidableEq

/-- `CertReqInfo`, without its version. -/
structure CertReqInfo where
  subject : RdnSequence
  publicKey : SubjectPublicKeyInfo
  attributes : List (List UInt8)
  deriving DecidableEq

/-- `CertReq`. -/
structure CertReq where
  info : CertReqInfo
  algorithm : AlgorithmIdentifier
  signature : BitString
  deriving DecidableEq

/-- The DER and PEM formats of names, requests and certificates. -/
structure X509 where
  attributeToDer : AttributeTypeAndValue → List UInt8
  nameToDer : RdnSequence → List UInt8
  infoToDer : CertReqInfo → List UInt8
  tbsToDer : TbsCertificate → List UInt8
  toPem : X509Certificate → String
  fromPem : String → Option X509Certificate
  fromPem_toPem : ∀ cert, fromPem (toPem cert) = some cert

variable (x509 : X509)

/-- The parts of a certificate that a verification looks at. -/
def X509.view (cert : X509Certificate) : Certificate where
  tbsDer := some (x509.tbsToDer cert.tbsCertificate)
  algorithmOid := cert.tbsCertificate.subjectPublicKeyInfo.algorithm.oid
  publicKey := cert.tbsCertificate.subjectPublicKeyInfo.subjectPublicKey.bytes
  signature := cert.signature.asBytes

/-- The parser of certificates, as a verification uses it. -/
def X509.parse : FromPem :=
  fun pem ↦ (x509.fromPem pem).map x509.view

/-! ### The signed part -/

/-- `SetOfVec::insert`: the elements of a set are in the order of their encodings. -/
def insertAttribute (set : RelativeDistinguishedName) (entry : AttributeTypeAndValue) :
    RelativeDistinguishedName :=
  set.orderedInsert (fun first second ↦ x509.attributeToDer first ≤ x509.attributeToDer second)
    entry

/-- `generate_dn`. -/
def CertificateFields.generateDn (fields : CertificateFields) : RdnSequence :=
  [fields.attributes.foldl (insertAttribute x509) []]

/-- `rfc5280::ID_CE_AUTHORITY_KEY_IDENTIFIER`. -/
def idCeAuthorityKeyIdentifier : String := "2.5.29.35"

/-- `rfc5280::ID_CE_KEY_USAGE`. -/
def idCeKeyUsage : String := "2.5.29.15"

/-- The ways in which a certificate is not made. -/
inductive IssueError where
  /-- "Subject public key missing". -/
  | publicKeyMissing
  /-- "Invalid public key length". -/
  | publicKeyLength
  /-- The public key is not a point. -/
  | publicKeyPoint
  /-- "Invalid CSR signature: not 64 bytes long". -/
  | signatureLength
  /-- "Invalid CSR signature". -/
  | invalidSignature
  /-- "Failed to create signature". -/
  | createSignature
  /-- "Failed to create public key". -/
  | createPublicKey
  /-- "Invalid algorithm OID". -/
  | algorithmOid
  /-- "Invalid validity value". -/
  | noValidity
  /-- "Failed to generate validity date". -/
  | validityDate
  /-- "Cannot sign message". -/
  | sign
  deriving DecidableEq

/-- The last second that a date can have, at the end of the year 9999. -/
def maxUnixTime : ℕ := 253402300799

/-- `Validity::from_now`. -/
def validityFromNow (now seconds : ℕ) : Except IssueError Validity :=
  if now + seconds ≤ maxUnixTime then .ok ⟨now, now + seconds⟩ else .error .validityDate

/-- The seconds of a number of days, which wrap around. -/
def secondsOf (days : UInt32) : ℕ :=
  (days * 60 * 60 * 24).toNat

/-- `construct_tbs_certificate`. The serial number is made of the first 19 bytes. -/
def CertificateFields.constructTbsCertificate (fields : CertificateFields) (now : ℕ)
    (subjectName : RdnSequence) (pubValue serial : List UInt8) (algoOid : String)
    (isAppCert : Bool) : Except IssueError TbsCertificate := do
  let days ← okOr fields.validity .noValidity
  let issuerName := fields.generateDn x509
  let authority : Extension :=
    ⟨idCeAuthorityKeyIdentifier, false, x509.nameToDer issuerName⟩
  let usage : Extension := ⟨idCeKeyUsage, true, [1, 0]⟩
  let validity ← validityFromNow now (secondsOf days)
  return {
    version := 2
    serialNumber := bigEndianValue (serial.take 19)
    signature := ⟨algoOid, none⟩
    issuer := issuerName
    validity := validity
    subject := subjectName
    subjectPublicKeyInfo := ⟨⟨algoOid, none⟩, .fromBytes pubValue⟩
    extensions := if isAppCert then [authority, usage] else [usage] }

/-- The fields have a validity for which a certificate can be made now: its seconds fit 32 bits, and
it ends with a date. -/
def CertificateFields.ValidFor (fields : CertificateFields) (now : ℕ) : Prop :=
  ∃ days, fields.validity = some days ∧ days.toNat * 86400 < 2 ^ 32 ∧
    now + days.toNat * 86400 ≤ maxUnixTime

/-- The seconds of a number of days do not wrap around when they fit 32 bits. -/
theorem secondsOf_eq {days : UInt32} (hdays : days.toNat * 86400 < 2 ^ 32) :
    secondsOf days = days.toNat * 86400 := by
  have hsixty : (60 : UInt32).toNat = 60 := rfl
  have hday : (24 : UInt32).toNat = 24 := rfl
  rw [secondsOf, UInt32.toNat_mul, UInt32.toNat_mul, UInt32.toNat_mul, hsixty, hday]
  omega

/-- A name has the attributes of its fields. -/
theorem perm_generateDn (fields : CertificateFields) :
    ∃ set, fields.generateDn x509 = [set] ∧ set.Perm fields.attributes := by
  have hfold : ∀ (attributes : List AttributeTypeAndValue) (set : RelativeDistinguishedName),
      (attributes.foldl (insertAttribute x509) set).Perm (attributes ++ set) := by
    intro attributes
    induction attributes with
    | nil => exact fun set ↦ .refl set
    | cons entry attributes ih =>
      intro set
      refine (ih (insertAttribute x509 set entry)).trans ?_
      have hinsert : (insertAttribute x509 set entry).Perm (entry :: set) :=
        List.perm_orderedInsert _ entry set
      exact (hinsert.append_left attributes).trans List.perm_middle
  refine ⟨_, rfl, ?_⟩
  simpa using hfold fields.attributes []

/-- The signed part for fields with a valid validity. -/
theorem constructTbsCertificate_of_validFor {fields : CertificateFields} {now : ℕ}
    (hvalid : fields.ValidFor now) (subjectName : RdnSequence) (pubValue serial : List UInt8)
    (algoOid : String) (isAppCert : Bool) :
    ∃ tbs, fields.constructTbsCertificate x509 now subjectName pubValue serial algoOid isAppCert =
        .ok tbs ∧
      tbs.subject = subjectName ∧
      tbs.subjectPublicKeyInfo = ⟨⟨algoOid, none⟩, .fromBytes pubValue⟩ ∧
      tbs.issuer = fields.generateDn x509 ∧
      ∃ days, fields.validity = some days ∧
        tbs.validity = ⟨now, now + days.toNat * 86400⟩ := by
  obtain ⟨days, hdays, hfits, hdate⟩ := hvalid
  have hvalidity : validityFromNow now (secondsOf days) =
      .ok ⟨now, now + days.toNat * 86400⟩ := by
    rw [validityFromNow, secondsOf_eq hfits, if_pos hdate]
  rw [CertificateFields.constructTbsCertificate, hdays, okOr_some, ok_bind, hvalidity, ok_bind]
  exact ⟨_, rfl, rfl, rfl, rfl, days, rfl, rfl⟩

end Keysas.Pki
