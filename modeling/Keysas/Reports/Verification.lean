import Keysas.Reports.FileReport
import Keysas.Rust.Text

/-!
# Verification of reports

`validateSigningCertificate` parses a certificate and checks it against a certificate of the
authority, by the algorithm of the authority's key. `parseReport` reads a report, checks the two
station certificates in it, the digests of the file and of the signed part, and the two signatures.

What it reads from its surroundings is a parameter: the content of the report, and for the file,
when one is given, its content. `X509` is the certificate parser.
-/

set_option autoImplicit false
set_option relaxedAutoImplicit false

namespace Keysas.Reports

open Crypto Keys RustStd

/-! ### Certificates -/

/-- The parts of an X.509 certificate that are looked at. -/
structure Certificate where
  /-- The DER encoding of the signed part, when there is one. -/
  tbsDer : Option (List UInt8)
  /-- The object identifier of the algorithm of the public key. -/
  algorithmOid : String
  /-- The bytes of the public key. -/
  publicKey : List UInt8
  /-- The bytes of the signature, when it is a whole number of bytes. -/
  signature : Option (List UInt8)
  deriving DecidableEq

/-- The parser of PEM certificates. -/
abbrev FromPem := String → Option Certificate

/-- `ED25519_OID`. -/
def ed25519Oid : String := "1.3.101.112"

/-- `ML_DSA87_OID`. -/
def mlDsa87Oid : String := "2.16.840.1.101.3.4.3.19"

/-- The errors of a verification. -/
inductive ReportError where
  /-- The report cannot be read. -/
  | readReport
  /-- The report is not JSON of a report. -/
  | parseJson
  /-- The report names a file and none is supplied. -/
  | noFile
  /-- There are not two certificates. -/
  | certificateCount
  /-- A certificate is not PEM. -/
  | parsePem
  /-- A key does not have 32 bytes. -/
  | ed25519KeyLength
  /-- A key is not a point. -/
  | ed25519Key
  /-- A signature field is empty. -/
  | emptySignature
  /-- A signature does not have 64 bytes. -/
  | ed25519SignatureLength
  /-- A signed part has no DER encoding. -/
  | toDer
  /-- An ED25519 signature does not verify. -/
  | ed25519Verify
  /-- A key is not one of ML-DSA-87. -/
  | mlDsa87Key
  /-- A signature is not one of ML-DSA-87. -/
  | mlDsa87Signature
  /-- An ML-DSA-87 signature does not verify. -/
  | mlDsa87Verify
  /-- The algorithm of the authority is not supported. -/
  | unsupportedAlgorithm
  /-- The file cannot be read. -/
  | readFile
  /-- The file is not the one of the report. -/
  | fileReference
  /-- The metadata digest is not the one of the report. -/
  | metadataReference
  /-- The signatures are not base64. -/
  | decodeSignature
  /-- The signatures are too short. -/
  | shortSignature
  deriving DecidableEq

variable {schemes : Schemes}

/-- `Ok` unless a check fails. -/
def ensure (check : Bool) (error : ReportError) : Except ReportError Unit :=
  if check then .ok () else .error error

variable (schemes) in
/-- The check of `validate_signing_certificate` against an authority with an Ed25519 key. -/
def validateEd25519 (cert ca : Certificate) : Except ReportError Unit := do
  ensure (ca.publicKey.length = 32) .ed25519KeyLength
  let caKey ← okOr (schemes.ed25519.verifyingKeyFromBytes ca.publicKey) .ed25519Key
  let signature ← okOr cert.signature .emptySignature
  ensure (signature.length = 64) .ed25519SignatureLength
  let tbs ← okOr cert.tbsDer .toDer
  ensure (schemes.ed25519.verifyStrict caKey tbs signature) .ed25519Verify

variable (schemes) in
/-- The check of `validate_signing_certificate` against an authority with an ML-DSA-87 key. -/
def validateMlDsa87 (cert ca : Certificate) : Except ReportError Unit := do
  let caKey ← okOr (schemes.mlDsa87.publicKeyFromBytes ca.publicKey) .mlDsa87Key
  let bytes ← okOr cert.signature .emptySignature
  let signature ← okOr (schemes.mlDsa87.signatureFromBytes bytes) .mlDsa87Signature
  let tbs ← okOr cert.tbsDer .toDer
  ensure (schemes.mlDsa87.verify caKey tbs signature) .mlDsa87Verify

variable (schemes) in
/-- `validate_signing_certificate`: without an authority the certificate only has to parse. -/
def validateSigningCertificate (fromPem : FromPem) (pem : String) (caCert : Option Certificate) :
    Except ReportError Certificate := do
  let cert ← okOr (fromPem pem) .parsePem
  match caCert with
  | none => return cert
  | some ca =>
    if ca.algorithmOid = ed25519Oid then
      validateEd25519 schemes cert ca
      return cert
    else if ca.algorithmOid = mlDsa87Oid then
      validateMlDsa87 schemes cert ca
      return cert
    else throw .unsupportedAlgorithm

/-! ### Reports -/

/-- The digest of the supplied file, checked against the reference in the binding: the empty text
without a file. -/
def checkedFileDigest (sha256 : Sha256) (binding : Bd) :
    Option (Option (List UInt8)) → Except ReportError String
  | none => .ok ""
  | some content => do
    let bytes ← okOr content .readFile
    let fileDigest := sha256.hexDigest bytes
    ensure (Base64.encode (Wire.Bincode.utf8 fileDigest) = binding.fileDigest) .fileReference
    return fileDigest

variable (schemes) in
/-- The check of the signature blob: 64 bytes of Ed25519, and ML-DSA-87 behind them. -/
def verifyBlob (certCl certPq : Certificate) (message signature : List UInt8) :
    Except ReportError Unit := do
  ensure (64 < signature.length) .shortSignature
  ensure (certCl.publicKey.length = 32) .ed25519KeyLength
  let pubCl ← okOr (schemes.ed25519.verifyingKeyFromBytes certCl.publicKey) .ed25519Key
  ensure (schemes.ed25519.verifyStrict pubCl message (signature.take 64)) .ed25519Verify
  let pubPq ← okOr (schemes.mlDsa87.publicKeyFromBytes certPq.publicKey) .mlDsa87Key
  let sigPq ← okOr (schemes.mlDsa87.signatureFromBytes (signature.drop 64)) .mlDsa87Signature
  ensure (schemes.mlDsa87.verify pubPq message sigPq) .mlDsa87Verify

variable (schemes) in
/-- `parse_report`: `reportContent` is what is read under the path of the report, and `file` is
nothing without a path of a file, and otherwise what is read under it. -/
def parseReport (sha256 : Sha256) (json : ReportJson) (fromPem : FromPem)
    (reportContent : Option String) (file : Option (Option (List UInt8)))
    (caCertCl caCertPq : Option Certificate) : Except ReportError Report := do
  let content ← okOr reportContent .readReport
  let report ← okOr (json.reportFromStr content) .parseJson
  ensure (report.metadata.name = "" || file.isSome) .noFile
  let certs := split '|' report.binding.stationCertificate
  ensure (certs.length = 2) .certificateCount
  let certCl ← validateSigningCertificate schemes fromPem (certs.headD "") caCertCl
  let certPq ← validateSigningCertificate schemes fromPem (certs.tail.headD "") caCertPq
  let fileDigest ← checkedFileDigest sha256 report.binding file
  let metaDigest := metadataDigest sha256 json report.metadata
  ensure (Base64.encode (Wire.Bincode.utf8 metaDigest) = report.binding.metadataDigest)
    .metadataReference
  let signature ← okOr (Base64.decode report.binding.reportSignature) .decodeSignature
  verifyBlob schemes certCl certPq (Wire.Bincode.utf8 (signedText fileDigest metaDigest)) signature
  return report

/-- An accepted report has a content that is JSON of it. -/
theorem exists_content_of_parseReport {sha256 : Sha256} {json : ReportJson} {fromPem : FromPem}
    {reportContent : Option String} {file : Option (Option (List UInt8))}
    {caCertCl caCertPq : Option Certificate} {report : Report}
    (hparsed : parseReport schemes sha256 json fromPem reportContent file caCertCl caCertPq =
      .ok report) :
    ∃ content, reportContent = some content ∧ json.reportFromStr content = some report := by
  obtain ⟨content, hcontent, hparsed⟩ := exists_of_okOr_bind_eq_ok hparsed
  obtain ⟨read, hread, hparsed⟩ := exists_of_okOr_bind_eq_ok hparsed
  obtain ⟨_, _, hparsed⟩ := exists_of_bind_eq_ok hparsed
  obtain ⟨_, _, hparsed⟩ := exists_of_bind_eq_ok hparsed
  obtain ⟨_, _, hparsed⟩ := exists_of_bind_eq_ok hparsed
  obtain ⟨_, _, hparsed⟩ := exists_of_bind_eq_ok hparsed
  obtain ⟨_, _, hparsed⟩ := exists_of_bind_eq_ok hparsed
  obtain ⟨_, _, hparsed⟩ := exists_of_bind_eq_ok hparsed
  obtain ⟨_, _, hparsed⟩ := exists_of_okOr_bind_eq_ok hparsed
  obtain ⟨_, _, hreport⟩ := exists_of_bind_eq_ok hparsed
  obtain rfl := Except.ok.inj hreport
  exact ⟨content, hcontent, hread⟩

end Keysas.Reports
