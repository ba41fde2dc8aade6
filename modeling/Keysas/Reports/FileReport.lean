import Keysas.Keys.HybridKeys
import Keysas.Wire.BincodeStandard

/-!
# File reports

A report is the record of the checks of one file, bound to the file by the signatures of the
station. `FileMetadata` is what the station's output daemon receives about a file,
`generateReportMetadata` turns it into the part of the report that is signed, and `bindAndSign`
signs the digest of the file together with the digest of that part.

The signed text is `signedText`, two digests joined by a dash. Reports are written and read as JSON;
`ReportJson` is what is documented of the serializer.
-/

set_option autoImplicit false
set_option relaxedAutoImplicit false

namespace Keysas.Reports

open Crypto Keys

/-! ### Data -/

/-- `FileMetadata`: what the checks found about a file. -/
structure FileMetadata where
  filename : String
  digest : String
  isDigestOk : Bool
  isToobig : Bool
  size : UInt64
  isTypeAllowed : Bool
  avPass : Bool
  avReport : List String
  yaraPass : Bool
  yaraReport : String
  timestamp : String
  isCorrupted : Bool
  fileType : String
  specializedPass : Bool
  specializedAnalyzer : String
  specializedSummary : String
  vtPass : Bool
  vtDetections : UInt32
  vtSummary : String
  deriving DecidableEq

/-- `FileReport`: the detailed report of the checks. -/
structure FileReport where
  yara : String
  av : List String
  typeAllowed : Bool
  size : UInt64
  corrupted : Bool
  toobig : Bool
  isDigestOk : Bool
  specializedPass : Bool
  specializedAnalyzer : String
  specializedSummary : String
  vtPass : Bool
  vtDetections : UInt32
  vtSummary : String
  deriving DecidableEq

/-- `MetaData`: the signed part of a report. -/
structure MetaData where
  name : String
  date : String
  fileType : String
  isValid : Bool
  report : FileReport
  deriving DecidableEq

/-- `Bd`: the binding of the report to the file, all in base64 but the certificates. -/
structure Bd where
  fileDigest : String
  metadataDigest : String
  stationCertificate : String
  reportSignature : String
  deriving DecidableEq

/-- `Report`. -/
structure Report where
  metadata : MetaData
  binding : Bd
  deriving DecidableEq

/-- The JSON serializer: what is written is read back. -/
structure ReportJson where
  metadataToString : MetaData → String
  metadataFromStr : String → Option MetaData
  reportToString : Report → String
  reportFromStr : String → Option Report
  metadataFromStr_toString : ∀ metadata, metadataFromStr (metadataToString metadata) = some metadata
  reportFromStr_toString : ∀ report, reportFromStr (reportToString report) = some report

theorem ReportJson.metadataToString_injective (json : ReportJson) :
    Function.Injective json.metadataToString := by
  intro first second htext
  have hread := json.metadataFromStr_toString first
  rw [htext, json.metadataFromStr_toString] at hread
  exact (Option.some.inj hread).symm

/-! ### Wire format -/

open Wire Wire.PrefixCodec Wire.Bincode in
/-- The bincode format of `FileMetadata`: its fields in the order of their declaration. -/
def FileMetadata.codec : PrefixCodec FileMetadata :=
  (string.pair <| string.pair <| bool.pair <| bool.pair <| u64.pair <| bool.pair <| bool.pair <|
    strings.pair <| bool.pair <| string.pair <| string.pair <| bool.pair <| string.pair <|
    bool.pair <| string.pair <| string.pair <| bool.pair <| u32.pair string).imap
    (fun (filename, digest, isDigestOk, isToobig, size, isTypeAllowed, avPass, avReport, yaraPass,
        yaraReport, timestamp, isCorrupted, fileType, specializedPass, specializedAnalyzer,
        specializedSummary, vtPass, vtDetections, vtSummary) ↦
      some ⟨filename, digest, isDigestOk, isToobig, size, isTypeAllowed, avPass, avReport, yaraPass,
        yaraReport, timestamp, isCorrupted, fileType, specializedPass, specializedAnalyzer,
        specializedSummary, vtPass, vtDetections, vtSummary⟩)
    (fun metadata ↦
      (metadata.filename, metadata.digest, metadata.isDigestOk, metadata.isToobig, metadata.size,
        metadata.isTypeAllowed, metadata.avPass, metadata.avReport, metadata.yaraPass,
        metadata.yaraReport, metadata.timestamp, metadata.isCorrupted, metadata.fileType,
        metadata.specializedPass, metadata.specializedAnalyzer, metadata.specializedSummary,
        metadata.vtPass, metadata.vtDetections, metadata.vtSummary))
    fun _ ↦ rfl

/-! ### Making a report -/

/-- The verdict of a report: every check passed. -/
def FileMetadata.isValid (f : FileMetadata) : Bool :=
  f.avPass && f.yaraPass && !f.isToobig && !f.isCorrupted && f.isDigestOk && f.isTypeAllowed &&
    f.specializedPass && f.vtPass

/-- `generate_report_metadata`, at a date. -/
def generateReportMetadata (date : String) (f : FileMetadata) : MetaData where
  name := f.filename
  date := date
  fileType := f.fileType
  isValid := f.isValid
  report :=
    { yara := f.yaraReport
      av := f.avReport
      typeAllowed := f.isTypeAllowed
      size := f.size
      corrupted := f.isCorrupted
      toobig := f.isToobig
      isDigestOk := f.isDigestOk
      specializedPass := f.specializedPass
      specializedAnalyzer := f.specializedAnalyzer
      specializedSummary := f.specializedSummary
      vtPass := f.vtPass
      vtDetections := f.vtDetections
      vtSummary := f.vtSummary }

/-- The text that the signatures of a report cover. -/
def signedText (fileDigest metadataDigest : String) : String :=
  fileDigest ++ "-" ++ metadataDigest

variable (schemes : Schemes)

/-- `HybridKeyPair`: the private keys of a station. -/
structure HybridKeyPair where
  classic : schemes.ed25519.SigningKey
  pq : schemes.mlDsa87.SecretKey

variable {schemes}

/-- The signature blob of a message: the two signatures one after the other, or nothing without
keys. -/
def signBlob (message : List UInt8) : Option (HybridKeyPair schemes) → Option (List UInt8)
  | none => some []
  | some keys => do
    let pq ← schemes.mlDsa87.sign keys.pq message
    return schemes.ed25519.sign keys.classic message ++ pq

/-- The digest of the signed part of a report, as text. -/
def metadataDigest (sha256 : Sha256) (json : ReportJson) (metadata : MetaData) : String :=
  sha256.hexDigest (Wire.Bincode.utf8 (json.metadataToString metadata))

/-- `bind_and_sign`. It fails only when the ML-DSA-87 signature does. -/
def bindAndSign (sha256 : Sha256) (json : ReportJson) (f : FileMetadata) (reportMeta : MetaData)
    (signKeys : Option (HybridKeyPair schemes)) (signCert : String) : Option Report := do
  let metaDigest := metadataDigest sha256 json reportMeta
  let concat := signedText f.digest metaDigest
  let signature ← signBlob (Wire.Bincode.utf8 concat) signKeys
  return {
    metadata := reportMeta
    binding :=
      { fileDigest := Base64.encode (Wire.Bincode.utf8 f.digest)
        metadataDigest := Base64.encode (Wire.Bincode.utf8 metaDigest)
        stationCertificate := signCert
        reportSignature := Base64.encode signature } }

/-- The report carries the metadata it was made for. -/
theorem metadata_of_bindAndSign {sha256 : Sha256} {json : ReportJson} {f : FileMetadata}
    {reportMeta : MetaData} {signKeys : Option (HybridKeyPair schemes)} {signCert : String}
    {report : Report}
    (hsigned : bindAndSign sha256 json f reportMeta signKeys signCert = some report) :
    report.metadata = reportMeta := by
  obtain ⟨signature, -, hreport⟩ := Option.bind_eq_some_iff.mp hsigned
  rw [← Option.some.inj hreport]

end Keysas.Reports
