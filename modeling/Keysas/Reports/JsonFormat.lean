import Keysas.Reports.Verification
import Keysas.Rust.JsonWriter

/-!
# The text of a report

A report is written as an indented JSON text, and its signed part on one line. `serdeReportJson` is
this serializer. `reportFromStr_of_bytes` says what is read from the file of a report when only a
part of its bytes is there.
-/

set_option autoImplicit false
set_option relaxedAutoImplicit false

namespace Keysas.Reports

open SerdeJson

/-! ### Writers and readers -/

/-- The fields of `FileReport`. -/
def FileReport.fields : List String :=
  ["yara", "av", "type_allowed", "size", "corrupted", "toobig", "is_digest_ok", "specialized_pass",
    "specialized_analyzer", "specialized_summary", "vt_pass", "vt_detections", "vt_summary"]

/-- The fields of `MetaData`. -/
def MetaData.names : List String :=
  ["name", "date", "file_type", "is_valid", "report"]

/-- The fields of `Bd`. -/
def Bd.fields : List String :=
  ["file_digest", "metadata_digest", "station_certificate", "report_signature"]

/-- The fields of `Report`. -/
def Report.names : List String :=
  ["metadata", "binding"]

/-- The writer of `FileReport`. -/
def FileReport.serialize (report : FileReport) : Json :=
  structObject fields [.string report.yara, .array (report.av.map fun name ↦ .string (some name)),
    .bool report.typeAllowed, .unsigned report.size, .bool report.corrupted, .bool report.toobig,
    .bool report.isDigestOk, .bool report.specializedPass, .string report.specializedAnalyzer,
    .string report.specializedSummary, .bool report.vtPass,
    .unsigned report.vtDetections.toUInt64, .string report.vtSummary]

/-- The reader of `FileReport`. -/
def FileReport.deserialize (json : Json) : Option FileReport := do
  match ← structFields fields json with
  | [yara, av, typeAllowed, size, corrupted, toobig, isDigestOk, specializedPass,
      specializedAnalyzer, specializedSummary, vtPass, vtDetections, vtSummary] =>
    return {
      yara := ← text yara
      av := ← vector text av
      typeAllowed := ← SerdeJson.bool typeAllowed
      size := ← SerdeJson.u64 size
      corrupted := ← SerdeJson.bool corrupted
      toobig := ← SerdeJson.bool toobig
      isDigestOk := ← SerdeJson.bool isDigestOk
      specializedPass := ← SerdeJson.bool specializedPass
      specializedAnalyzer := ← text specializedAnalyzer
      specializedSummary := ← text specializedSummary
      vtPass := ← SerdeJson.bool vtPass
      vtDetections := ← SerdeJson.u32 vtDetections
      vtSummary := ← text vtSummary }
  | _ => none

/-- The writer of `MetaData`. -/
def MetaData.serialize (metadata : MetaData) : Json :=
  structObject names [.string metadata.name, .string metadata.date, .string metadata.fileType,
    .bool metadata.isValid, metadata.report.serialize]

/-- The reader of `MetaData`. -/
def MetaData.deserialize (json : Json) : Option MetaData := do
  match ← structFields names json with
  | [name, date, fileType, isValid, report] =>
    return {
      name := ← text name
      date := ← text date
      fileType := ← text fileType
      isValid := ← SerdeJson.bool isValid
      report := ← FileReport.deserialize report }
  | _ => none

/-- The writer of `Bd`. -/
def Bd.serialize (binding : Bd) : Json :=
  structObject fields [.string binding.fileDigest, .string binding.metadataDigest,
    .string binding.stationCertificate, .string binding.reportSignature]

/-- The reader of `Bd`. -/
def Bd.deserialize (json : Json) : Option Bd := do
  match ← structFields fields json with
  | [fileDigest, metadataDigest, stationCertificate, reportSignature] =>
    return {
      fileDigest := ← text fileDigest
      metadataDigest := ← text metadataDigest
      stationCertificate := ← text stationCertificate
      reportSignature := ← text reportSignature }
  | _ => none

/-- The writer of `Report`. -/
def Report.serialize (report : Report) : Json :=
  structObject names [report.metadata.serialize, report.binding.serialize]

/-- The reader of `Report`. -/
def Report.deserialize (json : Json) : Option Report := do
  match ← structFields names json with
  | [metadata, binding] =>
    return { metadata := ← MetaData.deserialize metadata, binding := ← Bd.deserialize binding }
  | _ => none

theorem FileReport.deserialize_serialize (report : FileReport) :
    deserialize report.serialize = some report := by
  rw [deserialize, serialize, structFields_structObject (by decide) rfl]
  show (vector text _).bind (fun av ↦ (SerdeJson.u32 (.unsigned report.vtDetections.toUInt64)).bind
    fun vtDetections ↦ some { report with av := av, vtDetections := vtDetections }) = some report
  have hav : vector text (.array (report.av.map fun name ↦ .string (some name))) = some report.av :=
    @vector_map _ text (fun name ↦ .string (some name)) (fun _ ↦ rfl) report.av
  rw [hav, Option.bind_some, u32_unsigned, Option.bind_some]

theorem MetaData.deserialize_serialize (metadata : MetaData) :
    deserialize metadata.serialize = some metadata := by
  rw [deserialize, serialize, structFields_structObject (by decide) rfl]
  show (FileReport.deserialize _).bind (fun report ↦ some { metadata with report := report }) = _
  rw [FileReport.deserialize_serialize, Option.bind_some]

theorem Bd.deserialize_serialize (binding : Bd) : deserialize binding.serialize = some binding := by
  rw [deserialize, serialize, structFields_structObject (by decide) rfl]
  rfl

theorem Report.deserialize_serialize (report : Report) :
    deserialize report.serialize = some report := by
  rw [deserialize, serialize, structFields_structObject (by decide) rfl]
  show (MetaData.deserialize _).bind (fun metadata ↦ (Bd.deserialize _).bind fun binding ↦
    some (Report.mk metadata binding)) = some report
  rw [MetaData.deserialize_serialize, Option.bind_some, Bd.deserialize_serialize, Option.bind_some]

/-! ### Syntax trees -/

theorem FileReport.written_serialize (report : FileReport) (depth : ℕ) :
    Written (depth + 2) report.serialize := by
  refine written_structObject ?_
  simp only [List.forall_mem_cons, List.not_mem_nil, false_imp_iff, implies_true,
    and_true]
  exact ⟨.string _ _, written_strings _ _, .bool _ _, .unsigned _ _, .bool _ _, .bool _ _,
    .bool _ _, .bool _ _, .string _ _, .string _ _, .bool _ _, .unsigned _ _, .string _ _⟩

theorem MetaData.written_serialize (metadata : MetaData) (depth : ℕ) :
    Written (depth + 3) metadata.serialize := by
  refine written_structObject ?_
  simp only [List.forall_mem_cons, List.not_mem_nil, false_imp_iff, implies_true,
    and_true]
  exact ⟨.string _ _, .string _ _, .string _ _, .bool _ _, metadata.report.written_serialize depth⟩

theorem Bd.written_serialize (binding : Bd) (depth : ℕ) :
    Written (depth + 1) binding.serialize := by
  refine written_structObject ?_
  simp only [List.forall_mem_cons, List.not_mem_nil, false_imp_iff, implies_true,
    and_true]
  exact ⟨.string _ _, .string _ _, .string _ _, .string _ _⟩

theorem Report.written_serialize (report : Report) (depth : ℕ) :
    Written (depth + 4) report.serialize := by
  refine written_structObject ?_
  simp only [List.forall_mem_cons, List.not_mem_nil, false_imp_iff, implies_true,
    and_true]
  exact ⟨report.metadata.written_serialize depth, report.binding.written_serialize (depth + 2)⟩

/-! ### The serializer -/

/-- The serializer of reports. -/
def serdeReportJson : ReportJson where
  metadataToString metadata := toText metadata.serialize
  metadataFromStr text := (fromStr text).bind MetaData.deserialize
  reportToString report := toTextPretty report.serialize
  reportFromStr text := (fromStr text).bind Report.deserialize
  metadataFromStr_toString metadata := by
    rw [fromStr_toText (metadata.written_serialize 124), Option.bind_some,
      metadata.deserialize_serialize]
  reportFromStr_toString report := by
    rw [fromStr_toTextPretty (report.written_serialize 123), Option.bind_some,
      report.deserialize_serialize]

/-- The text of a report with the line feed behind it. -/
theorem reportToString_append (report : Report) :
    serdeReportJson.reportToString report ++ "\n" =
      String.ofList (write (.pretty 0) report.serialize ++ ['\n']) := by
  rw [String.ofList_append]
  rfl

open Wire.Bincode in
/-- What is read of a report from a front of the bytes of its file: nothing when the front stops
before the last bracket, and the report otherwise. -/
theorem reportFromStr_of_bytes (report : Report) {front : List UInt8}
    (hbegin : front <+: utf8 (serdeReportJson.reportToString report ++ "\n")) :
    (fromUtf8 front).bind serdeReportJson.reportFromStr =
      if (utf8 (serdeReportJson.reportToString report)).length ≤ front.length then some report
      else none := by
  rw [reportToString_append] at hbegin
  have hread := fromStr_of_bytes (report.written_serialize 123) (.inr ⟨_, rfl⟩) (.pretty 0)
    (by simp [isSpace]) hbegin
  show (fromUtf8 front).bind (fun text ↦ (fromStr text).bind Report.deserialize) = _
  rw [← Option.bind_assoc, hread, apply_ite (Option.bind · Report.deserialize), Option.bind_some,
    Report.deserialize_serialize]
  rfl

end Keysas.Reports
