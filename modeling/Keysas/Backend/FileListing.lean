import Keysas.Out.OutputDirectory

/-!
# The listing of the output directory

The backend shows the files of the output directory with the verdicts of their reports. It reads
the names in whatever order the directory gives them and sorts them by their form: `listFilesOut`
passes over hidden names that are not those of reports and over names that end with `.sha256`,
takes every other name that ends with `.krp` for a report, and the rest for released files. A
released file has the verdict of the report beside it, and is valid without one. A report whose
file is not there stands for a file that was blocked.

`parseKrp` takes the verdict, a reason and the result of each check out of a report. `shownAs`
collects the verdicts that the listing shows under one name.
-/

set_option autoImplicit false
set_option relaxedAutoImplicit false

namespace Keysas.Backend

open Reports RustStd Store Out

/-! ### JSON values -/

/-- `serde_json::Value`. Of the numbers only those that are a `u64` are looked at. -/
inductive Json where
  | null
  | bool (value : Bool)
  | unsigned (value : UInt64)
  | otherNumber
  | string (text : String)
  | array (items : List Json)
  | object (members : List (String × Json))

/-- Indexing by a key: `null` where there is no such member. -/
def Json.get : Json → String → Json
  | .object members, key => ((members.find? fun member ↦ member.1 = key).map Prod.snd).getD .null
  | _, _ => .null

/-- `as_bool`. -/
def Json.asBool : Json → Option Bool
  | .bool value => some value
  | _ => none

/-- `as_u64`. -/
def Json.asU64 : Json → Option UInt64
  | .unsigned value => some value
  | _ => none

/-- `as_str`. -/
def Json.asStr : Json → Option String
  | .string text => some text
  | _ => none

/-- `as_array`. -/
def Json.asArray : Json → Option (List Json)
  | .array items => some items
  | _ => none

/-- A detailed report as a JSON value. -/
def fileReportToJson (report : FileReport) : Json :=
  .object [("yara", .string report.yara), ("av", .array (report.av.map .string)),
    ("type_allowed", .bool report.typeAllowed), ("size", .unsigned report.size),
    ("corrupted", .bool report.corrupted), ("toobig", .bool report.toobig),
    ("is_digest_ok", .bool report.isDigestOk), ("specialized_pass", .bool report.specializedPass),
    ("specialized_analyzer", .string report.specializedAnalyzer),
    ("specialized_summary", .string report.specializedSummary), ("vt_pass", .bool report.vtPass),
    ("vt_detections", .unsigned report.vtDetections.toUInt64),
    ("vt_summary", .string report.vtSummary)]

/-- A report as a JSON value. -/
def reportToJson (report : Report) : Json :=
  .object [
    ("metadata", .object [("name", .string report.metadata.name),
      ("date", .string report.metadata.date), ("file_type", .string report.metadata.fileType),
      ("is_valid", .bool report.metadata.isValid),
      ("report", fileReportToJson report.metadata.report)]),
    ("binding", .object [("file_digest", .string report.binding.fileDigest),
      ("metadata_digest", .string report.binding.metadataDigest),
      ("station_certificate", .string report.binding.stationCertificate),
      ("report_signature", .string report.binding.reportSignature)])]

/-- The JSON parser for values: it reads a report that was written by the serializer, with the line
feed behind it. -/
structure JsonParser (json : ReportJson) where
  /-- `serde_json::from_str`. -/
  fromStr : String → Option Json
  fromStr_report : ∀ report,
    fromStr (json.reportToString report ++ "\n") = some (reportToJson report)

/-! ### Reading a report -/

/-- What `parse_krp` returns. A map is the list of its members in the order in which they are
inserted, each key once. -/
structure KrpReading where
  isValid : Bool
  reason : Option String
  detail : Option String
  checks : Option (List (String × Bool))
  checkDetails : Option (List (String × String))
  deriving DecidableEq

/-- The first strings of an array joined by commas. -/
def joinStrings (items : List Json) : String :=
  ", ".intercalate (items.filterMap Json.asStr)

/-- The specialized analysis was performed. -/
def specializedPerformed (report : Json) : Bool :=
  (report.get "specialized_analyzer").asStr.getD "" ≠ "" ||
    (report.get "specialized_pass").asBool = some false

/-- The map of `parse_krp` from the checks to their results. -/
def readChecks (report : Json) : List (String × Bool) :=
  [("av", ((report.get "av").asArray.map List.isEmpty).getD true),
    ("yara", (report.get "yara").asStr.getD "" = ""),
    ("type", (report.get "type_allowed").asBool.getD true),
    ("size", !(report.get "toobig").asBool.getD false),
    ("hash", (report.get "is_digest_ok").asBool.getD true &&
      !(report.get "corrupted").asBool.getD false)] ++
  (if specializedPerformed report then
    [("specialized", (report.get "specialized_pass").asBool.getD true)]
  else []) ++
  (if (report.get "vt_summary").asStr.getD "" ≠ "" then
    [("vt", (report.get "vt_pass").asBool.getD true)]
  else [])

/-- The text about the specialized analysis. -/
def specializedDetail (report : Json) : String :=
  let analyzer := (report.get "specialized_analyzer").asStr.getD ""
  let summary := (report.get "specialized_summary").asStr.getD ""
  if analyzer = "" then summary
  else if summary = "" then analyzer
  else analyzer ++ ": " ++ summary

/-- The text about VirusTotal. -/
def virusTotalDetail (report : Json) : String :=
  let detections := (report.get "vt_detections").asU64.getD 0
  let summary := (report.get "vt_summary").asStr.getD ""
  if 0 < detections then toString detections.toNat ++ " détection(s) — " ++ summary else summary

/-- The map of `parse_krp` from the checks to their details. -/
def readCheckDetails (metadata report : Json) : List (String × String) :=
  let check (failed : Bool) (key text : String) := if failed then [(key, text)] else []
  let corrupted := (report.get "corrupted").asBool.getD false
  check (!((report.get "av").asArray.map List.isEmpty).getD true) "av"
    (((report.get "av").asArray.map joinStrings).getD "") ++
  check ((report.get "yara").asStr.getD "" ≠ "") "yara" ((report.get "yara").asStr.getD "") ++
  check (!(report.get "type_allowed").asBool.getD true) "type"
    ("forbidden:" ++ (metadata.get "file_type").asStr.getD "") ++
  check ((report.get "toobig").asBool.getD false) "size"
    ("too_large:" ++ toString ((report.get "size").asU64.getD 0).toNat) ++
  check (corrupted || !(report.get "is_digest_ok").asBool.getD true) "hash"
    (if corrupted then "corrupted" else "digest_mismatch") ++
  check (specializedPerformed report) "specialized" (specializedDetail report) ++
  check ((report.get "vt_summary").asStr.getD "" ≠ "") "vt" (virusTotalDetail report)

/-- A text that is there and not empty. -/
def nonEmpty (value : Json) : Option String :=
  value.asStr.filter fun text ↦ text ≠ ""

/-- The primary reason of a failure and its detail: the first of the checks that failed. -/
def failureReason (metadata report : Json) : String × Option String :=
  if (report.get "corrupted").asBool.getD false then ("corrupted", none)
  else if (report.get "toobig").asBool = some true then ("toobig", none)
  else if !(report.get "is_digest_ok").asBool.getD true then ("digest", none)
  else if (report.get "type_allowed").asBool = some false then
    ("forbidden", nonEmpty (metadata.get "file_type"))
  else if !((report.get "av").asArray.map List.isEmpty).getD true then
    ("antivirus", ((report.get "av").asArray.bind List.head?).bind Json.asStr)
  else if (report.get "yara").asStr.getD "" ≠ "" then
    ("yara", some (String.ofList (((report.get "yara").asStr.getD "").toList.take 80)))
  else if (report.get "specialized_pass").asBool = some false then
    ("specialized", nonEmpty (report.get "specialized_summary"))
  else if (report.get "vt_pass").asBool = some false then
    ("virustotal", nonEmpty (report.get "vt_summary"))
  else ("digest", none)

/-- The reading of a report that cannot be read. -/
def unreadKrp : KrpReading where
  isValid := true
  reason := none
  detail := none
  checks := none
  checkDetails := none

/-- The reading of a JSON value. -/
def readKrp (value : Json) : KrpReading :=
  let metadata := value.get "metadata"
  let report := metadata.get "report"
  let reading : KrpReading :=
    { unreadKrp with
      checks := some (readChecks report)
      checkDetails := some (readCheckDetails metadata report) }
  if (metadata.get "is_valid").asBool.getD true then reading
  else
    { reading with
      isValid := false
      reason := some (failureReason metadata report).1
      detail := (failureReason metadata report).2 }

variable {json : ReportJson} (parser : JsonParser json)

/-- `parse_krp`, on the content of the file, when it can be read. -/
def parseKrp (content : Option (List UInt8)) : KrpReading :=
  match (content.bind Wire.Bincode.fromUtf8).bind parser.fromStr with
  | none => unreadKrp
  | some value => readKrp value

/-! ### The listing -/

/-- `FileStatus`: what the frontend is told about a file. -/
structure FileStatus where
  filename : String
  isValid : Bool
  reason : Option String
  detail : Option String
  checks : Option (List (String × Bool))
  checkDetails : Option (List (String × String))
  deriving DecidableEq

/-- The expression `^\..+\.krp$`. The dot of an expression stands for every character but the line
feed. -/
def isHiddenKrp (name : String) : Bool :=
  match name.toList with
  | '.' :: rest =>
    let middle := rest.take (rest.length - 4)
    rest = middle ++ ".krp".toList && middle ≠ [] && '\n' ∉ middle
  | _ => false

/-- The names that are not passed over. -/
def isListed (name : String) : Bool :=
  (!startsWith name "." || isHiddenKrp name) && !endsWith name ".sha256"

/-- `data_files`. -/
def dataFiles (names : List String) : List String :=
  names.filter fun name ↦ isListed name && !endsWith name ".krp"

/-- `krp_files`. -/
def krpFiles (names : List String) : List String :=
  names.filter fun name ↦ isListed name && endsWith name ".krp"

/-- The name without a dot at the front and the extension at the end. -/
def originalName (krpName : String) : String :=
  let withoutDot :=
    match krpName.toList with
    | '.' :: rest => rest
    | chars => chars
  String.ofList (withoutDot.take (withoutDot.length - 4))

/-- The status of a file whose data are there. -/
def dataStatus (directory : OutputDirectory) (name : String) : FileStatus :=
  let krpName := "." ++ name ++ ".krp"
  let reading :=
    if (directory.lookup krpName).isSome then parseKrp parser (directory.lookup krpName)
    else unreadKrp
  { filename := name
    isValid := reading.isValid
    reason := reading.reason
    detail := reading.detail
    checks := reading.checks
    checkDetails := reading.checkDetails }

/-- The status of a file that only has a report. -/
def krpStatus (directory : OutputDirectory) (krpName : String) : FileStatus :=
  let reading := parseKrp parser (directory.lookup krpName)
  { filename := originalName krpName
    isValid := false
    reason := reading.reason.or (some "unknown")
    detail := reading.detail
    checks := reading.checks
    checkDetails := reading.checkDetails }

/-- `list_files_out`, on the names of the directory in the order in which they are read. -/
def listFilesOut (directory : OutputDirectory) (names : List String) : List FileStatus :=
  (dataFiles names).map (dataStatus parser directory) ++
    ((krpFiles names).filter fun krpName ↦ originalName krpName ∉ dataFiles names).map
      (krpStatus parser directory)

/-- The verdicts that a listing shows under a name. -/
def shownAs (listing : List FileStatus) (name : String) : List Bool :=
  (listing.filter fun status ↦ status.filename = name).map FileStatus.isValid

/-! ### What a reading says -/

theorem isValid_readKrp (value : Json) :
    (readKrp value).isValid = ((value.get "metadata").get "is_valid").asBool.getD true := by
  simp only [readKrp]
  split_ifs with hvalid
  · exact hvalid.symm
  · exact (Bool.eq_false_iff.mpr hvalid).symm

/-- A report that was written is read with its verdict. -/
theorem isValid_parseKrp_reportBytes (report : Report) :
    (parseKrp parser (some (reportBytes json report))).isValid = report.metadata.isValid := by
  have hread : ((some (reportBytes json report)).bind Wire.Bincode.fromUtf8).bind parser.fromStr =
      some (reportToJson report) := by
    rw [Option.bind_some, reportBytes, Wire.Bincode.fromUtf8_utf8, Option.bind_some,
      parser.fromStr_report]
  rw [parseKrp, hread]
  exact isValid_readKrp (reportToJson report)

/-! ### Names of reports -/

theorem toList_append_krp (name : String) :
    (name ++ ".krp").toList = name.toList ++ ['.', 'k', 'r', 'p'] := by
  rw [String.toList_append]
  rfl

/-- The report of a file is not passed over, unless there is a line feed in its name. -/
theorem isHiddenKrp_reportName_iff {name : String} (hname : name ≠ "") :
    isHiddenKrp (reportName name) = true ↔ '\n' ∉ name.toList := by
  unfold isHiddenKrp
  rw [toList_reportName]
  simp [hname]

theorem originalName_reportName (name : String) : originalName (reportName name) = name := by
  unfold originalName
  rw [toList_reportName]
  simp

/-- Of a name without a dot at the front the extension is left out. -/
theorem originalName_append_krp {name : String}
    (hvisible : startsWith (name ++ ".krp") "." = false) :
    originalName (name ++ ".krp") = name := by
  have hdot : ∀ rest, (name ++ ".krp").toList ≠ '.' :: rest := by
    intro rest hrest
    rw [startsWith, decide_eq_false_iff_not, hrest] at hvisible
    exact hvisible ⟨rest, rfl⟩
  unfold originalName
  split
  · exact absurd ‹_› (hdot _)
  · rw [toList_append_krp]
    simp

theorem endsWith_reportName (name : String) : endsWith (reportName name) ".krp" = true := by
  rw [endsWith, decide_eq_true_iff, toList_reportName]
  exact ⟨'.' :: name.toList, rfl⟩

theorem endsWith_append_krp (name : String) : endsWith (name ++ ".krp") ".krp" = true := by
  rw [endsWith, decide_eq_true_iff, toList_append_krp]
  exact ⟨name.toList, rfl⟩

theorem exists_of_endsWith_krp {key : String} (hkrp : endsWith key ".krp" = true) :
    ∃ name, key = name ++ ".krp" := by
  rw [endsWith, decide_eq_true_iff] at hkrp
  obtain ⟨front, hfront⟩ := hkrp
  refine ⟨String.ofList front, String.toList_inj.mp ?_⟩
  rw [← hfront, String.toList_append]
  simp

/-- No name ends in both ways. -/
theorem endsWith_sha256_eq_false {key : String} (hkrp : endsWith key ".krp" = true) :
    endsWith key ".sha256" = false := by
  rw [endsWith, decide_eq_true_iff] at hkrp
  rw [endsWith, decide_eq_false_iff_not]
  intro hsha
  have hlast : ".krp".toList.getLast? = ".sha256".toList.getLast? := by
    obtain ⟨first, hfirst⟩ := hkrp
    obtain ⟨second, hsecond⟩ := hsha
    have hkrpLast := congrArg List.getLast? hfirst
    have hshaLast := congrArg List.getLast? hsecond
    rw [List.getLast?_append] at hkrpLast hshaLast
    exact hkrpLast.trans hshaLast.symm
  exact absurd hlast (by decide)

/-! ### What is shown under a name -/

theorem shownAs_append (first second : List FileStatus) (name : String) :
    shownAs (first ++ second) name = shownAs first name ++ shownAs second name := by
  rw [shownAs, List.filter_append, List.map_append]
  rfl

/-- Statuses one for each of a list are shown under a name as often as the name is given to one of
the list. -/
theorem shownAs_map {α : Type} (statusOf : α → FileStatus) (items : List α) (name : String) :
    shownAs (items.map statusOf) name =
      (items.filter fun item ↦ (statusOf item).filename = name).map fun item ↦
        (statusOf item).isValid := by
  rw [shownAs, List.filter_map, List.map_map]
  rfl

/-- A name is shown for the data under it, and for the reports without data that name it. -/
theorem shownAs_listFilesOut (directory : OutputDirectory) (names : List String) (name : String) :
    shownAs (listFilesOut parser directory names) name =
      ((dataFiles names).filter fun other ↦ other = name).map
          (fun other ↦ (dataStatus parser directory other).isValid) ++
        (((krpFiles names).filter fun krpName ↦ originalName krpName ∉ dataFiles names).filter
          fun krpName ↦ originalName krpName = name).map fun _ ↦ false := by
  rw [listFilesOut, shownAs_append, shownAs_map, shownAs_map]
  rfl

/-- A file whose data are there is shown once. -/
theorem shownAs_of_mem_dataFiles {directory : OutputDirectory} {names : List String} {name : String}
    (hnodup : names.Nodup) (hname : name ∈ dataFiles names) :
    shownAs (listFilesOut parser directory names) name =
      [(dataStatus parser directory name).isValid] := by
  have hdata : (dataFiles names).filter (fun other ↦ other = name) = [name] := by
    have hcount : (dataFiles names).count name = 1 :=
      List.count_eq_one_of_mem (hnodup.filter _) hname
    rw [List.filter_eq, hcount]
    rfl
  have hkrp : ((krpFiles names).filter fun krpName ↦ originalName krpName ∉ dataFiles names).filter
      (fun krpName ↦ originalName krpName = name) = [] := by
    rw [List.filter_eq_nil_iff]
    intro krpName hmem heq
    rw [decide_eq_true_iff] at heq
    have habsent := (List.mem_filter.mp hmem).2
    rw [decide_eq_true_iff, heq] at habsent
    exact habsent hname
  rw [shownAs_listFilesOut, hdata, hkrp]
  rfl

/-- Any other name is shown, as invalid, as often as it is the original name of a report. -/
theorem shownAs_of_not_mem_dataFiles {directory : OutputDirectory} {names : List String}
    {name : String} (hname : name ∉ dataFiles names) :
    shownAs (listFilesOut parser directory names) name =
      List.replicate ((krpFiles names).filter fun krpName ↦ originalName krpName = name).length
        false := by
  have hdata : (dataFiles names).filter (fun other ↦ other = name) = [] := by
    rw [List.filter_eq_nil_iff]
    intro other hmem heq
    rw [decide_eq_true_iff] at heq
    exact hname (heq ▸ hmem)
  have hkrp : ((krpFiles names).filter fun krpName ↦ originalName krpName ∉ dataFiles names).filter
      (fun krpName ↦ originalName krpName = name) =
        (krpFiles names).filter fun krpName ↦ originalName krpName = name := by
    rw [List.filter_filter]
    refine List.filter_congr fun krpName _ ↦ ?_
    by_cases heq : originalName krpName = name
    · simp [heq, hname]
    · simp [heq]
  rw [shownAs_listFilesOut, hdata, hkrp, List.map_const']
  rfl

end Keysas.Backend
