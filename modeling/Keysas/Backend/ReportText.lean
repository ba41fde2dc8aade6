import Keysas.Backend.FileListing
import Keysas.Reports.JsonFormat
import Keysas.Reports.RoundTrip

/-!
# The readers of a report file

The file of a report is read by the verifier, as a report, and by the backend, as a JSON value of
any kind. `serdeParser` is the reader of the backend. `readers_of_reportFile` says what both make of
a file that holds the bytes of a report up to some position, as a reader finds it that comes while
the report is written, or after the writer was stopped. While the last bracket is missing the
verifier refuses the report, and the backend shows the file as one without findings. Once it is
there the verifier accepts the report, and the backend shows the same verdict.
-/

set_option autoImplicit false
set_option relaxedAutoImplicit false

namespace Keysas.Backend

open Crypto Keys Reports Out RustStd

/-! ### Values -/

/-- `Map::insert`: a member takes the place of one of the same name. -/
def insertMember (members : List (String × Json)) (member : String × Json) : List (String × Json) :=
  (members.filter fun other ↦ other.1 ≠ member.1) ++ [member]

mutual

/-- The reader of `serde_json::Value`. -/
def toValue : SerdeJson.Json → Option Json
  | .null => some .null
  | .bool value => some (.bool value)
  | .unsigned value => some (.unsigned value)
  | .otherNumber => some .otherNumber
  | .string text => text.map .string
  | .array items => (toValues items).map .array
  | .object members => (toMembers members).map fun members ↦
      .object (members.foldl insertMember [])

/-- The values of some items. -/
def toValues : List SerdeJson.Json → Option (List Json)
  | [] => some []
  | item :: items => (toValue item).bind fun value ↦ (toValues items).map (value :: ·)

/-- The names and values of some members. -/
def toMembers : List (Option String × SerdeJson.Json) → Option (List (String × Json))
  | [] => some []
  | (name, item) :: members => name.bind fun name ↦ (toValue item).bind fun value ↦
      (toMembers members).map ((name, value) :: ·)

end

/-- Members with different names are inserted one behind the other. -/
theorem foldl_insertMember {members : List (String × Json)}
    (hnodup : (members.map Prod.fst).Nodup) : members.foldl insertMember [] = members := by
  have hbehind : ∀ before, ((before ++ members).map Prod.fst).Nodup →
      members.foldl insertMember before = before ++ members := by
    clear hnodup
    induction members with
    | nil => exact fun before _ ↦ (List.append_nil before).symm
    | cons member members ih =>
      intro before hnodup
      have hfilter : before.filter (fun other ↦ other.1 ≠ member.1) = before := by
        rw [List.filter_eq_self]
        intro other hother
        rw [List.map_append, List.map_cons, List.nodup_append] at hnodup
        exact decide_eq_true (hnodup.2.2 _ (List.mem_map_of_mem hother) _ List.mem_cons_self)
      have hmove : before ++ member :: members = before ++ [member] ++ members := by
        rw [List.append_assoc, List.singleton_append]
      rw [List.foldl_cons, insertMember, hfilter, hmove]
      exact ih _ (hmove ▸ hnodup)
  exact hbehind [] hnodup

/-- The members of a structure are read when its values are. -/
theorem toMembers_zip {names : List String} {items : List SerdeJson.Json} {values : List Json}
    (hvalues : List.Forall₂ (fun item value ↦ toValue item = some value) items values) :
    toMembers ((names.map some).zip items) = some (names.zip values) := by
  induction hvalues generalizing names with
  | nil => rw [List.zip_nil_right, List.zip_nil_right, toMembers]
  | @cons item value items values hvalue _ ih =>
    cases names with
    | nil => rfl
    | cons name names =>
      rw [List.map_cons, List.zip_cons_cons, List.zip_cons_cons, toMembers, hvalue, ih]
      rfl

/-- A structure that was written is read as the value with the same members. -/
theorem toValue_structObject {names : List String} (hnodup : names.Nodup)
    {items : List SerdeJson.Json} {values : List Json} (hlength : names.length ≤ values.length)
    (hvalues : List.Forall₂ (fun item value ↦ toValue item = some value) items values) :
    toValue (SerdeJson.structObject names items) = some (.object (names.zip values)) := by
  have hnames : ((names.zip values).map Prod.fst).Nodup := by
    rwa [List.map_fst_zip hlength]
  rw [SerdeJson.structObject, toValue, toMembers_zip hvalues, Option.map_some,
    foldl_insertMember hnames]

theorem toValue_strings (names : List String) :
    toValue (.array (names.map fun name ↦ .string (some name))) =
      some (.array (names.map .string)) := by
  have hitems : toValues (names.map fun name ↦ .string (some name)) = some (names.map .string) := by
    induction names with
    | nil => rfl
    | cons name names ih =>
      rw [List.map_cons, toValues, ih]
      rfl
  rw [toValue, hitems, Option.map_some]

theorem toValue_fileReport (report : FileReport) :
    toValue report.serialize = some (fileReportToJson report) := by
  refine (toValue_structObject (by decide) ?_ <| .cons rfl <| .cons (toValue_strings _) <|
    .cons rfl <| .cons rfl <| .cons rfl <| .cons rfl <| .cons rfl <| .cons rfl <| .cons rfl <|
    .cons rfl <| .cons rfl <| .cons rfl <| .cons rfl .nil).trans rfl
  exact Nat.le_refl 13

/-- A report that was written is read as its value. -/
theorem toValue_serialize (report : Report) :
    toValue report.serialize = some (reportToJson report) := by
  have hmetadata : toValue report.metadata.serialize =
      some (.object [("name", .string report.metadata.name), ("date", .string report.metadata.date),
        ("file_type", .string report.metadata.fileType),
        ("is_valid", .bool report.metadata.isValid),
        ("report", fileReportToJson report.metadata.report)]) := by
    refine (toValue_structObject (by decide) ?_ <| .cons rfl <| .cons rfl <| .cons rfl <|
      .cons rfl <| .cons (toValue_fileReport _) .nil).trans rfl
    exact Nat.le_refl 5
  refine (toValue_structObject (by decide) ?_ <| .cons hmetadata <| .cons rfl .nil).trans rfl
  exact Nat.le_refl 2

/-- `serde_json::from_str`, for a value of any kind. -/
def valueFromStr (text : String) : Option Json :=
  (SerdeJson.fromStr text).bind toValue

/-- The reader of the backend. -/
def serdeParser : JsonParser serdeReportJson where
  fromStr := valueFromStr
  fromStr_report report := by
    rw [valueFromStr, reportToString_append,
      SerdeJson.fromStr_write (report.written_serialize 123) _ (by simp [SerdeJson.isSpace]),
      Option.bind_some, toValue_serialize]

/-- What the backend reads from a front of the bytes of a report: nothing when the front stops
before the last bracket, and the value of the report otherwise. -/
theorem parseKrp_of_bytes (report : Report) {front : List UInt8}
    (hbegin : front <+: reportBytes serdeReportJson report) :
    parseKrp serdeParser (some front) =
      if (Wire.Bincode.utf8 (serdeReportJson.reportToString report)).length ≤ front.length then
        readKrp (reportToJson report)
      else unreadKrp := by
  rw [reportBytes, reportToString_append] at hbegin
  have hread := SerdeJson.fromStr_of_bytes (report.written_serialize 123) (.inr ⟨_, rfl⟩)
    (.pretty 0) (by simp [SerdeJson.isSpace]) hbegin
  have hvalue : (Wire.Bincode.fromUtf8 front).bind serdeParser.fromStr =
      if (Wire.Bincode.utf8 (serdeReportJson.reportToString report)).length ≤ front.length then
        some (reportToJson report)
      else none := by
    show (Wire.Bincode.fromUtf8 front).bind (fun text ↦ (SerdeJson.fromStr text).bind toValue) = _
    rw [← Option.bind_assoc, hread, apply_ite (Option.bind · toValue), Option.bind_some,
      toValue_serialize]
    rfl
  rw [parseKrp, Option.bind_some, hvalue]
  split_ifs <;> rfl

/-! ### The two readers -/

variable {schemes : Schemes}

/-- A report that cannot be read is refused, whatever the file and the authorities. -/
theorem exists_error_of_unread {sha256 : Sha256} {json : ReportJson} {fromPem : FromPem}
    {content : Option String} (hcontent : content.bind json.reportFromStr = none)
    (file : Option (Option (List UInt8))) (caCertCl caCertPq : Option Certificate) :
    ∃ error ∈ [ReportError.readReport, ReportError.parseJson],
      parseReport schemes sha256 json fromPem content file caCertCl caCertPq = .error error := by
  cases content with
  | none => exact ⟨.readReport, by decide, rfl⟩
  | some text =>
    refine ⟨.parseJson, by decide, ?_⟩
    rw [Option.bind_some] at hcontent
    unfold parseReport
    rw [okOr_some, ok_bind, hcontent]
    rfl

/-- A report is looked at as it is read. -/
theorem parseReport_congr {sha256 : Sha256} {json : ReportJson} {fromPem : FromPem}
    {first second : String} (hread : json.reportFromStr first = json.reportFromStr second)
    (file : Option (Option (List UInt8))) (caCertCl caCertPq : Option Certificate) :
    parseReport schemes sha256 json fromPem (some first) file caCertCl caCertPq =
      parseReport schemes sha256 json fromPem (some second) file caCertCl caCertPq := by
  unfold parseReport
  rw [okOr_some, okOr_some, ok_bind, ok_bind, hread]

/-- What the two readers make of the file of a report up to some position. Before the last bracket
the verifier refuses it, whatever the file and the authorities, and the backend takes it for the
report of a valid file without findings. From the last bracket on the verifier accepts it with the
file, and the backend reads the verdict of the station. Assumes: the metadata has the digest of the
file, and the station is set up with issued certificates. -/
theorem readers_of_reportFile {sha256 : Sha256} {fromPem : FromPem} {f : FileMetadata}
    {date : String} {file : List UInt8} {keys : HybridKeyPair schemes} {pemCl pemPq : String}
    {caCertCl caCertPq : Certificate} {report : Report}
    (hdigest : f.digest = sha256.hexDigest file)
    (hcertified : CertifiedKeys schemes fromPem keys pemCl pemPq caCertCl caCertPq)
    (hsigned : bindAndSign sha256 serdeReportJson f (generateReportMetadata date f) (some keys)
      (pemCl ++ "|" ++ pemPq) = some report)
    {front : List UInt8} (hbegin : front <+: reportBytes serdeReportJson report) :
    (front.length < (Wire.Bincode.utf8 (serdeReportJson.reportToString report)).length ∧
      (∀ other caCl caPq, ∃ error ∈ [ReportError.readReport, ReportError.parseJson],
        parseReport schemes sha256 serdeReportJson fromPem (Wire.Bincode.fromUtf8 front) other caCl
          caPq = .error error) ∧
      parseKrp serdeParser (some front) = unreadKrp) ∨
    ((Wire.Bincode.utf8 (serdeReportJson.reportToString report)).length ≤ front.length ∧
      parseReport schemes sha256 serdeReportJson fromPem (Wire.Bincode.fromUtf8 front)
        (some (some file)) (some caCertCl) (some caCertPq) = .ok report ∧
      (parseKrp serdeParser (some front)).isValid = f.isValid) := by
  have hverifier := reportFromStr_of_bytes report hbegin
  have hbackend := parseKrp_of_bytes report hbegin
  rcases Nat.lt_or_ge front.length
      (Wire.Bincode.utf8 (serdeReportJson.reportToString report)).length with hshort | hlong
  · rw [if_neg (Nat.not_le.mpr hshort)] at hverifier hbackend
    exact .inl ⟨hshort, exists_error_of_unread hverifier, hbackend⟩
  · rw [if_pos hlong] at hverifier hbackend
    refine .inr ⟨hlong, ?_, ?_⟩
    · obtain ⟨text, htext, hread⟩ := Option.bind_eq_some_iff.mp hverifier
      rw [htext,
        parseReport_congr (hread.trans (serdeReportJson.reportFromStr_toString report).symm)]
      exact parseReport_of_bindAndSign hdigest hcertified hsigned
    · rw [hbackend, isValid_readKrp]
      show report.metadata.isValid = f.isValid
      rw [metadata_of_bindAndSign hsigned]
      rfl

/-- The report of a clean file, as it is read while it is written and afterwards. -/
theorem readers_of_reportFile_note :
    ∃ report, bindAndSign paddingSha256 serdeReportJson stationFile
        (generateReportMetadata "12-3-2025_10-0-1-0" stationFile) (some stationKeys)
        ("station-cl.pem" ++ "|" ++ "station-pq.pem") = some report ∧
      ∀ front, front <+: reportBytes serdeReportJson report →
        (front.length < (Wire.Bincode.utf8 (serdeReportJson.reportToString report)).length ∧
          (∀ other caCl caPq, ∃ error ∈ [ReportError.readReport, ReportError.parseJson],
            parseReport transparentSchemes paddingSha256 serdeReportJson stationPem
              (Wire.Bincode.fromUtf8 front) other caCl caPq = .error error) ∧
          parseKrp serdeParser (some front) = unreadKrp) ∨
        ((Wire.Bincode.utf8 (serdeReportJson.reportToString report)).length ≤ front.length ∧
          parseReport transparentSchemes paddingSha256 serdeReportJson stationPem
            (Wire.Bincode.fromUtf8 front) (some (some [0x6E, 0x6F, 0x74, 0x65]))
            (some stationCaCl) (some stationCaPq) = .ok report ∧
          (parseKrp serdeParser (some front)).isValid = stationFile.isValid) :=
  ⟨_, rfl, fun _ hbegin ↦ readers_of_reportFile rfl stationKeys_certified rfl hbegin⟩

end Keysas.Backend
