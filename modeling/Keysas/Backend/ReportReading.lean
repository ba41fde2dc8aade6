import Keysas.Backend.LastVerdict

/-!
# Reports as the backend reads them

The output daemon writes into a report the verdict, and for each check a flag or the findings. For
the antivirus and the Yara rules there are only the findings: a report has no flag for them, and
`parseKrp` takes an empty list or an empty text for a pass.

`ReadsBack` says that the reading of a report agrees with the metadata it was made from: the verdict
is that of the report, the reason names a check that failed, and every check that is reported on has
its own result. `readsBack_iff_findings` says what this comes to for any metadata, and
`readsBack_iff` which scans of transit lead to it.
-/

set_option autoImplicit false
set_option relaxedAutoImplicit false

namespace Keysas.Backend

open Crypto Keys Reports Out Runs.Program Transit

/-! ### Checks and reasons -/

/-- The keys of the checks in a reading, each with the result of the check. -/
def checkResults (m : Reports.FileMetadata) : List (String × Bool) :=
  [("av", m.avPass), ("yara", m.yaraPass), ("type", m.isTypeAllowed), ("size", !m.isToobig),
    ("hash", m.isDigestOk && !m.isCorrupted), ("specialized", m.specializedPass), ("vt", m.vtPass)]

/-- The reasons of a reading, each with the result of the check that it names. -/
def reasonResults (m : Reports.FileMetadata) : List (String × Bool) :=
  [("corrupted", !m.isCorrupted), ("toobig", !m.isToobig), ("digest", m.isDigestOk),
    ("forbidden", m.isTypeAllowed), ("antivirus", m.avPass), ("yara", m.yaraPass),
    ("specialized", m.specializedPass), ("virustotal", m.vtPass)]

/-- Each check has one result. -/
theorem mem_checkResults_iff {m : Reports.FileMetadata} {key : String} {passed : Bool}
    (hresult : (key, passed) ∈ checkResults m) :
    passed = false ↔ (key, false) ∈ checkResults m := by
  cases passed with
  | false => exact iff_of_true rfl hresult
  | true =>
    refine iff_of_false Bool.noConfusion fun hfailed ↦ ?_
    have hnodup : ((checkResults m).map Prod.fst).Nodup := by
      show ["av", "yara", "type", "size", "hash", "specialized", "vt"].Nodup
      decide
    have hequal := List.inj_on_of_nodup_map hnodup hresult hfailed rfl
    exact Bool.noConfusion (congrArg Prod.snd hequal)

theorem eq_of_eq_false_iff {first second : Bool} (hiff : first = false ↔ second = false) :
    first = second := by
  cases second with
  | false => exact hiff.mpr rfl
  | true => simpa using hiff

theorem mem_av_checkResults_iff (m : Reports.FileMetadata) :
    ("av", false) ∈ checkResults m ↔ m.avPass = false := by
  rw [← mem_checkResults_iff (by simp [checkResults] : ("av", m.avPass) ∈ checkResults m)]

theorem mem_yara_checkResults_iff (m : Reports.FileMetadata) :
    ("yara", false) ∈ checkResults m ↔ m.yaraPass = false := by
  rw [← mem_checkResults_iff (by simp [checkResults] : ("yara", m.yaraPass) ∈ checkResults m)]

/-- The reading of a report agrees with the metadata that the report was made from. -/
structure ReadsBack (m : Reports.FileMetadata) (report : Report) (reading : KrpReading) :
    Prop where
  verdict : reading.isValid = report.metadata.isValid
  reason : reading.isValid = false →
    ∃ reason, reading.reason = some reason ∧ (reason, false) ∈ reasonResults m
  checks : ∃ checks, reading.checks = some checks ∧
    ∀ key passed, (key, passed) ∈ checks → (passed = false ↔ (key, false) ∈ checkResults m)

/-! ### What the reader finds in a report -/

/-- The map of the checks of a report that was written. -/
theorem readChecks_fileReportToJson (report : FileReport) :
    readChecks (fileReportToJson report) =
      [("av", report.av.isEmpty), ("yara", decide (report.yara = "")),
        ("type", report.typeAllowed), ("size", !report.toobig),
        ("hash", report.isDigestOk && !report.corrupted)] ++
      (if report.specializedAnalyzer ≠ "" ∨ report.specializedPass = false then
        [("specialized", report.specializedPass)] else []) ++
      (if report.vtSummary ≠ "" then [("vt", report.vtPass)] else []) := by
  have hav : (report.av.map Json.string).isEmpty = report.av.isEmpty := List.isEmpty_map
  simp [readChecks, specializedPerformed, fileReportToJson, Json.get, Json.asBool, Json.asStr,
    Json.asArray, hav]

/-- The reason that is read out of a report that was written: the first check that failed, by what
the report says of it. -/
theorem fst_failureReason_fileReportToJson (metadata : Json) (report : FileReport) :
    (failureReason metadata (fileReportToJson report)).1 =
      if report.corrupted then "corrupted"
      else if report.toobig then "toobig"
      else if report.isDigestOk = false then "digest"
      else if report.typeAllowed = false then "forbidden"
      else if report.av ≠ [] then "antivirus"
      else if report.yara ≠ "" then "yara"
      else if report.specializedPass = false then "specialized"
      else if report.vtPass = false then "virustotal"
      else "digest" := by
  have hcorrupted : (fileReportToJson report).get "corrupted" = .bool report.corrupted := rfl
  have htoobig : (fileReportToJson report).get "toobig" = .bool report.toobig := rfl
  have hdigest : (fileReportToJson report).get "is_digest_ok" = .bool report.isDigestOk := rfl
  have htype : (fileReportToJson report).get "type_allowed" = .bool report.typeAllowed := rfl
  have hav : (fileReportToJson report).get "av" = .array (report.av.map .string) := rfl
  have hyara : (fileReportToJson report).get "yara" = .string report.yara := rfl
  have hspecialized :
      (fileReportToJson report).get "specialized_pass" = .bool report.specializedPass := rfl
  have hvt : (fileReportToJson report).get "vt_pass" = .bool report.vtPass := rfl
  simp only [failureReason, hcorrupted, htoobig, hdigest, htype, hav, hyara, hspecialized, hvt,
    Json.asBool, Json.asStr, Json.asArray, Option.getD_some, Option.some.injEq, Option.map_some,
    List.isEmpty_map, apply_ite Prod.fst]
  simp only [Bool.not_eq_true', List.isEmpty_eq_false_iff]

variable {json : ReportJson} (parser : JsonParser json)

/-- A report that was written is read as its JSON value. -/
theorem parseKrp_reportBytes (report : Report) :
    parseKrp parser (some (reportBytes json report)) = readKrp (reportToJson report) := by
  rw [parseKrp, Option.bind_some, reportBytes, Wire.Bincode.fromUtf8_utf8, Option.bind_some,
    parser.fromStr_report]

theorem checks_readKrp (report : Report) :
    (readKrp (reportToJson report)).checks =
      some (readChecks (fileReportToJson report.metadata.report)) := by
  simp only [readKrp]
  split_ifs <;> rfl

theorem reason_readKrp {report : Report}
    (hvalid : (readKrp (reportToJson report)).isValid = false) :
    ∃ metadata, (readKrp (reportToJson report)).reason =
      some (failureReason metadata (fileReportToJson report.metadata.report)).1 := by
  rw [isValid_readKrp] at hvalid
  refine ⟨(reportToJson report).get "metadata", ?_⟩
  simp only [readKrp, hvalid]
  rfl

/-! ### When the reading agrees -/

/-- Where the findings say which checks failed, the reason of an invalid file names one of them. -/
theorem mem_reasonResults_of_isValid_eq_false {m : Reports.FileMetadata}
    (hav : m.avPass = m.avReport.isEmpty) (hyara : m.yaraPass = decide (m.yaraReport = ""))
    (hinvalid : m.isValid = false) :
    (if m.isCorrupted then "corrupted"
      else if m.isToobig then "toobig"
      else if m.isDigestOk = false then "digest"
      else if m.isTypeAllowed = false then "forbidden"
      else if m.avReport ≠ [] then "antivirus"
      else if m.yaraReport ≠ "" then "yara"
      else if m.specializedPass = false then "specialized"
      else if m.vtPass = false then "virustotal"
      else "digest", false) ∈ reasonResults m := by
  split_ifs with hcorrupted htoobig hdigest htype hfound hmatched hspecialized hvt
  · simp [reasonResults, hcorrupted]
  · simp [reasonResults, htoobig]
  · simp [reasonResults, hdigest]
  · simp [reasonResults, htype]
  · simp [reasonResults, hav, hfound]
  · simp [reasonResults, hyara, hmatched]
  · simp [reasonResults, hspecialized]
  · simp [reasonResults, hvt]
  · simp only [Bool.not_eq_true, Bool.not_eq_false] at hcorrupted htoobig hdigest htype
    simp only [Bool.not_eq_false] at hspecialized hvt
    rw [ne_eq, not_not] at hfound hmatched
    simp [Reports.FileMetadata.isValid, hav, hyara, hfound, hmatched, hcorrupted, htoobig, hdigest,
      htype, hspecialized, hvt] at hinvalid

/-- The reading agrees with the metadata if and only if the antivirus and the Yara rules have
findings exactly where they failed. -/
theorem readsBack_iff_findings (m : Reports.FileMetadata) {report : Report} {date : String}
    (hreport : report.metadata = generateReportMetadata date m) :
    ReadsBack m report (readKrp (reportToJson report)) ↔
      m.avPass = m.avReport.isEmpty ∧ m.yaraPass = decide (m.yaraReport = "") := by
  have hchecks : (readKrp (reportToJson report)).checks = some
      ([("av", m.avReport.isEmpty), ("yara", decide (m.yaraReport = "")), ("type", m.isTypeAllowed),
        ("size", !m.isToobig), ("hash", m.isDigestOk && !m.isCorrupted)] ++
      (if m.specializedAnalyzer ≠ "" ∨ m.specializedPass = false then
        [("specialized", m.specializedPass)] else []) ++
      (if m.vtSummary ≠ "" then [("vt", m.vtPass)] else [])) := by
    rw [checks_readKrp, readChecks_fileReportToJson, hreport]
    rfl
  constructor
  · intro hreads
    obtain ⟨checks, hsome, hresults⟩ := hreads.checks
    obtain rfl := Option.some.inj (hchecks.symm.trans hsome)
    have hav := hresults "av" m.avReport.isEmpty (by simp)
    have hyara := hresults "yara" (decide (m.yaraReport = "")) (by simp)
    rw [mem_av_checkResults_iff] at hav
    rw [mem_yara_checkResults_iff] at hyara
    exact ⟨(eq_of_eq_false_iff hav).symm, (eq_of_eq_false_iff hyara).symm⟩
  · rintro ⟨hav, hyara⟩
    refine ⟨isValid_readKrp _, ?_, _, hchecks, ?_⟩
    · intro hvalid
      obtain ⟨metadata, hreason⟩ := reason_readKrp hvalid
      refine ⟨_, hreason, ?_⟩
      rw [isValid_readKrp] at hvalid
      have hinvalid : m.isValid = false := by
        rw [← hvalid]
        show _ = report.metadata.isValid
        rw [hreport]
        rfl
      rw [fst_failureReason_fileReportToJson, hreport]
      exact mem_reasonResults_of_isValid_eq_false hav hyara hinvalid
    · intro key passed hmem
      refine mem_checkResults_iff ?_
      rw [← hav, ← hyara, List.append_assoc] at hmem
      rcases List.mem_append.mp hmem with hfirst | hlater
      · exact List.mem_append_left [("specialized", m.specializedPass), ("vt", m.vtPass)] hfirst
      · refine List.mem_append_right [("av", m.avPass), ("yara", m.yaraPass),
          ("type", m.isTypeAllowed), ("size", !m.isToobig),
          ("hash", m.isDigestOk && !m.isCorrupted)] ?_
        rcases List.mem_append.mp hlater with hspecialized | hvt
        · split_ifs at hspecialized
          · exact List.mem_append_left [("vt", m.vtPass)] hspecialized
          · cases hspecialized
        · split_ifs at hvt
          · exact List.mem_append_right [("specialized", m.specializedPass)] hvt
          · cases hvt

/-! ### Which scans keep their findings -/

/-- The antivirus and the Yara rules gave an answer, and named something exactly where they found
something. -/
structure FindingsNamed (conf : Transit.Configuration) (scans : FileScans) : Prop where
  av : ∃ result, scans.scan = some result ∧
    (result.isInfected = true ↔ result.detectedInfections ≠ [])
  yara : conf.yaraRules = true ∧ ∃ identifiers, scans.scanFd = some identifiers ∧
    (String.join identifiers = "" → identifiers = [])

section Scans

variable (tools : TypeTools) (conf : Transit.Configuration) (scans : FileScans)
  (input : InputMetadata)

theorem avPass_checked_iff :
    (checked tools conf scans (.ofInput input)).avPass =
        (checked tools conf scans (.ofInput input)).avReport.isEmpty ↔
      ∃ result, scans.scan = some result ∧
        (result.isInfected = true ↔ result.detectedInfections ≠ []) := by
  rw [checked_ofInput]
  cases scans.scan with
  | none => simp
  | some result =>
    rcases result with ⟨isInfected, detectedInfections⟩
    cases isInfected <;> cases detectedInfections <;> simp

theorem yaraPass_checked_iff :
    (checked tools conf scans (.ofInput input)).yaraPass =
        decide ((checked tools conf scans (.ofInput input)).yaraReport = "") ↔
      conf.yaraRules = true ∧ ∃ identifiers, scans.scanFd = some identifiers ∧
        (String.join identifiers = "" → identifiers = []) := by
  rw [checked_ofInput]
  cases conf.yaraRules with
  | false => simp
  | true =>
    cases scans.scanFd with
    | none => simp [String.join]
    | some identifiers =>
      by_cases hnone : identifiers = []
      · simp [hnone, String.join]
      · simp [hnone]

/-- The report about a file that was checked to the end is read back as it was meant if and only if
the antivirus and the Yara rules named what they found. Assumes: the checks of the file ended, and
its report was made. -/
theorem readsBack_iff {schemes : Schemes} {sha256 : Sha256} {trace : List ProgressCall}
    {md : Transit.FileMetadata} {date signCert : String}
    {signKeys : Option (HybridKeyPair schemes)} {report : Report}
    (hchecked : (checkFile tools conf scans).run (.ofInput input) = ⟨trace, md, .ok ()⟩)
    (hsigned : bindAndSign sha256 json md.toReceived
      (generateReportMetadata date md.toReceived) signKeys signCert = some report) :
    ReadsBack md.toReceived report (parseKrp parser (some (reportBytes json report))) ↔
      FindingsNamed conf scans := by
  have hmd : md = checked tools conf scans (.ofInput input) := by
    have hestablishes := establishes_checkFile tools conf scans (.ofInput input) ()
    rw [hchecked] at hestablishes
    exact (hestablishes rfl).1
  rw [parseKrp_reportBytes, readsBack_iff_findings _ (metadata_of_bindAndSign hsigned), hmd]
  show (checked tools conf scans (.ofInput input)).avPass =
      (checked tools conf scans (.ofInput input)).avReport.isEmpty ∧
    (checked tools conf scans (.ofInput input)).yaraPass =
      decide ((checked tools conf scans (.ofInput input)).yaraReport = "") ↔ _
  rw [avPass_checked_iff, yaraPass_checked_iff]
  exact ⟨fun hnamed ↦ ⟨hnamed.1, hnamed.2⟩, fun hnamed ↦ ⟨hnamed.av, hnamed.yara⟩⟩

end Scans

/-! ### A note that the antivirus does not answer about -/

/-- The metadata of the note after the checks of a configuration, with some scans. -/
def checkedNote (scans : FileScans) : Reports.FileMetadata :=
  (checked zipTypeTools defaultConf scans (.ofInput (Pipeline.noteInput false))).toReceived

/-- The report about the note, from a station without keys. -/
def noteReport (scans : FileScans) : Option Report :=
  bindAndSign paddingSha256 serdeReportJson (checkedNote scans)
    (generateReportMetadata "12-3-2025_10-0-1-0" (checkedNote scans))
    (none : Option (HybridKeyPair transparentSchemes)) ""

/-- The scans of the note while the antivirus cannot be reached. -/
def unansweredScans : FileScans :=
  { Pipeline.noteScans with scan := none }

theorem run_checkFile_note :
    (checkFile zipTypeTools defaultConf Pipeline.noteScans).run
        (.ofInput (Pipeline.noteInput false)) =
      ⟨((checkFile zipTypeTools defaultConf Pipeline.noteScans).run
          (.ofInput (Pipeline.noteInput false))).trace,
        checked zipTypeTools defaultConf Pipeline.noteScans (.ofInput (Pipeline.noteInput false)),
        .ok ()⟩ := by
  obtain ⟨⟨⟩, hvalue⟩ := Pipeline.ends_checkFile_note false
  have hreached := (establishes_checkFile zipTypeTools defaultConf Pipeline.noteScans _ () hvalue).1
  rw [← hreached, ← hvalue]

/-- The report about the clean note is read back. -/
theorem readsBack_iff_note :
    ∃ report, noteReport Pipeline.noteScans = some report ∧
      (ReadsBack (checkedNote Pipeline.noteScans) report
          (parseKrp serdeParser (some (reportBytes serdeReportJson report))) ↔
        FindingsNamed defaultConf Pipeline.noteScans) ∧
      FindingsNamed defaultConf Pipeline.noteScans := by
  refine ⟨_, rfl, ?_, ⟨⟨false, []⟩, rfl, by decide⟩, rfl, [], rfl, fun _ ↦ rfl⟩
  have hsigned : noteReport Pipeline.noteScans = some _ := rfl
  exact readsBack_iff serdeParser zipTypeTools defaultConf Pipeline.noteScans
    (Pipeline.noteInput false) run_checkFile_note hsigned

/-- The note that the antivirus gave no answer about is invalid, for a digest that was right, and no
check is marked as failed. -/
theorem not_readsBack_unanswered :
    ∃ report, noteReport unansweredScans = some report ∧
      (parseKrp serdeParser (some (reportBytes serdeReportJson report))).isValid = false ∧
      (parseKrp serdeParser (some (reportBytes serdeReportJson report))).reason = some "digest" ∧
      (checkedNote unansweredScans).isDigestOk = true ∧
      ¬ ReadsBack (checkedNote unansweredScans) report
        (parseKrp serdeParser (some (reportBytes serdeReportJson report))) := by
  refine ⟨_, rfl, ?_⟩
  rw [parseKrp_reportBytes]
  refine ⟨rfl, by decide, rfl, ?_⟩
  rw [readsBack_iff_findings (checkedNote unansweredScans) rfl]
  exact fun hfindings ↦ Bool.noConfusion hfindings.1

end Keysas.Backend
