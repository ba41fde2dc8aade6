import Keysas.Reports.FileReport
import Keysas.Runs.TracedProgram
import Keysas.Rust.Text
import Keysas.Transit.Messages

/-!
# The output daemon

`parseMessages` decodes the metadata of a received file, or ends the process. `outputFile` is the
body of the loop of `output_files`: it checks the digest once more, makes the report, writes it as
the configuration says, and copies the file to the output directory when every flag of the metadata
allows it. Its trace is what reaches the log and the output directory.

`released` is that decision. `establishes_outputFile` lists what an output file that was created or
written says about the metadata and about the content that was read.
-/

set_option autoImplicit false
set_option relaxedAutoImplicit false

namespace Keysas.Out

open Crypto Keys Reports RustStd Runs Runs.Program Wire.PrefixCodec
open Transit (AncillaryData receivedFds)

/-! ### Configuration -/

/-- `KrpMode`: when reports are written. -/
inductive KrpMode where
  | always
  | never
  | passOnly
  | failOnly
  deriving DecidableEq

/-- `KrpMode::from_str`. -/
def KrpMode.fromStr (tables : UnicodeTables) (text : String) : KrpMode :=
  match toLowercase tables text with
  | "never" => .never
  | "pass_only" => .passOnly
  | "fail_only" => .failOnly
  | _ => .always

/-- `KrpMode::should_write`. -/
def KrpMode.shouldWrite (mode : KrpMode) (isValid : Bool) : Bool :=
  match mode with
  | .always => true
  | .never => false
  | .passOnly => isValid
  | .failOnly => !isValid

/-- The parts of `Configuration` that `output_files` uses. -/
structure Configuration where
  sasOut : String
  yaraClean : Bool
  krpMode : KrpMode

/-- `FileData` of the output daemon. -/
structure FileData where
  fd : ℕ
  md : FileMetadata
  deriving DecidableEq

/-! ### Received messages -/

/-- `parse_messages` of the output daemon: nothing when the process ends, which it does at a
descriptor whose metadata cannot be decoded. -/
def parseMessages (messages : List (Option AncillaryData)) (buffer : List UInt8) :
    Option (List FileData) :=
  (receivedFds messages).mapM fun fd ↦
    (FileMetadata.codec.decode buffer).map fun decoded ↦ ⟨fd, decoded.1⟩

/-! ### One file -/

/-- How a copy to the output file ends. -/
inductive CopyResult where
  /-- All bytes are copied. -/
  | complete
  /-- An error after a number of bytes. -/
  | failed (count : ℕ)
  /-- No error, but the bytes after a number are lost when the writer flushes them on drop. -/
  | unflushed (count : ℕ)
  deriving DecidableEq

/-- Whether the copy returns no error. -/
def CopyResult.isOk : CopyResult → Bool
  | .failed _ => false
  | _ => true

/-- What the calls on one file return. -/
structure OutputCalls where
  /-- Whether the cursor is positioned at the beginning before the digest. -/
  lseek : Bool
  /-- What is read from the file, when the reads succeed. -/
  content : Option (List UInt8)
  /-- The date. -/
  now : String
  /-- Whether the file of the report is opened. -/
  openReport : Bool
  /-- Whether the report is written. -/
  writeReport : Bool
  /-- Whether the output file is opened. -/
  openOutput : Bool
  /-- Whether the cursor is positioned at the beginning before the copy. -/
  lseekCopy : Bool
  copy : CopyResult

/-- What a file leaves in the log and in the output directory. Opening a file truncates it. -/
inductive Effect where
  | logReport (report : Report)
  | createReport (path : String)
  | writeReport (path text : String)
  | createOutput (path : String)
  | writeOutput (path : String) (bytes : List UInt8)
  deriving DecidableEq

/-- The errors of `output_files`. -/
inductive OutputError where
  | lseek
  | digest
  | sign
  | openReport
  | writeReport
  | openOutput
  | copy
  deriving DecidableEq

/-- The bytes that a copy writes. -/
def copiedBytes (content : List UInt8) : CopyResult → List UInt8
  | .complete => content
  | .failed count => content.take count
  | .unflushed count => content.take count

/-- Whether the file is written to the output directory. -/
def released (conf : Configuration) (md : FileMetadata) : Bool :=
  md.isDigestOk && !md.isToobig && md.isTypeAllowed && md.avPass && !md.isCorrupted &&
    (md.yaraPass || !conf.yaraClean) && md.specializedPass && md.vtPass

variable {schemes : Schemes} (sha256 : Sha256) (json : ReportJson) (conf : Configuration)
  (signKeys : Option (HybridKeyPair schemes)) (signCert : String) (calls : OutputCalls)

/-- The metadata after the second check of the digest. -/
def recheckDigest (content : List UInt8) (md : FileMetadata) : FileMetadata :=
  if sha256.hexDigest content ≠ md.digest then { md with isDigestOk := false } else md

/-- The report, when it is to be written. -/
def reportStep (report : Report) : Program Effect FileMetadata OutputError Unit :=
  if conf.krpMode.shouldWrite report.metadata.isValid then do
    let md ← get
    let path := appendExt "krp" (push conf.sasOut ("." ++ md.filename))
    require calls.openReport .openReport
    emit (.createReport path)
    require calls.writeReport .writeReport
    emit (.writeReport path (json.reportToString report ++ "\n"))
  else pure ()

/-- The copy of the file, when it is released. -/
def copyStep (content : List UInt8) : Program Effect FileMetadata OutputError Unit := do
  let md ← get
  if released conf md then do
    let path := push conf.sasOut md.filename
    require calls.openOutput .openOutput
    emit (.createOutput path)
    require calls.lseekCopy .lseek
    emit (.writeOutput path (copiedBytes content calls.copy))
    require calls.copy.isOk .copy
  else pure ()

/-- The body of the loop of `output_files`. -/
def outputFile : Program Effect FileMetadata OutputError Unit := do
  require calls.lseek .lseek
  let content ← ofExcept (okOr calls.content .digest)
  modify (recheckDigest sha256 content)
  let md ← get
  let reportMeta := generateReportMetadata calls.now md
  let report ← ofExcept (okOr (bindAndSign sha256 json md reportMeta signKeys signCert) .sign)
  emit (.logReport report)
  reportStep json conf calls report
  copyStep conf calls content

/-- `output_files`: the effects of the files one after the other, until an error. -/
def outputFiles (callsOf : ℕ → OutputCalls) :
    List FileData → List Effect × Except OutputError Unit
  | [] => ([], .ok ())
  | f :: files =>
    match (outputFile sha256 json conf signKeys signCert (callsOf f.fd)).run f.md with
    | ⟨trace, _, .error error⟩ => (trace, .error error)
    | ⟨trace, _, .ok ()⟩ =>
      let others := outputFiles callsOf files
      (trace ++ others.1, others.2)

/-! ### What reaches the output directory -/

variable {sha256 json conf signKeys signCert calls}

variable (json conf) in
/-- What the report of a file leaves in the output directory. -/
def reportEffects (report : Report) (md : FileMetadata) : List Effect :=
  if conf.krpMode.shouldWrite report.metadata.isValid then
    [.createReport (appendExt "krp" (push conf.sasOut ("." ++ md.filename))),
      .writeReport (appendExt "krp" (push conf.sasOut ("." ++ md.filename)))
        (json.reportToString report ++ "\n")]
  else []

variable (conf calls) in
/-- What the copy of a file leaves in the output directory. -/
def copyEffects (content : List UInt8) (md : FileMetadata) : List Effect :=
  if released conf md then
    [.createOutput (push conf.sasOut md.filename),
      .writeOutput (push conf.sasOut md.filename) (copiedBytes content calls.copy)]
  else []

theorem establishes_reportStep (report : Report) (md : FileMetadata) :
    Establishes (reportStep json conf calls report) md fun trace reached _ ↦
      reached = md ∧ trace = reportEffects json conf report md := by
  unfold reportStep reportEffects
  by_cases hwritten : conf.krpMode.shouldWrite report.metadata.isValid = true
  · simp [hwritten]
  · simp [hwritten]

theorem establishes_copyStep (content : List UInt8) (md : FileMetadata) :
    Establishes (copyStep conf calls content) md fun trace _ _ ↦
      trace = copyEffects conf calls content md := by
  unfold copyStep copyEffects
  by_cases hreleased : released conf md = true
  · simp [hreleased]
  · simp [hreleased]

/-- The report of a file creates no output file. -/
theorem createOutput_not_mem_reportEffects (report : Report) (md : FileMetadata) (path : String) :
    .createOutput path ∉ reportEffects json conf report md := by
  unfold reportEffects
  split_ifs <;> simp

variable (sha256 conf calls) in
/-- What an effect says about the metadata of its file and the content that was read. -/
def Accounted (md : FileMetadata) (effect : Effect) : Prop :=
  ∃ content, calls.content = some content ∧
    match effect with
    | .logReport report =>
      report.metadata = generateReportMetadata calls.now (recheckDigest sha256 content md)
    | .createReport path => path = appendExt "krp" (push conf.sasOut ("." ++ md.filename))
    | .writeReport path _ => path = appendExt "krp" (push conf.sasOut ("." ++ md.filename))
    | .createOutput path =>
      path = push conf.sasOut md.filename ∧
        released conf (recheckDigest sha256 content md) = true
    | .writeOutput path bytes =>
      path = push conf.sasOut md.filename ∧ bytes = copiedBytes content calls.copy ∧
        released conf (recheckDigest sha256 content md) = true

@[simp] theorem filename_recheckDigest (content : List UInt8) (md : FileMetadata) :
    (recheckDigest sha256 content md).filename = md.filename := by
  unfold recheckDigest
  split_ifs <;> rfl

/-- The second check changes nothing when it agrees with the first. -/
theorem recheckDigest_eq_self {content : List UInt8} {md : FileMetadata}
    (hagree : md.isDigestOk = true → sha256.hexDigest content = md.digest) :
    recheckDigest sha256 content md = md := by
  unfold recheckDigest
  split_ifs with hchanged
  · have hfailed : md.isDigestOk = false := by
      rw [Bool.eq_false_iff]
      exact fun hdigest ↦ hchanged (hagree hdigest)
    rw [← hfailed]
  · rfl

/-- Everything that a file leaves is accounted for, also when an error ends its processing. -/
theorem emits_outputFile (md : FileMetadata) :
    Emits (outputFile sha256 json conf signKeys signCert calls) md
      (Accounted sha256 conf calls md) := by
  simp only [outputFile, emits_require_bind_iff, emits_ofExcept_bind_iff, emits_modify_bind_iff,
    emits_get_bind_iff, emits_emit_bind_iff, okOr_eq_ok_iff]
  intro _ content hcontent report hreport
  refine ⟨⟨content, hcontent, metadata_of_bindAndSign hreport⟩, emits_bind_iff.mpr ⟨?_, ?_⟩⟩
  · unfold reportStep
    split_ifs
    · simp [Accounted, hcontent]
    · simp
  · refine (establishes_reportStep report _).mono ?_
    rintro _ _ _ ⟨rfl, -⟩
    unfold copyStep
    rw [emits_get_bind_iff]
    split_ifs with hreleased
    · simp [Accounted, hcontent, hreleased]
    · simp

/-- A file that is processed without an error leaves its report in the log, then the report in the
output directory and then its copy there. -/
theorem establishes_outputFile_trace (md : FileMetadata) :
    Establishes (outputFile sha256 json conf signKeys signCert calls) md fun trace _ _ ↦
      ∃ content report, calls.content = some content ∧
        report.metadata = generateReportMetadata calls.now (recheckDigest sha256 content md) ∧
        trace = .logReport report ::
          (reportEffects json conf report (recheckDigest sha256 content md) ++
            copyEffects conf calls content (recheckDigest sha256 content md)) := by
  simp only [outputFile, establishes_require_bind_iff, establishes_ofExcept_bind_iff,
    establishes_modify_bind_iff, establishes_get_bind_iff, establishes_emit_bind_iff,
    okOr_eq_ok_iff]
  intro _ content hcontent report hreport
  refine establishes_bind ((establishes_reportStep report _).mono ?_)
  rintro _ _ _ ⟨rfl, rfl⟩
  refine (establishes_copyStep content _).mono ?_
  rintro _ _ _ rfl
  exact ⟨content, report, hcontent, metadata_of_bindAndSign hreport, rfl⟩

/-- A file that is processed without an error leaves its report in the log, and an output file is
created exactly when it is released. -/
theorem establishes_outputFile (md : FileMetadata) :
    Establishes (outputFile sha256 json conf signKeys signCert calls) md fun trace _ _ ↦
      ∃ content report, calls.content = some content ∧ .logReport report ∈ trace ∧
        ((∃ path, .createOutput path ∈ trace) ↔
          released conf (recheckDigest sha256 content md) = true) ∧
        (released conf (recheckDigest sha256 content md) = true →
          .writeOutput (push conf.sasOut md.filename) (copiedBytes content calls.copy) ∈
            trace) := by
  refine (establishes_outputFile_trace md).mono ?_
  rintro _ _ _ ⟨content, report, hcontent, -, rfl⟩
  refine ⟨content, report, hcontent, List.mem_cons_self, ?_, ?_⟩
  · unfold copyEffects
    by_cases hreleased : released conf (recheckDigest sha256 content md) = true
    · simp [hreleased, createOutput_not_mem_reportEffects]
    · simp [hreleased, createOutput_not_mem_reportEffects]
  · intro hreleased
    simp [copyEffects, hreleased]

/-- Every call but the reads succeeds, and the file is copied to the end. -/
def OutputCalls.Succeed (calls : OutputCalls) : Prop :=
  calls.lseek = true ∧ calls.openReport = true ∧ calls.writeReport = true ∧
    calls.openOutput = true ∧ calls.lseekCopy = true ∧ calls.copy = .complete

instance (calls : OutputCalls) : Decidable calls.Succeed :=
  inferInstanceAs (Decidable (_ ∧ _))

variable (sha256 json signKeys signCert calls) in
/-- The file can be read and its report signed. -/
def reportable (md : FileMetadata) : Bool :=
  calls.content.any fun content ↦
    (bindAndSign sha256 json (recheckDigest sha256 content md)
      (generateReportMetadata calls.now (recheckDigest sha256 content md)) signKeys
      signCert).isSome

/-- A file is processed without an error when every call succeeds and the report can be signed. -/
theorem ends_outputFile {md : FileMetadata} (hsucceed : calls.Succeed)
    (hreportable : reportable sha256 json signKeys signCert calls md = true) :
    Ends (outputFile sha256 json conf signKeys signCert calls) md := by
  obtain ⟨hseek, hopenReport, hwriteReport, hopenOutput, hseekCopy, hcopy⟩ := hsucceed
  obtain ⟨content, hcontent, hsigned⟩ := Option.any_eq_true _ _ |>.mp hreportable
  obtain ⟨report, hreport⟩ := Option.isSome_iff_exists.mp hsigned
  have hreportStep : ∀ reached, Ends (reportStep json conf calls report) reached := by
    intro reached
    unfold reportStep
    split_ifs <;> simp [hopenReport, hwriteReport]
  have hcopyStep : ∀ reached, Ends (copyStep conf calls content) reached := by
    intro reached
    unfold copyStep
    rw [ends_get_bind_iff]
    split_ifs <;> simp [hopenOutput, hseekCopy, hcopy, CopyResult.isOk]
  simp only [outputFile, ends_require_bind_iff, ends_ofExcept_bind_iff, ends_modify_bind_iff,
    ends_get_bind_iff, ends_emit_bind_iff, okOr_eq_ok_iff]
  refine ⟨hseek, content, hcontent, report, hreport, ends_bind (hreportStep _) ?_⟩
  exact (establishes_reportStep report _).mono fun _ _ _ _ ↦ hcopyStep _

end Keysas.Out
