import Keysas.Runs.TracedProgram
import Keysas.Rust.Text
import Keysas.Transit.Messages
import Keysas.Transit.SideDaemons

/-!
# The checks of transit

`checkFile` is the body of the loop of `check_files`: for one file, seven checks that each mark the
metadata, and the verdict that is published. Everything that the checks get from their surroundings
is in `FileScans`: the results of the system calls, of the antivirus and of the Yara rules, and the
side daemons. A failing `dup2` or `lseek` ends the process.

`checked` is the metadata after all checks, and `run_checkFile` says that a file that is checked to
the end gets it and that its verdict is published. `Cleared` states what the checks are there to
establish, in terms of the scans alone, and `passed_checked_iff` that the published verdict is this.
-/

set_option autoImplicit false
set_option relaxedAutoImplicit false

namespace Keysas.Transit

open RustStd Runs Runs.Program

/-! ### Progress -/

/-- `AnalysisStep`. -/
inductive AnalysisStep where
  | pending
  | hashing
  | checkingSize
  | checkingFileType
  | antivirusScan
  | yaraScan
  | specializedAnalysis
  | virusTotalScan
  | verifyingSignature
  | complete
  | failed (reason : String)
  deriving DecidableEq

/-- The calls on the progress tracker. -/
inductive ProgressCall where
  | startFile (filename : String)
  | updateStep (step : AnalysisStep)
  | completeFile (success : Bool)
  deriving DecidableEq

/-! ### Configuration and surroundings -/

/-- What `infer` finds in the first bytes of a file: the extension and the MIME type. -/
structure FileType where
  extension : String
  mime : String
  deriving DecidableEq

/-- The libraries that look at texts and at the first bytes of a file. -/
structure TypeTools where
  tables : UnicodeTables
  /-- `infer::get`. -/
  get : List UInt8 → Option FileType

/-- The parts of `Configuration` that the checks use. -/
structure Configuration where
  maxSize : UInt64
  magicList : List String
  /-- Whether the Yara rules are there. -/
  yaraRules : Bool
  typeOff : Bool
  /-- Whether the socket of the analyzer is set. -/
  socketAnalyze : Bool
  /-- Whether the socket of VirusTotal is set. -/
  socketVt : Bool

/-- The answer of the antivirus. -/
structure ScanResult where
  isInfected : Bool
  detectedInfections : List String
  deriving DecidableEq

/-- What the calls on one file return, nothing where one fails. -/
structure FileScans where
  /-- Whether the descriptor is duplicated. -/
  dup2 : Bool
  /-- Whether a repositioning succeeds, numbered in the order of the source. -/
  lseek : ℕ → Bool
  /-- `sha256_digest`. -/
  digest : Option String
  /-- The length in the metadata of the file. -/
  len : Option UInt64
  /-- The antivirus. -/
  scan : Option ScanResult
  /-- The identifiers of the Yara rules that match. -/
  scanFd : Option (List String)
  /-- At most the first mebibyte of the file. -/
  buffer : Option (List UInt8)
  /-- The analyzer. -/
  analyze : Peer
  /-- VirusTotal. -/
  vt : Peer

/-- The process ends. -/
inductive Exit where
  | exit
  deriving DecidableEq

/-! ### File types -/

/-- `is_likely_text`. -/
def isLikelyText (buf : List UInt8) : Bool :=
  if buf = [] then true
  else
    let sample := buf.take 8192
    !decide (0 ∈ sample) && (Wire.Bincode.fromUtf8 sample).isSome

/-- `ZIP_BASED_EXTENSIONS`. -/
def zipBasedExtensions : List String :=
  ["jar", "war", "ear", "docx", "xlsx", "pptx", "odt", "ods", "odp", "epub", "apk"]

/-- `check_is_extension_allowed`. -/
def checkIsExtensionAllowed (tools : TypeTools) (conf : Configuration) (buf : List UInt8)
    (filename : String) : Bool :=
  let declaredExt := toLowercase tools.tables ((extension filename).getD "")
  match tools.get buf with
  | some info =>
    decide (info.extension ∈ conf.magicList) ||
      (info.extension = "zip" && decide (declaredExt ∈ zipBasedExtensions) &&
        decide (declaredExt ∈ conf.magicList))
  | none =>
    (declaredExt = "kdbx" && decide ("kdbx" ∈ conf.magicList) &&
      (List.isPrefixOf [0x03, 0xD9, 0xA2, 0x9A] buf ||
        List.isPrefixOf [0x03, 0xD9, 0xA2, 0x9B] buf)) ||
      isLikelyText buf

/-- `get_extension`. -/
def getExtension (tools : TypeTools) (buf : List UInt8) : String :=
  ((tools.get buf).map FileType.mime).getD ""

/-! ### Single checks -/

variable (tools : TypeTools) (conf : Configuration) (scans : FileScans)

/-- The check of the digest. -/
def checkDigest (md : FileMetadata) : FileMetadata :=
  match scans.digest with
  | some digest => { md with isDigestOk := md.digest = digest }
  | none => md

/-- The check of the size. -/
def checkSize (md : FileMetadata) : FileMetadata :=
  match scans.len with
  | some len => { md with isToobig := decide (conf.maxSize < len), size := len }
  | none => md

/-- The antivirus check. -/
def checkAv (md : FileMetadata) : FileMetadata :=
  match scans.scan with
  | some result =>
    { md with avPass := !result.isInfected, avReport := result.detectedInfections }
  | none => { md with avPass := false }

/-- The check of the Yara rules. -/
def checkYara (md : FileMetadata) : FileMetadata :=
  if conf.yaraRules then
    match scans.scanFd with
    | some [] => { md with yaraPass := true }
    | some results =>
      { md with yaraReport := md.yaraReport ++ String.join results, yaraPass := false }
    | none => md
  else { md with yaraPass := false }

/-- The check of the type. -/
def checkType (md : FileMetadata) : FileMetadata :=
  match scans.buffer with
  | some buffer =>
    if conf.typeOff then { md with isTypeAllowed := true, fileType := getExtension tools buffer }
    else
      { md with
        isTypeAllowed := checkIsExtensionAllowed tools conf buffer md.filename
        fileType := getExtension tools buffer }
  | none => { md with isTypeAllowed := false, fileType := "Unknown" }

/-- The specialized analysis. -/
def checkSpecialized (md : FileMetadata) : FileMetadata :=
  let (pass, analyzer, summary) := callSpecializedAnalyzer scans.analyze md.filename md.fileType
  { md with
    specializedPass := pass
    specializedAnalyzer := analyzer
    specializedSummary := summary }

/-- The lookup at VirusTotal. -/
def checkVt (md : FileMetadata) : FileMetadata :=
  let (pass, detections, summary) := callVtAnalyzer scans.vt md.digest
  { md with vtPass := pass, vtDetections := detections, vtSummary := summary }

/-- The verdict that transit publishes. -/
def passed (md : FileMetadata) : Bool :=
  md.isDigestOk && !md.isToobig && md.isTypeAllowed && md.avPass && md.yaraPass &&
    md.specializedPass && md.vtPass

/-! ### One file -/

/-- Position the cursor at the beginning of the file. -/
def rewind (index : ℕ) : Program ProgressCall FileMetadata Exit Unit :=
  require (scans.lseek index) .exit

/-- The calls that publish a verdict. -/
def publication (verdict : Bool) : List ProgressCall :=
  [.completeFile verdict,
    .updateStep (if verdict then .complete else .failed "Vérifications échouées")]

/-- The step of the specialized analysis, when the socket is set. -/
def specializedStep : Program ProgressCall FileMetadata Exit Unit :=
  if conf.socketAnalyze then do
    emit (.updateStep .specializedAnalysis)
    modify (checkSpecialized scans)
    rewind scans 6
  else pure ()

/-- The step of the lookup at VirusTotal, when the socket is set. -/
def vtStep : Program ProgressCall FileMetadata Exit Unit :=
  if conf.socketVt then do
    emit (.updateStep .virusTotalScan)
    modify (checkVt scans)
  else pure ()

/-- The body of the loop of `check_files`. -/
def checkFile : Program ProgressCall FileMetadata Exit Unit := do
  let md ← get
  emit (.startFile md.filename)
  require scans.dup2 .exit
  rewind scans 0
  emit (.updateStep .hashing)
  modify (checkDigest scans)
  rewind scans 1
  emit (.updateStep .checkingSize)
  modify (checkSize conf scans)
  rewind scans 2
  emit (.updateStep .antivirusScan)
  modify (checkAv scans)
  rewind scans 3
  emit (.updateStep .yaraScan)
  modify (checkYara conf scans)
  rewind scans 4
  emit (.updateStep .checkingFileType)
  modify (checkType tools conf scans)
  rewind scans 5
  specializedStep conf scans
  vtStep conf scans
  let md ← get
  emit (.completeFile (passed md))
  emit (.updateStep (if passed md then .complete else .failed "Vérifications échouées"))

/-- The metadata after all checks. -/
def checked (md : FileMetadata) : FileMetadata :=
  let marked := checkType tools conf scans <| checkYara conf scans <| checkAv scans <|
    checkSize conf scans <| checkDigest scans md
  let analyzed := if conf.socketAnalyze then checkSpecialized scans marked else marked
  if conf.socketVt then checkVt scans analyzed else analyzed

/-- The calls before the verdict is published. -/
def stepCalls (filename : String) : List ProgressCall :=
  [.startFile filename, .updateStep .hashing, .updateStep .checkingSize, .updateStep .antivirusScan,
    .updateStep .yaraScan, .updateStep .checkingFileType] ++
    (if conf.socketAnalyze then [.updateStep .specializedAnalysis] else []) ++
    (if conf.socketVt then [.updateStep .virusTotalScan] else [])

theorem establishes_specializedStep (md : FileMetadata) :
    Establishes (specializedStep conf scans) md fun trace reached _ ↦
      reached = (if conf.socketAnalyze then checkSpecialized scans md else md) ∧
        trace = if conf.socketAnalyze then [.updateStep .specializedAnalysis] else [] := by
  unfold specializedStep
  by_cases hanalyze : conf.socketAnalyze = true
  · simp [hanalyze, rewind]
  · simp [hanalyze]

theorem establishes_vtStep (md : FileMetadata) :
    Establishes (vtStep conf scans) md fun trace reached _ ↦
      reached = (if conf.socketVt then checkVt scans md else md) ∧
        trace = if conf.socketVt then [.updateStep .virusTotalScan] else [] := by
  unfold vtStep
  by_cases hvt : conf.socketVt = true
  · simp [hvt]
  · simp [hvt]

/-- A file whose check ends has the metadata after all checks, and the last calls publish its
verdict. -/
theorem establishes_checkFile (md : FileMetadata) :
    Establishes (checkFile tools conf scans) md fun trace reached _ ↦
      reached = checked tools conf scans md ∧
        trace =
          stepCalls conf md.filename ++ publication (passed (checked tools conf scans md)) := by
  simp only [checkFile, rewind, establishes_get_bind_iff, establishes_emit_bind_iff,
    establishes_modify_bind_iff, establishes_require_bind_iff]
  intro _ _ _ _ _ _ _
  refine establishes_bind ((establishes_specializedStep conf scans _).mono ?_)
  rintro _ _ _ ⟨rfl, rfl⟩
  refine establishes_bind ((establishes_vtStep conf scans _).mono ?_)
  rintro _ _ _ ⟨rfl, rfl⟩
  simp only [establishes_get_bind_iff, establishes_emit_bind_iff, establishes_emit_iff]
  refine ⟨rfl, ?_⟩
  simp only [stepCalls, List.append_assoc, List.cons_append, List.nil_append]
  rfl

/-! ### Several files -/

/-- `check_files`: nothing when the process ends on the way. -/
def checkFiles (scansOf : ℕ → FileScans) :
    List FileData → Option (List (FileData × List ProgressCall))
  | [] => some []
  | f :: files =>
    match (checkFile tools conf (scansOf f.fd)).run f.md with
    | ⟨trace, md, .ok ()⟩ =>
      (checkFiles scansOf files).map fun others ↦ (⟨f.fd, md⟩, trace) :: others
    | ⟨_, _, .error .exit⟩ => none

variable {tools conf}

/-- Every file that comes out of the checks has the metadata after all checks, and its verdict was
published last. -/
theorem eq_of_checkFiles_eq_some {scansOf : ℕ → FileScans} {files : List FileData}
    {outcome : List (FileData × List ProgressCall)}
    (hchecked : checkFiles tools conf scansOf files = some outcome) :
    outcome = files.map fun f ↦
      (⟨f.fd, checked tools conf (scansOf f.fd) f.md⟩, stepCalls conf f.md.filename ++
        publication (passed (checked tools conf (scansOf f.fd) f.md))) := by
  induction files generalizing outcome with
  | nil => exact (Option.some.inj hchecked).symm
  | cons f files ih =>
    have hfile := establishes_checkFile tools conf (scansOf f.fd) f.md
    unfold checkFiles at hchecked
    unfold Establishes at hfile
    rcases hrun : (checkFile tools conf (scansOf f.fd)).run f.md with ⟨trace, md, error | value⟩
    · rw [hrun] at hchecked
      cases hchecked
    · rw [hrun] at hchecked hfile
      obtain ⟨others, hothers, rfl⟩ := Option.map_eq_some_iff.mp hchecked
      obtain ⟨rfl, rfl⟩ := hfile value rfl
      rw [ih hothers, List.map_cons]

/-- The descriptor can be duplicated, and positioned before each of the checks. -/
def FileScans.Usable (scans : FileScans) : Prop :=
  scans.dup2 = true ∧ ∀ index ≤ 6, scans.lseek index = true

instance (scans : FileScans) : Decidable scans.Usable :=
  inferInstanceAs (Decidable (_ ∧ _))

theorem ends_checkFile (husable : scans.Usable) (md : FileMetadata) :
    Ends (checkFile tools conf scans) md := by
  obtain ⟨hdup2, hseek⟩ := husable
  have hspecialized : ∀ reached, Ends (specializedStep conf scans) reached := by
    intro reached
    unfold specializedStep
    split_ifs <;> simp [rewind, hseek]
  have hvt : ∀ reached, Ends (vtStep conf scans) reached := by
    intro reached
    unfold vtStep
    split_ifs <;> simp
  simp only [checkFile, rewind, ends_get_bind_iff, ends_emit_bind_iff, ends_modify_bind_iff,
    ends_require_bind_iff]
  refine ⟨hdup2, hseek 0 (by omega), hseek 1 (by omega), hseek 2 (by omega), hseek 3 (by omega),
    hseek 4 (by omega), hseek 5 (by omega), ?_⟩
  refine ends_bind (hspecialized _) ((establishes_specializedStep conf scans _).mono ?_)
  intro _ _ _ _
  refine ends_bind (hvt _) ((establishes_vtStep conf scans _).mono ?_)
  intro _ _ _ _
  simp

/-- The checks end when every descriptor can be duplicated and positioned. -/
theorem isSome_checkFiles {scansOf : ℕ → FileScans}
    {files : List FileData} (husable : ∀ f ∈ files, (scansOf f.fd).Usable) :
    (checkFiles tools conf scansOf files).isSome := by
  induction files with
  | nil => rfl
  | cons f files ih =>
    obtain ⟨hfile, hfiles⟩ := List.forall_mem_cons.mp husable
    have hends : Ends (checkFile tools conf (scansOf f.fd)) f.md := ends_checkFile _ hfile f.md
    obtain ⟨value, hvalue⟩ := hends
    unfold checkFiles
    rcases hrun : (checkFile tools conf (scansOf f.fd)).run f.md with ⟨trace, md, error | inner⟩
    · rw [hrun] at hvalue
      cases hvalue
    · simpa using ih hfiles

/-! ### What the checks establish -/

variable (tools conf)

/-- The type that ends up in the metadata. -/
def detectedType : String :=
  (scans.buffer.map (getExtension tools)).getD "Unknown"

/-- What the specialized analysis leaves: a pass when it is not configured. -/
def specializedVerdict (filename : String) : Bool × String × String :=
  if conf.socketAnalyze then
    callSpecializedAnalyzer scans.analyze filename (detectedType tools scans)
  else (true, "", "")

/-- What the lookup leaves: a pass when it is not configured. -/
def vtVerdict (digest : String) : Bool × UInt32 × String :=
  if conf.socketVt then callVtAnalyzer scans.vt digest else (true, 0, "")

theorem checkDigest_ofInput (input : InputMetadata) :
    checkDigest scans (.ofInput input) =
      { FileMetadata.ofInput input with
        isDigestOk := decide (scans.digest = some input.digest) } := by
  unfold checkDigest
  cases scans.digest with
  | none => rfl
  | some digest => simp [FileMetadata.ofInput, eq_comm]

theorem checkSize_of_unset {md : FileMetadata} (htoobig : md.isToobig = true)
    (hsize : md.size = 0) :
    checkSize conf scans md =
      { md with
        isToobig := scans.len.all fun len ↦ decide (conf.maxSize < len)
        size := scans.len.getD 0 } := by
  unfold checkSize
  cases scans.len with
  | none => simp [← htoobig, ← hsize]
  | some len => rfl

theorem checkAv_of_unset {md : FileMetadata} (hreport : md.avReport = []) :
    checkAv scans md =
      { md with
        avPass := scans.scan.any fun result ↦ !result.isInfected
        avReport := (scans.scan.map ScanResult.detectedInfections).getD [] } := by
  unfold checkAv
  cases scans.scan with
  | none => simp [← hreport]
  | some result => rfl

theorem checkYara_of_unset {md : FileMetadata} (hpass : md.yaraPass = false)
    (hreport : md.yaraReport = "") :
    checkYara conf scans md =
      { md with
        yaraPass := conf.yaraRules && decide (scans.scanFd = some [])
        yaraReport := if conf.yaraRules then String.join (scans.scanFd.getD []) else "" } := by
  unfold checkYara
  cases conf.yaraRules with
  | false => simp [← hreport]
  | true =>
    rcases scans.scanFd with _ | _ | ⟨identifier, results⟩
    · simp [← hpass, ← hreport]
    · simp [← hreport]
    · simp [hreport]

theorem checkType_eq (md : FileMetadata) :
    checkType tools conf scans md =
      { md with
        isTypeAllowed := scans.buffer.any fun buffer ↦
          conf.typeOff || checkIsExtensionAllowed tools conf buffer md.filename
        fileType := detectedType tools scans } := by
  unfold checkType detectedType
  cases scans.buffer with
  | none => rfl
  | some buffer => cases conf.typeOff <;> simp

/-- The metadata of a received file after all checks, field by field. A check whose calls failed
leaves its field as it was, which is failed. -/
theorem checked_ofInput (input : InputMetadata) :
    checked tools conf scans (.ofInput input) =
      { filename := input.filename
        digest := input.digest
        isDigestOk := decide (scans.digest = some input.digest)
        isToobig := scans.len.all fun len ↦ decide (conf.maxSize < len)
        size := scans.len.getD 0
        isTypeAllowed := scans.buffer.any fun buffer ↦
          conf.typeOff || checkIsExtensionAllowed tools conf buffer input.filename
        avPass := scans.scan.any fun result ↦ !result.isInfected
        avReport := (scans.scan.map ScanResult.detectedInfections).getD []
        yaraPass := conf.yaraRules && decide (scans.scanFd = some [])
        yaraReport := if conf.yaraRules then String.join (scans.scanFd.getD []) else ""
        timestamp := input.timestamp
        isCorrupted := input.isCorrupted
        fileType := detectedType tools scans
        specializedPass := (specializedVerdict tools conf scans input.filename).1
        specializedAnalyzer := (specializedVerdict tools conf scans input.filename).2.1
        specializedSummary := (specializedVerdict tools conf scans input.filename).2.2
        vtPass := (vtVerdict conf scans input.digest).1
        vtDetections := (vtVerdict conf scans input.digest).2.1
        vtSummary := (vtVerdict conf scans input.digest).2.2 } := by
  unfold checked
  rw [checkDigest_ofInput, checkSize_of_unset conf scans rfl rfl, checkAv_of_unset scans rfl,
    checkYara_of_unset conf scans rfl rfl, checkType_eq]
  unfold specializedVerdict vtVerdict
  cases conf.socketAnalyze <;> cases conf.socketVt <;> rfl

/-- What must hold of the scans of a file for its release: every call that decides a check
succeeded and its result is good. The Yara rules count only when they are required. -/
structure Cleared (yaraRequired : Prop) (input : InputMetadata) : Prop where
  digest : scans.digest = some input.digest
  size : ∃ len, scans.len = some len ∧ len ≤ conf.maxSize
  type : ∃ buffer, scans.buffer = some buffer ∧
    (conf.typeOff = true ∨ checkIsExtensionAllowed tools conf buffer input.filename = true)
  av : ∃ result, scans.scan = some result ∧ result.isInfected = false
  yara : yaraRequired → conf.yaraRules = true ∧ scans.scanFd = some []
  specialized : (specializedVerdict tools conf scans input.filename).1 = true
  vt : (vtVerdict conf scans input.digest).1 = true

/-- The flags of a received file after all checks say that the file is cleared. -/
theorem cleared_iff (yaraRequired : Prop) (input : InputMetadata) :
    Cleared tools conf scans yaraRequired input ↔
      (checked tools conf scans (.ofInput input)).isDigestOk = true ∧
      (checked tools conf scans (.ofInput input)).isToobig = false ∧
      (checked tools conf scans (.ofInput input)).isTypeAllowed = true ∧
      (checked tools conf scans (.ofInput input)).avPass = true ∧
      (yaraRequired → (checked tools conf scans (.ofInput input)).yaraPass = true) ∧
      (checked tools conf scans (.ofInput input)).specializedPass = true ∧
      (checked tools conf scans (.ofInput input)).vtPass = true := by
  have hsize : (∃ len, scans.len = some len ∧ len ≤ conf.maxSize) ↔
      (scans.len.all fun len ↦ decide (conf.maxSize < len)) = false := by
    cases scans.len with
    | none => simp
    | some len => simp
  rw [checked_ofInput]
  simp only [decide_eq_true_eq, ← hsize, Option.any_eq_true, Bool.or_eq_true, Bool.and_eq_true,
    Bool.not_eq_true']
  constructor
  · exact fun hcleared ↦ ⟨hcleared.digest, hcleared.size, hcleared.type, hcleared.av, hcleared.yara,
      hcleared.specialized, hcleared.vt⟩
  · exact fun ⟨hdigest, hsize, htype, hav, hyara, hspecialized, hvt⟩ ↦
      ⟨hdigest, hsize, htype, hav, hyara, hspecialized, hvt⟩

/-- Transit publishes a pass exactly for a cleared file. -/
theorem passed_checked_iff (input : InputMetadata) :
    passed (checked tools conf scans (.ofInput input)) = true ↔
      Cleared tools conf scans True input := by
  rw [cleared_iff]
  simp only [passed, Bool.and_eq_true, Bool.not_eq_true', true_implies, and_assoc]

/-! ### A clean file -/

/-- A library of types that knows ZIP files. -/
def zipTypeTools : TypeTools where
  tables := asciiTables
  get buf :=
    if List.isPrefixOf [0x50, 0x4B, 0x03, 0x04] buf then some ⟨"zip", "application/zip"⟩ else none

/-- The default configuration, with Yara rules and the analyzer. -/
def defaultConf : Configuration where
  maxSize := 500000000
  magicList := ["jpg", "png", "gif", "bmp", "mp4", "m4v", "avi", "wmv", "mpg", "flv", "mp3", "wav",
    "ogg", "epub", "mobi", "doc", "docx", "xls", "xlsx", "ppt", "pptx"]
  yaraRules := true
  typeOff := false
  socketAnalyze := true
  socketVt := false

/-- The scans of a file in which nothing is found, with the analyzer out of reach. -/
def cleanScans (digest : String) (content : List UInt8) : FileScans where
  dup2 := true
  lseek _ := true
  digest := some digest
  len := some (UInt64.ofNat content.length)
  scan := some ⟨false, []⟩
  scanFd := some []
  buffer := some content
  analyze := .unreachable
  vt := .unreachable

end Keysas.Transit
