import Keysas.Backend.ReportText
import Keysas.Progress.DaemonProgress
import Keysas.Runs.SharedFile

/-!
# The progress of a daemon as the backend shows it

After each call on its progress a daemon writes it to a file anew, as an indented JSON text. The
backend reads the file at any time, without any agreement with the daemon, and passes what it reads
on to the frontend when the daemon is at work.

`progressShown_of_opened` says what is shown in every interleaving in which the daemon does not
create the file while it is read: the state after the last call at which the file could be created
when its text is complete, and nothing otherwise. `progressShown_torn` is an interleaving in which
the file is created while it is read, and the backend shows a state in which the daemon never was.
-/

set_option autoImplicit false
set_option relaxedAutoImplicit false

namespace Keysas.Backend

open Runs Transit Progress SerdeJson

/-! ### The progress with its times -/

/-- `DaemonProgress`, with the times of the file in hand. -/
structure TimedProgress where
  progress : DaemonProgress
  /-- `start_time`. -/
  startTime : String
  /-- `current_time`. -/
  currentTime : String
  deriving DecidableEq

namespace TimedProgress

/-- `ProgressTracker::new`. -/
def new (daemonName : String) : TimedProgress where
  progress := .new daemonName
  startTime := ""
  currentTime := ""

/-- A call at some time. -/
def step (timed : TimedProgress) (call : TrackerCall) (now : String) : TimedProgress where
  progress := (Progress.step timed.progress call).1
  startTime :=
    match call with
    | .call (.startFile _) => now
    | _ => timed.startTime
  currentTime :=
    match call with
    | .call (.startFile _) | .call (.updateStep _) => now
    | _ => timed.currentTime

end TimedProgress

/-! ### Its text -/

/-- The name of a step, unless it is a failure. -/
def stepName : AnalysisStep → String
  | .pending => "Pending"
  | .hashing => "Hashing"
  | .checkingSize => "CheckingSize"
  | .checkingFileType => "CheckingFileType"
  | .antivirusScan => "AntivirusScan"
  | .yaraScan => "YaraScan"
  | .specializedAnalysis => "SpecializedAnalysis"
  | .virusTotalScan => "VirusTotalScan"
  | .verifyingSignature => "VerifyingSignature"
  | .complete => "Complete"
  | .failed _ => "Failed"

/-- The writer of `AnalysisStep`. -/
def serializeStep : AnalysisStep → SerdeJson.Json
  | .failed reason => structObject ["Failed"] [.string (some reason)]
  | analysisStep => .string (some (stepName analysisStep))

/-- A step as a JSON value. -/
def stepToJson : AnalysisStep → Json
  | .failed reason => .object [("Failed", .string reason)]
  | analysisStep => .string (stepName analysisStep)

/-- The writer of `FileProgress`. -/
def serializeFile (timed : TimedProgress) (file : FileProgress) : SerdeJson.Json :=
  structObject ["filename", "step", "step_description", "percentage", "start_time", "current_time"]
    [.string (some file.filename), serializeStep file.step, .string (some file.stepDescription),
      .unsigned file.percentage.toUInt64, .string (some timed.startTime),
      .string (some timed.currentTime)]

/-- The file in hand as a JSON value. -/
def fileToJson (timed : TimedProgress) (file : FileProgress) : Json :=
  .object [("filename", .string file.filename), ("step", stepToJson file.step),
    ("step_description", .string file.stepDescription),
    ("percentage", .unsigned file.percentage.toUInt64), ("start_time", .string timed.startTime),
    ("current_time", .string timed.currentTime)]

/-- The writer of `DaemonProgress`. -/
def TimedProgress.serialize (timed : TimedProgress) : SerdeJson.Json :=
  structObject ["daemon_name", "total_files", "processed_files", "failed_files", "current_file",
      "queue", "completed", "is_processing"]
    [.string (some timed.progress.daemonName), .unsigned (UInt64.ofNat timed.progress.totalFiles),
      .unsigned (UInt64.ofNat timed.progress.processedFiles),
      .unsigned (UInt64.ofNat timed.progress.failedFiles),
      (timed.progress.currentFile.map (serializeFile timed)).getD .null,
      .array (timed.progress.queue.map fun name ↦ .string (some name)),
      .array (timed.progress.completed.map fun name ↦ .string (some name)),
      .bool timed.progress.isProcessing]

/-- The progress of a daemon as a JSON value. -/
def progressToJson (timed : TimedProgress) : Json :=
  .object [("daemon_name", .string timed.progress.daemonName),
    ("total_files", .unsigned (UInt64.ofNat timed.progress.totalFiles)),
    ("processed_files", .unsigned (UInt64.ofNat timed.progress.processedFiles)),
    ("failed_files", .unsigned (UInt64.ofNat timed.progress.failedFiles)),
    ("current_file", (timed.progress.currentFile.map (fileToJson timed)).getD .null),
    ("queue", .array (timed.progress.queue.map .string)),
    ("completed", .array (timed.progress.completed.map .string)),
    ("is_processing", .bool timed.progress.isProcessing)]

/-- The bytes that `update_progress_file` writes. -/
@[irreducible] def TimedProgress.bytes (timed : TimedProgress) : List UInt8 :=
  Wire.Bincode.utf8 (toTextPretty timed.serialize)

theorem toValue_serializeStep (analysisStep : AnalysisStep) :
    toValue (serializeStep analysisStep) = some (stepToJson analysisStep) := by
  cases analysisStep with
  | failed reason =>
    refine (toValue_structObject (by decide) ?_ <| .cons rfl .nil).trans rfl
    exact Nat.le_refl 1
  | _ => rfl

theorem toValue_serializeFile (timed : TimedProgress) (file : FileProgress) :
    toValue (serializeFile timed file) = some (fileToJson timed file) := by
  refine (toValue_structObject (by decide) ?_ <| .cons rfl <| .cons (toValue_serializeStep _) <|
    .cons rfl <| .cons rfl <| .cons rfl <| .cons rfl .nil).trans rfl
  exact Nat.le_refl 6

/-- The progress that was written is read as its value. -/
theorem TimedProgress.toValue_serialize (timed : TimedProgress) :
    toValue timed.serialize = some (progressToJson timed) := by
  have hcurrent : toValue ((timed.progress.currentFile.map (serializeFile timed)).getD .null) =
      some ((timed.progress.currentFile.map (fileToJson timed)).getD .null) := by
    cases timed.progress.currentFile with
    | none => rfl
    | some file => exact toValue_serializeFile timed file
  refine (toValue_structObject (by decide) ?_ <| .cons rfl <| .cons rfl <| .cons rfl <|
    .cons rfl <| .cons hcurrent <| .cons (toValue_strings _) <| .cons (toValue_strings _) <|
    .cons rfl .nil).trans rfl
  exact Nat.le_refl 8

theorem TimedProgress.written_serialize (timed : TimedProgress) : Written 127 timed.serialize := by
  have hstep : ∀ analysisStep, Written 125 (serializeStep analysisStep) := by
    intro analysisStep
    cases analysisStep with
    | failed reason =>
      refine @written_structObject 124 _ _ ?_
      simp only [List.forall_mem_cons, List.not_mem_nil, false_imp_iff, implies_true, and_true]
      exact .string _ _
    | _ => exact .string _ _
  have hcurrent :
      Written 126 ((timed.progress.currentFile.map (serializeFile timed)).getD .null) := by
    cases timed.progress.currentFile with
    | none => exact .null _
    | some file =>
      refine @written_structObject 125 _ _ ?_
      simp only [List.forall_mem_cons, List.not_mem_nil, false_imp_iff, implies_true, and_true]
      exact ⟨.string _ _, hstep _, .string _ _, .unsigned _ _, .string _ _, .string _ _⟩
  refine @written_structObject 126 _ _ ?_
  simp only [List.forall_mem_cons, List.not_mem_nil, false_imp_iff, implies_true, and_true]
  exact ⟨.string _ _, .unsigned _ _, .unsigned _ _, .unsigned _ _, hcurrent,
    written_strings _ 125, written_strings _ 125, .bool _ _⟩

/-! ### Reading -/

/-- `read_progress_file`, on the content of the file, when it can be read. -/
def readProgressFile (content : Option (List UInt8)) : Option Json :=
  (content.bind Wire.Bincode.fromUtf8).bind valueFromStr

/-- What is passed on to the frontend: the progress of a daemon that is at work. -/
def progressShown (content : Option (List UInt8)) : Option Json :=
  (readProgressFile content).filter fun value ↦ (value.get "is_processing").asBool.getD false

/-- What is shown of a front of the bytes of the progress: nothing when the front stops before the
last bracket, or when the daemon is not at work. -/
theorem progressShown_of_bytes (timed : TimedProgress) {front : List UInt8}
    (hbegin : front <+: timed.bytes) :
    progressShown (some front) =
      if front = timed.bytes ∧ timed.progress.isProcessing = true then some (progressToJson timed)
      else none := by
  have hfront : front <+: Wire.Bincode.utf8
      (String.ofList (write (.pretty 0) timed.serialize ++ [])) := by
    rwa [List.append_nil, ← toTextPretty, ← TimedProgress.bytes]
  have hread := fromStr_of_bytes timed.written_serialize (.inr ⟨_, rfl⟩) (.pretty 0)
    (by rintro _ ⟨⟩) hfront
  have hvalue : readProgressFile (some front) =
      if timed.bytes.length ≤ front.length then some (progressToJson timed) else none := by
    show (Wire.Bincode.fromUtf8 front).bind (fun text ↦ (SerdeJson.fromStr text).bind toValue) = _
    rw [← Option.bind_assoc, hread, apply_ite (Option.bind · toValue), Option.bind_some,
      timed.toValue_serialize, ← toTextPretty, ← TimedProgress.bytes]
    rfl
  have hwhole : timed.bytes.length ≤ front.length ↔ front = timed.bytes :=
    ⟨hbegin.eq_of_length_le, fun hsame ↦ (congrArg List.length hsame).ge⟩
  rw [progressShown, hvalue]
  by_cases hlength : timed.bytes.length ≤ front.length
  · rw [if_pos hlength, Option.filter_some]
    show (if timed.progress.isProcessing = true then _ else _) = _
    by_cases hprocessing : timed.progress.isProcessing = true
    · rw [if_pos hprocessing, if_pos ⟨hwhole.mp hlength, hprocessing⟩]
    · rw [if_neg hprocessing, if_neg fun hboth ↦ hprocessing hboth.2]
  · rw [if_neg hlength, if_neg fun hboth ↦ hlength (hwhole.mpr hboth.1), Option.filter_none]

/-! ### Interleavings -/

/-- What the daemon and the backend do with the file: a call on the progress, at which the file can
be created or not, a piece of it that is written, a write that fails, and the opening and the
reading of the file. -/
inductive ProgressEvent where
  | call (call : TrackerCall) (now : String) (creates : Bool)
  | write (count : ℕ)
  | abandon
  | openFile
  | read (count : ℕ)
  deriving DecidableEq

/-- The daemon and its file. -/
structure PublishedProgress where
  timed : TimedProgress
  file : SharedFile TimedProgress UInt8
  deriving DecidableEq

/-- What happens to the file in an event, when anything does. -/
def ProgressEvent.onFile (timed : TimedProgress) :
    ProgressEvent → Option (SharedFile.Event TimedProgress)
  | .call trackerCall now creates =>
    if creates then some (.create (timed.step trackerCall now)) else none
  | .write count => some (.write count)
  | .abandon => some .abandon
  | .openFile => some .openFile
  | .read count => some (.read count)

/-- The progress after an event. -/
def ProgressEvent.onProgress (timed : TimedProgress) : ProgressEvent → TimedProgress
  | .call trackerCall now _ => timed.step trackerCall now
  | .write _ | .abandon | .openFile | .read _ => timed

/-- One event. -/
def PublishedProgress.step (state : PublishedProgress) (event : ProgressEvent) :
    PublishedProgress × Unit :=
  ({ timed := event.onProgress state.timed
     file :=
      match event.onFile state.timed with
      | some onFile => (SharedFile.step TimedProgress.bytes state.file onFile).1
      | none => state.file }, ())

/-- A daemon that has just been started. -/
def PublishedProgress.new (daemonName : String) : PublishedProgress where
  timed := .new daemonName
  file := .absent

/-- What happens to the file in some events. -/
def fileEvents : TimedProgress → List ProgressEvent → List (SharedFile.Event TimedProgress)
  | _, [] => []
  | timed, event :: events =>
    (event.onFile timed).toList ++ fileEvents (event.onProgress timed) events

/-- The progress after the last call at which the file could be created. -/
def lastPublished (daemonName : String) (events : List ProgressEvent) : Option TimedProgress :=
  ((fileEvents (.new daemonName) events).filterMap SharedFile.Event.created).getLast?

/-- The daemon and its file after some events. -/
def afterEvents (daemonName : String) (events : List ProgressEvent) : PublishedProgress :=
  (execute PublishedProgress.step (.new daemonName) events).2

/-- What the events leave of the file, and of the progress, does not depend on the other. -/
theorem file_execute (events : List ProgressEvent) (state : PublishedProgress) :
    (execute PublishedProgress.step state events).2.file =
      (execute (SharedFile.step TimedProgress.bytes) state.file
        (fileEvents state.timed events)).2 := by
  induction events generalizing state with
  | nil => rfl
  | cons event events ih =>
    rw [execute, ih, fileEvents, execute_append]
    show _ = (execute _ (execute _ _ (event.onFile state.timed).toList).2 _).2
    unfold PublishedProgress.step
    cases event.onFile state.timed <;> rfl

theorem fileEvents_append (first second : List ProgressEvent) (timed : TimedProgress) :
    fileEvents timed (first ++ second) = fileEvents timed first ++
      fileEvents (first.foldl ProgressEvent.onProgress timed) second := by
  induction first generalizing timed with
  | nil => rfl
  | cons event first ih =>
    rw [List.cons_append, fileEvents, fileEvents, ih, List.append_assoc]
    rfl

/-- The file is not created in an event. -/
def ProgressEvent.keeps : ProgressEvent → Bool
  | .call _ _ creates => !creates
  | .write _ | .abandon | .openFile | .read _ => true

theorem keeps_of_mem_fileEvents {events : List ProgressEvent}
    (hkeeps : ∀ event ∈ events, event.keeps = true) (timed : TimedProgress) :
    ∀ event ∈ fileEvents timed events, event.keeps = true := by
  induction events generalizing timed with
  | nil => rintro _ ⟨⟩
  | cons event events ih =>
    intro onFile hmem
    rcases List.mem_append.mp hmem with hfirst | hrest
    · have hevent := hkeeps event (.head _)
      rw [Option.mem_toList] at hfirst
      cases event with
      | call trackerCall now creates =>
        cases creates with
        | true => cases hevent
        | false => cases hfirst
      | write count => rw [← Option.some.inj hfirst]; rfl
      | abandon => rw [← Option.some.inj hfirst]; rfl
      | openFile => rw [← Option.some.inj hfirst]; rfl
      | read count => rw [← Option.some.inj hfirst]; rfl
    · exact ih (fun other hother ↦ hkeeps other (.tail _ hother)) _ onFile hrest

/-- What the backend shows when it is at the end of the file, in every order of the events of both:
the progress after the last call at which the file could be created, when the file holds its whole
text and the daemon is at work, and nothing otherwise. Assumes: the file has not been created since
it was opened. -/
theorem progressShown_of_opened (daemonName : String) {before during : List ProgressEvent}
    (hkeeps : ∀ event ∈ during, event.keeps = true)
    (hend : (afterEvents daemonName (before ++ .openFile :: during)).file.AtEnd) :
    ∃ timed, lastPublished daemonName (before ++ .openFile :: during) = some timed ∧
      progressShown (afterEvents daemonName (before ++ .openFile :: during)).file.buffer =
        if (afterEvents daemonName (before ++ .openFile :: during)).file.content =
            some timed.bytes ∧ timed.progress.isProcessing = true then
          some (progressToJson timed)
        else none := by
  have hfile : (afterEvents daemonName (before ++ .openFile :: during)).file =
      (execute (SharedFile.step TimedProgress.bytes) .absent
        (fileEvents (.new daemonName) (before ++ .openFile :: during))).2 := file_execute _ _
  have hevents : fileEvents (.new daemonName) (before ++ .openFile :: during) =
      fileEvents (.new daemonName) before ++ .openFile ::
        fileEvents (before.foldl ProgressEvent.onProgress (.new daemonName)) during := by
    rw [fileEvents_append]
    rfl
  -- The events of the file split where it was opened.
  have hopened : (afterEvents daemonName (before ++ .openFile :: during)).file =
      (execute (SharedFile.step TimedProgress.bytes)
        (execute (SharedFile.step TimedProgress.bytes) .absent
          (fileEvents (.new daemonName) before)).2
        (.openFile :: fileEvents (before.foldl ProgressEvent.onProgress (.new daemonName))
          during)).2 := by
    rw [hfile, hevents, execute_append]
  have hbuffer := SharedFile.buffer_of_opened (keeps_of_mem_fileEvents hkeeps _) (hopened ▸ hend)
  rw [← hopened] at hbuffer
  obtain ⟨-, content, -, hcontent, -⟩ := hend.exists_content
  obtain ⟨timed, hlast, hfront⟩ := SharedFile.content_of_execute (hfile ▸ hcontent)
  refine ⟨timed, hlast, ?_⟩
  rw [hbuffer, hcontent, progressShown_of_bytes timed hfront]
  simp only [Option.some.injEq]

/-! ### Two interleavings -/

/-- The progress of a daemon with two files, one of which is in hand. -/
def startedProgress : TimedProgress :=
  ((TimedProgress.new "keysas-in").step (.addFilesToQueue ["a", "b"]) "t").step
    (.call (.startFile "a")) "t"

/-- The daemon has written this progress to the file. -/
def startedEvents : List ProgressEvent :=
  [.call (.addFilesToQueue ["a", "b"]) "t" false, .call (.call (.startFile "a")) "t" true,
    .write startedProgress.bytes.length]

theorem progressShown_started :
    progressShown (afterEvents "keysas-in"
        (startedEvents ++ [.openFile, .read startedProgress.bytes.length])).file.buffer =
      some (progressToJson startedProgress) := by
  have hall : ∀ (bytes : TimedProgress → List UInt8) (value : TimedProgress),
      (execute (SharedFile.step bytes) .absent [.create value, .write (bytes value).length,
        .openFile, .read (bytes value).length]).2 =
          ⟨some value, some (bytes value), [], some (bytes value)⟩ := by
    intro bytes value
    simp [execute, SharedFile.step, SharedFile.absent]
  have hfile : (afterEvents "keysas-in"
      (startedEvents ++ [.openFile, .read startedProgress.bytes.length])).file =
        ⟨some startedProgress, some startedProgress.bytes, [], some startedProgress.bytes⟩ :=
    (file_execute _ _).trans (hall TimedProgress.bytes startedProgress)
  have hend : (afterEvents "keysas-in"
      (startedEvents ++ [.openFile, .read startedProgress.bytes.length])).file.AtEnd := by
    rw [hfile]
    exact Nat.le_refl _
  obtain ⟨timed, hlast, hshown⟩ := @progressShown_of_opened "keysas-in" startedEvents
    [.read startedProgress.bytes.length] (by decide) hend
  obtain rfl : startedProgress = timed := Option.some.inj hlast
  rw [hshown, if_pos]
  exact ⟨by rw [hfile], rfl⟩

/-- The progress when the file in hand is completed. -/
def completedProgress : TimedProgress :=
  startedProgress.step (.call (.completeFile true)) "t"

/-- The file is written anew when the backend has read a part of it. -/
def tornEvents : List ProgressEvent :=
  startedEvents ++ [.openFile, .read 80, .call (.call (.completeFile true)) "t" true,
    .write completedProgress.bytes.length, .read completedProgress.bytes.length]

/-- The front of one state and the back of the next. -/
def tornProgress : TimedProgress :=
  { completedProgress with
    progress := { completedProgress.progress with processedFiles := 0 } }

/-- The three texts have a byte for each character. -/
theorem bytes_eq_map {timed : TimedProgress}
    (htimed : timed ∈ [startedProgress, completedProgress, tornProgress]) :
    timed.bytes =
      (write (.pretty 0) timed.serialize).map fun character ↦ character.val.toUInt8 := by
  have hsize : ∀ timed ∈ [startedProgress, completedProgress, tornProgress],
      (write (.pretty 0) timed.serialize).all (·.utf8Size == 1) = true := by
    decide +kernel
  rw [TimedProgress.bytes, toTextPretty, RustStd.utf8_of_utf8Size_eq_one fun character hmem ↦
    eq_of_beq (List.all_eq_true.mp (hsize timed htimed) character hmem)]

/-- The bytes of the two states are put together to those of the third. -/
theorem bytes_tornProgress :
    80 ≤ startedProgress.bytes.length ∧
      startedProgress.bytes.take 80 ++ completedProgress.bytes.drop 80 = tornProgress.bytes := by
  have htexts : 80 ≤ (write (.pretty 0) startedProgress.serialize).length ∧
      (write (.pretty 0) startedProgress.serialize).take 80 ++
        (write (.pretty 0) completedProgress.serialize).drop 80 =
          write (.pretty 0) tornProgress.serialize := by
    decide +kernel
  rw [bytes_eq_map (by simp), bytes_eq_map (by simp), bytes_eq_map (by simp), List.length_map,
    ← List.map_take, ← List.map_drop, ← List.map_append, htexts.2]
  exact ⟨htexts.1, rfl⟩

/-- The backend shows a state in which the daemon never was: a file is completed, and no file has
been processed. -/
theorem progressShown_torn :
    progressShown (afterEvents "keysas-in" tornEvents).file.buffer =
        some (progressToJson tornProgress) ∧
      ∀ front ∈ tornEvents.inits, (afterEvents "keysas-in" front).timed.progress ≠
        tornProgress.progress := by
  have hall : ∀ (bytes : TimedProgress → List UInt8) (first second : TimedProgress),
      80 ≤ (bytes first).length →
      (execute (SharedFile.step bytes) .absent [.create first, .write (bytes first).length,
        .openFile, .read 80, .create second, .write (bytes second).length,
        .read (bytes second).length]).2.buffer =
          some ((bytes first).take 80 ++ (bytes second).drop 80) := by
    intro bytes first second hlength
    have htake : ((bytes first).take 80).length = 80 := List.length_take_of_le hlength
    have hdrop : ((bytes second).drop 80).take (bytes second).length = (bytes second).drop 80 :=
      List.take_of_length_le (by rw [List.length_drop]; exact Nat.sub_le _ _)
    simp [execute, SharedFile.step, SharedFile.absent, htake, hdrop]
  obtain ⟨hlength, htorn⟩ := bytes_tornProgress
  have hbuffer : (afterEvents "keysas-in" tornEvents).file.buffer = some tornProgress.bytes := by
    rw [← htorn, ← hall TimedProgress.bytes startedProgress completedProgress hlength]
    exact congrArg SharedFile.buffer (file_execute _ _)
  refine ⟨?_, by decide +kernel⟩
  rw [hbuffer, progressShown_of_bytes tornProgress List.prefix_rfl]
  exact if_pos ⟨rfl, rfl⟩

end Keysas.Backend
