import Keysas.Out.OutputFiles
import Keysas.Store.WriteLog

/-!
# The output directory after a sequence of files

`keysas-out` puts the report of a file called `name` under `.name.krp` and the file itself under
`name`, each only when it is to be written, and truncates what is there under the same name. Names
may come again, so what the directory holds depends on the whole sequence.

A `ProcessedFile` is a file whose processing ended without an error, under a name that `keysas-in`
sends. Its `Outcome` is all that matters for the names in the directory: the verdict of the report,
and whether the file was released. `records_directoryAfter` says what the directory holds in terms
of the outcomes: under a name a file that was released, under the name of a report the last report
that was written, and nothing else.
-/

set_option autoImplicit false
set_option relaxedAutoImplicit false

namespace Keysas.Out

open Crypto Keys Reports RustStd Runs Store

/-! ### Names -/

/-- A name under which `keysas-in` sends files: a component of a path that does not start with a
dot. -/
structure VisibleName (name : String) : Prop where
  ne_empty : name ≠ ""
  slash_not_mem : '/' ∉ name.toList
  visible : startsWith name "." = false

/-- The name of the report about a file. -/
def reportName (name : String) : String :=
  appendExt "krp" ("." ++ name)

theorem toList_reportName (name : String) :
    (reportName name).toList = '.' :: (name.toList ++ ['.', 'k', 'r', 'p']) := by
  simp [reportName, appendExt]

theorem startsWith_reportName (name : String) : startsWith (reportName name) "." = true := by
  rw [startsWith, decide_eq_true_iff, toList_reportName]
  exact ⟨_, rfl⟩

theorem reportName_injective : Function.Injective reportName := by
  intro first second heq
  have hlists := congrArg String.toList heq
  rw [toList_reportName, toList_reportName] at hlists
  exact String.toList_inj.mp (List.append_cancel_right (List.cons.inj hlists).2)

/-- The name of a report is not one under which files are sent. -/
theorem ne_reportName {name : String} (hname : VisibleName name) (other : String) :
    name ≠ reportName other := by
  intro heq
  have hdot := hname.visible
  rw [heq, startsWith_reportName] at hdot
  cases hdot

/-- The file is put under its name. -/
theorem fileName_push_visible {name : String} (hname : VisibleName name) (base : String) :
    fileName (push base name) = some name := by
  refine fileName_push hname.slash_not_mem hname.ne_empty ?_ ?_
  · rintro rfl
    exact absurd hname.visible (by decide)
  · rintro rfl
    exact absurd hname.visible (by decide)

/-- The report is put under its name. -/
theorem fileName_push_report {name : String} (hname : VisibleName name) (base : String) :
    fileName (appendExt "krp" (push base ("." ++ name))) = some (reportName name) := by
  have hdotted : '/' ∉ ("." ++ name).toList := by
    simp [hname.slash_not_mem]
  have hreport : '/' ∉ (reportName name).toList := by
    rw [toList_reportName]
    simp [hname.slash_not_mem]
  have hlong : ∀ short : String, short.toList.length < 5 → reportName name ≠ short := by
    intro short hshort heq
    rw [← heq, toList_reportName, List.length_cons, List.length_append] at hshort
    exact absurd hshort (by simp)
  rw [appendExt_push hdotted (by decide)]
  show fileName (push base (reportName name)) = some (reportName name)
  exact fileName_push hreport (hlong "" (by decide)) (hlong "." (by decide))
    (hlong ".." (by decide))

/-! ### Outcomes -/

/-- What the processing of a file under a name comes to: the verdict of its report, and whether the
file was released. -/
structure Outcome where
  name : String
  isValid : Bool
  released : Bool
  visible : VisibleName name
  released_of_isValid : isValid = true → released = true

/-- The verdict of the last file under a name. -/
def lastVerdict (outcomes : List Outcome) (name : String) : Option Bool :=
  lastWrite (outcomes.map fun outcome ↦ (outcome.name, outcome.isValid)) name

/-- A file under the name was released. -/
def Released (outcomes : List Outcome) (name : String) : Prop :=
  ∃ outcome ∈ outcomes, outcome.name = name ∧ outcome.released = true

/-- The verdict of the last report written about a file under a name. -/
def reportedVerdict (mode : KrpMode) (outcomes : List Outcome) (name : String) : Option Bool :=
  lastVerdict (outcomes.filter fun outcome ↦ mode.shouldWrite outcome.isValid) name

theorem lastVerdict_append (outcomes : List Outcome) (outcome : Outcome) (name : String) :
    lastVerdict (outcomes ++ [outcome]) name =
      if outcome.name = name then some outcome.isValid else lastVerdict outcomes name := by
  rw [lastVerdict, List.map_append, List.map_singleton, lastWrite_append, lastWrite_singleton]
  split_ifs
  · rfl
  · rfl

theorem reportedVerdict_append (mode : KrpMode) (outcomes : List Outcome) (outcome : Outcome)
    (name : String) :
    reportedVerdict mode (outcomes ++ [outcome]) name =
      if outcome.name = name ∧ mode.shouldWrite outcome.isValid = true then some outcome.isValid
      else reportedVerdict mode outcomes name := by
  rw [reportedVerdict, List.filter_append]
  by_cases hwritten : mode.shouldWrite outcome.isValid = true
  · have hkept : [outcome].filter (fun outcome ↦ mode.shouldWrite outcome.isValid) = [outcome] := by
      simp [hwritten]
    rw [hkept, lastVerdict_append]
    simp only [hwritten, and_true]
    rfl
  · have hdropped : [outcome].filter (fun outcome ↦ mode.shouldWrite outcome.isValid) = [] := by
      simp [hwritten]
    rw [hdropped, List.append_nil, if_neg fun hboth ↦ hwritten hboth.2]
    rfl

theorem released_append_iff {outcomes : List Outcome} {outcome : Outcome} {name : String} :
    Released (outcomes ++ [outcome]) name ↔
      (outcome.name = name ∧ outcome.released = true) ∨ Released outcomes name := by
  simp [Released, or_and_right, exists_or, or_comm]

instance (outcomes : List Outcome) (name : String) : Decidable (Released outcomes name) :=
  inferInstanceAs (Decidable (∃ outcome ∈ outcomes, _))

/-! ### The directory -/

/-- What an effect puts in the output directory, under which name. -/
def Effect.write : Effect → Option (String × List UInt8)
  | .logReport _ => none
  | .createReport path => (fileName path).map fun name ↦ (name, [])
  | .writeReport path text => (fileName path).map fun name ↦ (name, Wire.Bincode.utf8 text)
  | .createOutput path => (fileName path).map fun name ↦ (name, [])
  | .writeOutput path bytes => (fileName path).map fun name ↦ (name, bytes)

/-- The files of the output directory by name. -/
abbrev OutputDirectory := Table String (List UInt8)

variable {schemes : Schemes} (sha256 : Sha256) (json : ReportJson) (conf : Configuration)
  (signKeys : Option (HybridKeyPair schemes)) (signCert : String)

/-- A file under a name that `keysas-in` sends, whose processing ends without an error. -/
structure ProcessedFile where
  md : FileMetadata
  calls : OutputCalls
  visible : VisibleName md.filename
  succeeds : ((outputFile sha256 json conf signKeys signCert calls).run md).value = .ok ()

variable {sha256 json conf signKeys signCert}

/-- The metadata after the second check of the digest. -/
def ProcessedFile.checked (file : ProcessedFile sha256 json conf signKeys signCert) :
    FileMetadata :=
  recheckDigest sha256 (file.calls.content.getD []) file.md

/-- A file whose checks all passed is released, whatever the configuration says about yara. -/
theorem released_of_isValid {md : FileMetadata} (hvalid : md.isValid = true) :
    released conf md = true := by
  simp only [FileMetadata.isValid, Bool.and_eq_true] at hvalid
  simp only [released, Bool.and_eq_true]
  simp [hvalid]

/-- The outcome of a file. -/
def ProcessedFile.outcome (file : ProcessedFile sha256 json conf signKeys signCert) : Outcome where
  name := file.md.filename
  isValid := file.checked.isValid
  released := released conf file.checked
  visible := file.visible
  released_of_isValid := released_of_isValid

/-- What a file writes to the output directory. -/
def ProcessedFile.writes (file : ProcessedFile sha256 json conf signKeys signCert) :
    List (String × List UInt8) :=
  ((outputFile sha256 json conf signKeys signCert file.calls).run file.md).trace.filterMap
    Effect.write

/-- The output directory, empty at first, after a sequence of files. -/
def directoryAfter (files : List (ProcessedFile sha256 json conf signKeys signCert)) :
    OutputDirectory :=
  replay ∅ (files.flatMap ProcessedFile.writes)

/-! ### What the directory holds -/

variable (json) in
/-- The text of a report, as it is written to a file. -/
def reportBytes (report : Report) : List UInt8 :=
  Wire.Bincode.utf8 (json.reportToString report ++ "\n")

/-- What the report step writes to the directory. -/
theorem write_reportEffects (report : Report) {md : FileMetadata}
    (hvisible : VisibleName md.filename) :
    (reportEffects json conf report md).filterMap Effect.write =
      if conf.krpMode.shouldWrite report.metadata.isValid then
        [(reportName md.filename, []), (reportName md.filename, reportBytes json report)]
      else [] := by
  rw [reportEffects]
  split_ifs
  · simp only [List.filterMap_cons, List.filterMap_nil, Effect.write,
      fileName_push_report hvisible, Option.map_some]
    rfl
  · rfl

/-- What the copy step writes to the directory. -/
theorem write_copyEffects (calls : OutputCalls) (content : List UInt8) {md : FileMetadata}
    (hvisible : VisibleName md.filename) :
    (copyEffects conf calls content md).filterMap Effect.write =
      if released conf md then
        [(md.filename, []), (md.filename, copiedBytes content calls.copy)]
      else [] := by
  rw [copyEffects]
  split_ifs
  · simp only [List.filterMap_cons, List.filterMap_nil, Effect.write,
      fileName_push_visible hvisible, Option.map_some]
  · rfl

/-- A processed file writes its report, when it is to be written, and then its copy, when it is
released. -/
theorem exists_writes (file : ProcessedFile sha256 json conf signKeys signCert) :
    ∃ content report, report.metadata.isValid = file.outcome.isValid ∧
      file.writes =
        (if conf.krpMode.shouldWrite file.outcome.isValid then
          [(reportName file.outcome.name, []),
            (reportName file.outcome.name, reportBytes json report)]
        else []) ++
        (if file.outcome.released then
          [(file.outcome.name, []), (file.outcome.name, content)]
        else []) := by
  obtain ⟨content, report, hcontent, hmetadata, htrace⟩ :=
    establishes_outputFile_trace file.md _ file.succeeds
  have hchecked : recheckDigest sha256 content file.md = file.checked := by
    rw [ProcessedFile.checked, hcontent]
    rfl
  have hname : file.checked.filename = file.md.filename := filename_recheckDigest _ _
  have hvisible : VisibleName file.checked.filename := by
    rw [hname]
    exact file.visible
  have hvalid : report.metadata.isValid = file.checked.isValid := by
    rw [hmetadata, hchecked]
    rfl
  refine ⟨copiedBytes content file.calls.copy, report, hvalid, ?_⟩
  rw [ProcessedFile.writes, htrace, hchecked, List.filterMap_cons, List.filterMap_append,
    write_reportEffects report hvisible, write_copyEffects file.calls content hvisible, hvalid,
    hname]
  rfl

/-- What a processed file leaves under a name that files are sent under: a file, when it has this
name and is released. -/
theorem isSome_lastWrite_writes {file : ProcessedFile sha256 json conf signKeys signCert}
    {name : String} (hname : VisibleName name) :
    (lastWrite file.writes name).isSome = true ↔
      file.outcome.name = name ∧ file.outcome.released = true := by
  obtain ⟨content, report, -, hwrites⟩ := exists_writes file
  rw [isSome_lastWrite_iff, hwrites]
  constructor
  · rintro ⟨write, hwrite, rfl⟩
    rcases List.mem_append.mp hwrite with hreport | hcopy
    · split_ifs at hreport
      · exact absurd (by rcases List.mem_pair.mp hreport with rfl | rfl <;> rfl)
          (ne_reportName hname file.outcome.name)
      · cases hreport
    · split_ifs at hcopy with hreleased
      · exact ⟨by rcases List.mem_pair.mp hcopy with rfl | rfl <;> rfl, hreleased⟩
      · cases hcopy
  · rintro ⟨rfl, hreleased⟩
    refine ⟨(file.outcome.name, content), List.mem_append_right _ ?_, rfl⟩
    rw [if_pos hreleased]
    exact List.mem_cons_of_mem _ (List.mem_singleton_self _)

/-- What a processed file leaves under the name of a report: its own report, when it is written and
about a file of this name. -/
theorem lastWrite_writes_reportName (file : ProcessedFile sha256 json conf signKeys signCert)
    (name : String) :
    ∃ report, report.metadata.isValid = file.outcome.isValid ∧
      lastWrite file.writes (reportName name) =
        if file.outcome.name = name ∧ conf.krpMode.shouldWrite file.outcome.isValid = true then
          some (reportBytes json report)
        else none := by
  obtain ⟨content, report, hvalid, hwrites⟩ := exists_writes file
  refine ⟨report, hvalid, ?_⟩
  have hcopy : lastWrite (if file.outcome.released then
      [(file.outcome.name, []), (file.outcome.name, content)] else []) (reportName name) =
        (none : Option (List UInt8)) := by
    have hne := ne_reportName file.outcome.visible name
    split_ifs
    · simp [lastWrite, hne]
    · rfl
  rw [hwrites, lastWrite_append, hcopy, Option.none_or]
  by_cases hwritten : conf.krpMode.shouldWrite file.outcome.isValid = true
  · by_cases hname : file.outcome.name = name
    · rw [if_pos hwritten, if_pos ⟨hname, hwritten⟩, hname]
      simp [lastWrite]
    · have hne : reportName file.outcome.name ≠ reportName name :=
        fun heq ↦ hname (reportName_injective heq)
      rw [if_pos hwritten, if_neg fun hboth ↦ hname hboth.1]
      simp [lastWrite, hne]
  · rw [if_neg hwritten, if_neg fun hboth ↦ hwritten hboth.2, lastWrite_nil]

variable (json) in
/-- What a directory holds after a sequence of outcomes: under a name a file that was released,
under the name of a report the last report that was written, and nothing else. -/
structure Records (mode : KrpMode) (outcomes : List Outcome) (directory : OutputDirectory) :
    Prop where
  file : ∀ name, VisibleName name →
    ((directory.lookup name).isSome = true ↔ Released outcomes name)
  no_report : ∀ name, reportedVerdict mode outcomes name = none →
    directory.lookup (reportName name) = none
  report : ∀ name isValid, reportedVerdict mode outcomes name = some isValid →
    ∃ report : Report, report.metadata.isValid = isValid ∧
      directory.lookup (reportName name) = some (reportBytes json report)
  only : ∀ key, (directory.lookup key).isSome = true →
    VisibleName key ∨ ∃ name, VisibleName name ∧ key = reportName name

/-- A name that a processed file writes is that of the file or of its report. -/
theorem name_of_mem_writes {file : ProcessedFile sha256 json conf signKeys signCert}
    {write : String × List UInt8} (hwrite : write ∈ file.writes) :
    write.1 = file.outcome.name ∨ write.1 = reportName file.outcome.name := by
  obtain ⟨content, report, -, hwrites⟩ := exists_writes file
  rw [hwrites] at hwrite
  rcases List.mem_append.mp hwrite with hreport | hcopy
  · right
    split_ifs at hreport
    · rcases List.mem_pair.mp hreport with rfl | rfl <;> rfl
    · cases hreport
  · left
    split_ifs at hcopy
    · rcases List.mem_pair.mp hcopy with rfl | rfl <;> rfl
    · cases hcopy

/-- What the directory holds after one more file. Assumes: it held what the outcomes before say. -/
theorem Records.process {outcomes : List Outcome} {directory : OutputDirectory}
    (hrecords : Records json conf.krpMode outcomes directory)
    (file : ProcessedFile sha256 json conf signKeys signCert) :
    Records json conf.krpMode (outcomes ++ [file.outcome]) (replay directory file.writes) := by
  constructor
  · intro name hname
    rw [lookup_replay, Option.isSome_or, Bool.or_eq_true, released_append_iff,
      isSome_lastWrite_writes hname, hrecords.file name hname]
  · intro name hreported
    obtain ⟨report, -, hlast⟩ := lastWrite_writes_reportName file name
    rw [reportedVerdict_append] at hreported
    rw [lookup_replay, hlast]
    split_ifs at hreported ⊢
    rw [Option.none_or]
    exact hrecords.no_report name hreported
  · intro name isValid hreported
    obtain ⟨report, hvalid, hlast⟩ := lastWrite_writes_reportName file name
    rw [reportedVerdict_append] at hreported
    rw [lookup_replay, hlast]
    split_ifs at hreported ⊢
    · exact ⟨report, hvalid.trans (Option.some.inj hreported), rfl⟩
    · rw [Option.none_or]
      exact hrecords.report name isValid hreported
  · intro key hkey
    rw [lookup_replay, Option.isSome_or, Bool.or_eq_true] at hkey
    rcases hkey with hlast | hbefore
    · obtain ⟨write, hwrite, rfl⟩ := isSome_lastWrite_iff.mp hlast
      rcases name_of_mem_writes hwrite with hname | hname
      · left
        rw [hname]
        exact file.visible
      · right
        exact ⟨file.outcome.name, file.visible, hname⟩
    · exact hrecords.only key hbefore

theorem records_empty : Records json conf.krpMode [] ∅ := by
  constructor
  · intro name _
    simp [Released]
  · exact fun _ _ ↦ rfl
  · intro name isValid hreported
    cases hreported
  · intro key hkey
    cases hkey

/-- After every sequence of files the output directory holds what the outcomes say. -/
theorem records_directoryAfter
    (files : List (ProcessedFile sha256 json conf signKeys signCert)) :
    Records json conf.krpMode (files.map ProcessedFile.outcome) (directoryAfter files) := by
  induction files using List.reverseRecOn with
  | nil => exact records_empty
  | append_singleton files file ih =>
    have hdirectory : directoryAfter (files ++ [file]) =
        replay (directoryAfter files) file.writes := by
      rw [directoryAfter, List.flatMap_append, List.flatMap_singleton, replay_append]
      rfl
    rw [List.map_append, List.map_singleton, hdirectory]
    exact ih.process file

end Keysas.Out
