import Keysas.Out.OutputFiles

/-!
# What the files of a call leave

`output_files` returns at the first error, and the files behind it are not looked at any more. What
a single file needs to be processed to the end is `Completes`, in terms of its metadata and of what
its own calls return, and `Reached` says which files a call gets to.

`trace_outputFile` says what one file leaves when its report is made, step after step. The output
files among it are `outputsLeft`, each with the bytes that stand in it. `mem_outputsLeft_iff` says
for a whole call which these are: those of the files that the call gets to and opens an output file
for, with what the copy leaves there.
-/

set_option autoImplicit false
set_option relaxedAutoImplicit false

namespace Keysas.Out

open Crypto Keys Reports RustStd Runs Runs.Program

variable {schemes : Schemes} (sha256 : Sha256) (json : ReportJson) (conf : Configuration)
  (signKeys : Option (HybridKeyPair schemes)) (signCert : String) (callsOf : ℕ → OutputCalls)

/-! ### What a file needs -/

/-- The report of a file is made: the content is read, and the report is signed. -/
def MakesReport (f : FileData) (content : List UInt8) (report : Report) : Prop :=
  let calls := callsOf f.fd
  let md := recheckDigest sha256 content f.md
  calls.lseek = true ∧ calls.content = some content ∧
    bindAndSign sha256 json md (generateReportMetadata calls.now md) signKeys signCert =
      some report

/-- The report of a file with this content is to be written. -/
def writesReport (f : FileData) (content : List UInt8) : Bool :=
  conf.krpMode.shouldWrite (recheckDigest sha256 content f.md).isValid

/-- No call for the report returns an error, if it is to be written. -/
def reportCompletes (f : FileData) (content : List UInt8) : Bool :=
  !writesReport sha256 conf f content ||
    ((callsOf f.fd).openReport && (callsOf f.fd).writeReport)

/-- The output file of a file with this content is opened: the report is no obstacle, and the file
is released. -/
def opensOutput (f : FileData) (content : List UInt8) : Bool :=
  reportCompletes sha256 conf callsOf f content &&
    released conf (recheckDigest sha256 content f.md) && (callsOf f.fd).openOutput

/-- No call on a file returns an error. -/
def Completes (f : FileData) : Prop :=
  ∃ content report, MakesReport sha256 json signKeys signCert callsOf f content report ∧
    reportCompletes sha256 conf callsOf f content = true ∧
    (released conf (recheckDigest sha256 content f.md) = true →
      (callsOf f.fd).openOutput = true ∧ (callsOf f.fd).lseekCopy = true ∧
        (callsOf f.fd).copy.isOk = true)

/-- The call gets to the file: no call on a file before it returns an error. -/
def Reached (files : List FileData) (f : FileData) : Prop :=
  ∃ before after, files = before ++ f :: after ∧
    ∀ other ∈ before, Completes sha256 json conf signKeys signCert callsOf other

/-- A call opens an output file for a file with this content: the call gets to the file, the report
is made and no obstacle, the file is released, and its output file is opened. -/
structure OpensOutput (files : List FileData) (f : FileData) (content : List UInt8) : Prop where
  reached : Reached sha256 json conf signKeys signCert callsOf files f
  made : ∃ report, MakesReport sha256 json signKeys signCert callsOf f content report
  opens : opensOutput sha256 conf callsOf f content = true

/-! ### The output files that are left -/

/-- What stands in an output file that was opened: what the copy leaves, or nothing when the cursor
cannot be positioned for it. -/
def leftBytes (calls : OutputCalls) (content : List UInt8) : List UInt8 :=
  if calls.lseekCopy then copiedBytes content calls.copy else []

/-- What is written first, when it is written to an output file. -/
def writtenFirst : List Effect → List UInt8
  | .writeOutput _ bytes :: _ => bytes
  | _ => []

/-- The output files that are opened, with what is written to them next. Opening truncates. -/
def outputsLeft : List Effect → List (String × List UInt8)
  | [] => []
  | .createOutput path :: effects => (path, writtenFirst effects) :: outputsLeft effects
  | _ :: effects => outputsLeft effects

theorem writtenFirst_append {back : List Effect} (hback : writtenFirst back = [])
    (front : List Effect) : writtenFirst (front ++ back) = writtenFirst front := by
  rcases front with _ | ⟨effect, front⟩
  · exact hback
  · cases effect <;> rfl

/-- Assumes: what follows does not begin with what is written to an output file. -/
theorem outputsLeft_append {back : List Effect} (hback : writtenFirst back = [])
    (front : List Effect) :
    outputsLeft (front ++ back) = outputsLeft front ++ outputsLeft back := by
  induction front with
  | nil => rfl
  | cons effect front ih =>
    cases effect <;> simp [outputsLeft, ih, writtenFirst_append hback]

variable {sha256 json conf signKeys signCert callsOf}

/-! ### The steps of one file -/

section OneFile

variable {calls : OutputCalls} {report : Report} {content : List UInt8} {md : FileMetadata}

theorem ends_reportStep_iff :
    Ends (reportStep json conf calls report) md ↔
      (conf.krpMode.shouldWrite report.metadata.isValid = true →
        calls.openReport = true ∧ calls.writeReport = true) := by
  unfold reportStep
  split_ifs with hwritten
  · simp [hwritten]
  · simp [hwritten]

theorem ends_copyStep_iff :
    Ends (copyStep conf calls content) md ↔
      (released conf md = true →
        calls.openOutput = true ∧ calls.lseekCopy = true ∧ calls.copy.isOk = true) := by
  unfold copyStep
  rw [ends_get_bind_iff]
  split_ifs with hreleased
  · simp [hreleased]
  · simp [hreleased]

/-- What holds behind the report is what holds of the metadata before it, if no call for the report
returns an error. -/
theorem establishes_reportStep_iff {property : FileMetadata → Prop} :
    (Establishes (reportStep json conf calls report) md fun _ reached _ ↦ property reached) ↔
      ((conf.krpMode.shouldWrite report.metadata.isValid = true →
        calls.openReport = true ∧ calls.writeReport = true) → property md) := by
  constructor
  · intro hproperty hcompletes
    have hends : Ends (reportStep json conf calls report) md := ends_reportStep_iff.mpr hcompletes
    obtain ⟨value, hvalue⟩ := hends
    have hreached := hproperty value hvalue
    rwa [(establishes_reportStep report md value hvalue).1] at hreached
  · intro hproperty value hvalue
    show property _
    rw [(establishes_reportStep report md value hvalue).1]
    exact hproperty (ends_reportStep_iff.mp ⟨value, hvalue⟩)

/-- The report step leaves no output file. -/
theorem outputsLeft_reportStep :
    outputsLeft ((reportStep json conf calls report).run md).trace = [] := by
  unfold reportStep
  cases conf.krpMode.shouldWrite report.metadata.isValid <;> cases calls.openReport <;>
    cases calls.writeReport <;> simp [outputsLeft]

/-- The copy step leaves the output file, when the file is released and opened. -/
theorem outputsLeft_copyStep :
    outputsLeft ((copyStep conf calls content).run md).trace =
      if released conf md && calls.openOutput then
        [(push conf.sasOut md.filename, leftBytes calls content)]
      else [] := by
  unfold copyStep
  cases hreleased : released conf md <;> cases hopen : calls.openOutput <;>
    cases hseek : calls.lseekCopy <;>
    simp [hreleased, hseek, run_require, outputsLeft, writtenFirst, leftBytes]

theorem writtenFirst_copyStep :
    writtenFirst ((copyStep conf calls content).run md).trace = [] := by
  unfold copyStep
  cases hreleased : released conf md <;> cases hopen : calls.openOutput <;>
    simp [hreleased, writtenFirst]

end OneFile

/-! ### One file -/

section File

variable {f : FileData} {content : List UInt8} {report : Report}

/-- No call for the report returns an error exactly when the report step ends. -/
theorem reportCompletes_iff :
    reportCompletes sha256 conf callsOf f content = true ↔
      (conf.krpMode.shouldWrite (recheckDigest sha256 content f.md).isValid = true →
        (callsOf f.fd).openReport = true ∧ (callsOf f.fd).writeReport = true) := by
  rw [reportCompletes, writesReport, Bool.or_eq_true, Bool.not_eq_true', Bool.and_eq_true,
    ← Bool.not_eq_true, imp_iff_not_or]

/-- A file whose output file is opened is released. -/
theorem released_of_opensOutput (hopens : opensOutput sha256 conf callsOf f content = true) :
    released conf (recheckDigest sha256 content f.md) = true := by
  rw [opensOutput, Bool.and_eq_true, Bool.and_eq_true] at hopens
  exact hopens.1.2

/-- A file is processed to the end exactly when no call on it returns an error. -/
theorem ends_outputFile_iff :
    Ends (outputFile sha256 json conf signKeys signCert (callsOf f.fd)) f.md ↔
      Completes sha256 json conf signKeys signCert callsOf f := by
  simp only [outputFile, ends_require_bind_iff, ends_ofExcept_bind_iff, ends_modify_bind_iff,
    ends_get_bind_iff, ends_emit_bind_iff, okOr_eq_ok_iff]
  constructor
  · rintro ⟨hseek, content, hcontent, report, hsigned, hsteps⟩
    rw [ends_bind_iff, ends_reportStep_iff, establishes_reportStep_iff, ends_copyStep_iff,
      metadata_of_bindAndSign hsigned] at hsteps
    obtain ⟨hwrite, hcopy⟩ := hsteps
    exact ⟨content, report, ⟨hseek, hcontent, hsigned⟩, reportCompletes_iff.mpr hwrite,
      hcopy hwrite⟩
  · rintro ⟨content, report, ⟨hseek, hcontent, hsigned⟩, hwrite, hcopy⟩
    refine ⟨hseek, content, hcontent, report, hsigned, ?_⟩
    rw [ends_bind_iff, ends_reportStep_iff, establishes_reportStep_iff, ends_copyStep_iff,
      metadata_of_bindAndSign hsigned]
    exact ⟨reportCompletes_iff.mp hwrite, fun _ ↦ hcopy⟩

/-- A file leaves its report in the log, then what the report step leaves and, when that returns no
error, what the copy step leaves. Assumes: the report is made. -/
theorem trace_outputFile
    (hmakes : MakesReport sha256 json signKeys signCert callsOf f content report) :
    ((outputFile sha256 json conf signKeys signCert (callsOf f.fd)).run f.md).trace =
      .logReport report ::
        (((reportStep json conf (callsOf f.fd) report).run
          (recheckDigest sha256 content f.md)).trace ++
        if reportCompletes sha256 conf callsOf f content then
          ((copyStep conf (callsOf f.fd) content).run (recheckDigest sha256 content f.md)).trace
        else []) := by
  obtain ⟨hseek, hcontent, hsigned⟩ := hmakes
  have hends : Ends (reportStep json conf (callsOf f.fd) report)
      (recheckDigest sha256 content f.md) ↔
        reportCompletes sha256 conf callsOf f content = true := by
    rw [ends_reportStep_iff, metadata_of_bindAndSign hsigned, reportCompletes_iff]
    rfl
  simp only [outputFile, run_require_bind, hseek, if_true, hcontent, okOr, run_ofExcept_ok_bind,
    run_modify_bind, run_get_bind, hsigned, run_emit_bind, Ending.trace_after, trace_bind,
    List.singleton_append]
  by_cases hcompletes : reportCompletes sha256 conf callsOf f content = true
  · obtain ⟨value, hvalue⟩ := hends.mpr hcompletes
    rw [hvalue, (establishes_reportStep report _ value hvalue).1, if_pos hcompletes]
  · rw [if_neg hcompletes]
    cases hvalue : ((reportStep json conf (callsOf f.fd) report).run
        (recheckDigest sha256 content f.md)).value with
    | error error => rfl
    | ok value => exact absurd (hends.mp ⟨value, hvalue⟩) hcompletes

/-- A file writes nothing when its report is not made. -/
theorem trace_outputFile_eq_nil
    (hnone : ¬ ∃ content report,
      MakesReport sha256 json signKeys signCert callsOf f content report) :
    ((outputFile sha256 json conf signKeys signCert (callsOf f.fd)).run f.md).trace = [] := by
  unfold outputFile
  cases hseek : (callsOf f.fd).lseek with
  | false => rfl
  | true =>
    cases hcontent : (callsOf f.fd).content with
    | none => rfl
    | some content =>
      cases hsigned : bindAndSign sha256 json (recheckDigest sha256 content f.md)
          (generateReportMetadata (callsOf f.fd).now (recheckDigest sha256 content f.md)) signKeys
          signCert with
      | none => simp [okOr, hsigned]
      | some report => exact absurd ⟨content, report, hseek, hcontent, hsigned⟩ hnone

/-- A file leaves its output file when it is opened. Assumes: the report is made. -/
theorem outputsLeft_outputFile
    (hmakes : MakesReport sha256 json signKeys signCert callsOf f content report) :
    outputsLeft ((outputFile sha256 json conf signKeys signCert (callsOf f.fd)).run f.md).trace =
      if opensOutput sha256 conf callsOf f content then
        [(push conf.sasOut f.md.filename, leftBytes (callsOf f.fd) content)]
      else [] := by
  rw [trace_outputFile hmakes, opensOutput]
  show outputsLeft (_ ++ _) = _
  cases reportCompletes sha256 conf callsOf f content with
  | false =>
    rw [outputsLeft_append rfl, outputsLeft_reportStep]
    rfl
  | true =>
    rw [if_pos rfl, outputsLeft_append writtenFirst_copyStep, outputsLeft_reportStep,
      outputsLeft_copyStep, filename_recheckDigest, Bool.true_and, List.nil_append]

/-- What a file leaves begins with its report in the log. -/
theorem writtenFirst_outputFile :
    writtenFirst
      ((outputFile sha256 json conf signKeys signCert (callsOf f.fd)).run f.md).trace = [] := by
  by_cases hmade : ∃ content report,
      MakesReport sha256 json signKeys signCert callsOf f content report
  · obtain ⟨content, report, hmakes⟩ := hmade
    rw [trace_outputFile hmakes]
    rfl
  · rw [trace_outputFile_eq_nil hmade]
    rfl

/-- The output file that a file leaves is the one that is opened for it. -/
theorem mem_outputsLeft_outputFile_iff {left : String × List UInt8} :
    left ∈ outputsLeft
        ((outputFile sha256 json conf signKeys signCert (callsOf f.fd)).run f.md).trace ↔
      ∃ content, (∃ report, MakesReport sha256 json signKeys signCert callsOf f content report) ∧
        opensOutput sha256 conf callsOf f content = true ∧
        left = (push conf.sasOut f.md.filename, leftBytes (callsOf f.fd) content) := by
  constructor
  · intro hleft
    by_cases hmade : ∃ content report,
        MakesReport sha256 json signKeys signCert callsOf f content report
    · obtain ⟨content, report, hmakes⟩ := hmade
      rw [outputsLeft_outputFile hmakes] at hleft
      split_ifs at hleft with hopens
      · exact ⟨content, ⟨report, hmakes⟩, hopens, List.mem_singleton.mp hleft⟩
      · exact absurd hleft List.not_mem_nil
    · rw [trace_outputFile_eq_nil hmade] at hleft
      exact absurd hleft List.not_mem_nil
  · rintro ⟨content, ⟨report, hmakes⟩, hopens, rfl⟩
    rw [outputsLeft_outputFile hmakes, if_pos hopens]
    exact List.mem_singleton_self _

end File

/-! ### All files -/

/-- The call gets to its first file, and to the others when no call on the first returns an
error. -/
theorem reached_cons_iff {f other : FileData} {files : List FileData} :
    Reached sha256 json conf signKeys signCert callsOf (f :: files) other ↔
      other = f ∨ Completes sha256 json conf signKeys signCert callsOf f ∧
        Reached sha256 json conf signKeys signCert callsOf files other := by
  constructor
  · rintro ⟨_ | ⟨first, before⟩, after, hfiles, hcompletes⟩
    · exact .inl (List.cons.inj hfiles).1.symm
    · obtain ⟨rfl, rfl⟩ := List.cons.inj hfiles
      exact .inr ⟨hcompletes _ List.mem_cons_self, before, after, rfl,
        fun other hother ↦ hcompletes other (List.mem_cons_of_mem _ hother)⟩
  · rintro (rfl | ⟨hfirst, before, after, rfl, hcompletes⟩)
    · exact ⟨[], files, rfl, fun _ hother ↦ absurd hother List.not_mem_nil⟩
    · exact ⟨f :: before, after, rfl, List.forall_mem_cons.mpr ⟨hfirst, hcompletes⟩⟩

theorem Reached.mem {f : FileData} {files : List FileData}
    (hreached : Reached sha256 json conf signKeys signCert callsOf files f) : f ∈ files := by
  obtain ⟨before, after, rfl, -⟩ := hreached
  exact List.mem_append_right before List.mem_cons_self

/-- A call leaves what its first file leaves, and then what the others leave when no call on the
first returns an error. -/
theorem outputFiles_cons (f : FileData) (files : List FileData) :
    (outputFiles sha256 json conf signKeys signCert callsOf (f :: files)).1 =
        ((outputFile sha256 json conf signKeys signCert (callsOf f.fd)).run f.md).trace ++
          (outputFiles sha256 json conf signKeys signCert callsOf files).1 ∧
      Completes sha256 json conf signKeys signCert callsOf f ∨
    (outputFiles sha256 json conf signKeys signCert callsOf (f :: files)).1 =
        ((outputFile sha256 json conf signKeys signCert (callsOf f.fd)).run f.md).trace ∧
      ¬ Completes sha256 json conf signKeys signCert callsOf f := by
  rw [outputFiles, ← ends_outputFile_iff]
  unfold Ends
  rcases (outputFile sha256 json conf signKeys signCert (callsOf f.fd)).run f.md with
    ⟨trace, reached, error | value⟩
  · exact .inr ⟨rfl, by simp⟩
  · exact .inl ⟨rfl, value, rfl⟩

theorem writtenFirst_outputFiles (files : List FileData) :
    writtenFirst (outputFiles sha256 json conf signKeys signCert callsOf files).1 = [] := by
  induction files with
  | nil => rfl
  | cons first files ih =>
    rcases @outputFiles_cons schemes sha256 json conf signKeys signCert callsOf first files with
      ⟨htrace, -⟩ | ⟨htrace, -⟩
    · rw [htrace, writtenFirst_append ih, writtenFirst_outputFile]
    · rw [htrace, writtenFirst_outputFile]

/-- The output files that a call leaves are those that the files leave which it gets to. -/
theorem mem_outputsLeft_outputFiles_iff {files : List FileData} {left : String × List UInt8} :
    left ∈ outputsLeft (outputFiles sha256 json conf signKeys signCert callsOf files).1 ↔
      ∃ f, Reached sha256 json conf signKeys signCert callsOf files f ∧
        left ∈ outputsLeft
          ((outputFile sha256 json conf signKeys signCert (callsOf f.fd)).run f.md).trace := by
  induction files with
  | nil =>
    refine iff_of_false List.not_mem_nil ?_
    rintro ⟨f, hreached, -⟩
    exact absurd hreached.mem List.not_mem_nil
  | cons first files ih =>
    simp only [reached_cons_iff, or_and_right, exists_or, exists_eq_left, and_assoc]
    rcases @outputFiles_cons schemes sha256 json conf signKeys signCert callsOf first files with
      ⟨htrace, hcompletes⟩ | ⟨htrace, hfails⟩
    · simp only [htrace, outputsLeft_append (writtenFirst_outputFiles files), List.mem_append, ih,
        hcompletes, true_and]
    · simp only [htrace, hfails, false_and, exists_false, or_false]

/-- The output files that a call leaves are those that it opens, with what the copies leave. -/
theorem mem_outputsLeft_iff {files : List FileData} {left : String × List UInt8} :
    left ∈ outputsLeft (outputFiles sha256 json conf signKeys signCert callsOf files).1 ↔
      ∃ f content, OpensOutput sha256 json conf signKeys signCert callsOf files f content ∧
        left = (push conf.sasOut f.md.filename, leftBytes (callsOf f.fd) content) := by
  rw [mem_outputsLeft_outputFiles_iff]
  simp only [mem_outputsLeft_outputFile_iff]
  constructor
  · rintro ⟨f, hreached, content, hmade, hopens, hleft⟩
    exact ⟨f, content, ⟨hreached, hmade, hopens⟩, hleft⟩
  · rintro ⟨f, content, ⟨hreached, hmade, hopens⟩, hleft⟩
    exact ⟨f, hreached, content, hmade, hopens, hleft⟩

end Keysas.Out
