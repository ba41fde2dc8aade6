import Keysas.Out.FileEffects
import Keysas.Out.OutputDirectory
import Keysas.Reports.RoundTrip

/-!
# Files that the output daemon handles together

An error drops the files behind it, and files of one name are put under the same two names of the
output directory. `HandlesEach` says that a call leaves under the names of each of its files what
the file leaves there alone, whatever the directory held before, and that every file with a failing
verdict has its report there when reports of failing files are wanted.

What a single file leaves alone is `ReportFile` and `DataFile`, which speak of its metadata and of
what its own calls return. With them `handlesEach_iff` says when the files of a call are handled
independently of each other: files of one name leave the same, for every file that leaves something
the call gets to a file of its name, and no call that a report of a failing file needs returns an
error. The name of a report is five bytes longer than that of its file, so that a file system opens
none for the longest names that files can have (`openReport_of_long_name`).
-/

set_option autoImplicit false
set_option relaxedAutoImplicit false

namespace Keysas.Out

open Crypto Keys Reports RustStd Runs Runs.Program Store

variable {schemes : Schemes} (sha256 : Sha256) (json : ReportJson) (conf : Configuration)
  (signKeys : Option (HybridKeyPair schemes)) (signCert : String) (callsOf : ℕ → OutputCalls)

/-! ### What a call leaves -/

/-- What a call writes to the output directory. -/
def writesOfAll (files : List FileData) : List (String × List UInt8) :=
  (outputFiles sha256 json conf signKeys signCert callsOf files).1.filterMap Effect.write

/-- The output directory after a call. -/
def directoryFrom (directory : OutputDirectory) (files : List FileData) : OutputDirectory :=
  replay directory (writesOfAll sha256 json conf signKeys signCert callsOf files)

/-- `NAME_MAX`: the largest number of bytes in a name. -/
def nameMax : ℕ := 255

/-- The verdict on a file: that of its metadata after the second check of the digest, or of its
metadata alone when the content cannot be read. -/
def verdict (f : FileData) : Bool :=
  match (callsOf f.fd).content with
  | some content => (recheckDigest sha256 content f.md).isValid
  | none => f.md.isValid

/-- The verdict on a file is failing, the reports of failing files are to be written, and the name
is one that a file can have. -/
def WantsFailingReport (f : FileData) : Prop :=
  verdict sha256 callsOf f = false ∧ (conf.krpMode = .always ∨ conf.krpMode = .failOnly) ∧
    f.md.filename.utf8ByteSize ≤ nameMax

/-! ### What a file needs -/

/-- What stands under the name of the report when a file is processed alone: the report, or nothing
when it is opened and cannot be written. -/
def ReportFile (f : FileData) (bytes : List UInt8) : Prop :=
  ∃ content report, MakesReport sha256 json signKeys signCert callsOf f content report ∧
    writesReport sha256 conf f content = true ∧ (callsOf f.fd).openReport = true ∧
    bytes = if (callsOf f.fd).writeReport then reportBytes json report else []

/-- What stands under the name of a file when it is processed alone: what the copy leaves, or
nothing when the cursor cannot be positioned for it. -/
def DataFile (f : FileData) (bytes : List UInt8) : Prop :=
  ∃ content report, MakesReport sha256 json signKeys signCert callsOf f content report ∧
    opensOutput sha256 conf callsOf f content = true ∧
    bytes = leftBytes (callsOf f.fd) content

/-- A file leaves something in the output directory alone. -/
def Produces (f : FileData) : Prop :=
  ∃ bytes, ReportFile sha256 json conf signKeys signCert callsOf f bytes ∨
    DataFile sha256 json conf signKeys signCert callsOf f bytes

/-- Two files leave the same alone. -/
def LeavesSame (f other : FileData) : Prop :=
  ∀ bytes,
    (ReportFile sha256 json conf signKeys signCert callsOf f bytes ↔
      ReportFile sha256 json conf signKeys signCert callsOf other bytes) ∧
    (DataFile sha256 json conf signKeys signCert callsOf f bytes ↔
      DataFile sha256 json conf signKeys signCert callsOf other bytes)

/-- The report of a file with a failing verdict is made and written, if it is wanted. -/
def FailingReportCompletes (f : FileData) : Prop :=
  WantsFailingReport sha256 conf callsOf f →
    ∃ content report, MakesReport sha256 json signKeys signCert callsOf f content report ∧
      (callsOf f.fd).openReport = true ∧ (callsOf f.fd).writeReport = true

/-- A call leaves under the two names of each file what the file leaves there alone, and the report
of every failing file stands under its name. -/
structure HandlesEach (files : List FileData) : Prop where
  alone : ∀ directory, ∀ f ∈ files, ∀ name ∈ [f.md.filename, reportName f.md.filename],
    (directoryFrom sha256 json conf signKeys signCert callsOf directory files).lookup name =
      (directoryFrom sha256 json conf signKeys signCert callsOf directory [f]).lookup name
  reported : ∀ directory, ∀ f ∈ files, WantsFailingReport sha256 conf callsOf f →
    ∃ content report, MakesReport sha256 json signKeys signCert callsOf f content report ∧
      (directoryFrom sha256 json conf signKeys signCert callsOf directory files).lookup
        (reportName f.md.filename) = some (reportBytes json report)

variable {sha256 json conf signKeys signCert callsOf}

/-! ### What a file leaves alone -/

/-- What is written when a file of the output directory is opened, if it is, and written, if it
is. -/
def opened (name : String) (opens written : Bool) (bytes : List UInt8) :
    List (String × List UInt8) :=
  if opens then (name, []) :: (if written then [(name, bytes)] else []) else []

theorem lastWrite_opened (name : String) (opens written : Bool) (bytes : List UInt8)
    (key : String) :
    lastWrite (opened name opens written bytes) key =
      if name = key ∧ opens = true then some (if written then bytes else []) else none := by
  unfold opened
  by_cases hname : name = key <;> cases opens <;> cases written <;> simp [lastWrite, hname]

/-- The report step writes the report, when it is to be written and opened. -/
theorem write_reportStep {calls : OutputCalls} {report : Report} {md : FileMetadata}
    (hvisible : VisibleName md.filename) :
    ((reportStep json conf calls report).run md).trace.filterMap Effect.write =
      opened (reportName md.filename)
        (conf.krpMode.shouldWrite report.metadata.isValid && calls.openReport) calls.writeReport
        (reportBytes json report) := by
  have hpath := fileName_push_report hvisible conf.sasOut
  unfold reportStep
  cases hwritten : conf.krpMode.shouldWrite report.metadata.isValid <;>
    cases hopen : calls.openReport <;> cases hwrite : calls.writeReport <;>
    simp [opened, Effect.write, hpath, reportBytes]

/-- The copy step writes the file, when it is released and opened. -/
theorem write_copyStep {calls : OutputCalls} {content : List UInt8} {md : FileMetadata}
    (hvisible : VisibleName md.filename) :
    ((copyStep conf calls content).run md).trace.filterMap Effect.write =
      opened md.filename (released conf md && calls.openOutput) calls.lseekCopy
        (copiedBytes content calls.copy) := by
  have hpath := fileName_push_visible hvisible conf.sasOut
  unfold copyStep
  cases hreleased : released conf md <;> cases hopen : calls.openOutput <;>
    cases hseek : calls.lseekCopy <;> simp [opened, Effect.write, hpath, hreleased, run_require]

section File

variable {f : FileData} {content : List UInt8} {report : Report}

/-- What a file writes: its report, when it is to be written, and then its copy, when the report is
no obstacle and the file is released. Assumes: the report is made. -/
theorem writes_outputFile (hvisible : VisibleName f.md.filename)
    (hmakes : MakesReport sha256 json signKeys signCert callsOf f content report) :
    ((outputFile sha256 json conf signKeys signCert (callsOf f.fd)).run f.md).trace.filterMap
        Effect.write =
      opened (reportName f.md.filename)
          (writesReport sha256 conf f content && (callsOf f.fd).openReport)
          (callsOf f.fd).writeReport (reportBytes json report) ++
        opened f.md.filename (opensOutput sha256 conf callsOf f content) (callsOf f.fd).lseekCopy
          (copiedBytes content (callsOf f.fd).copy) := by
  have hvalid : report.metadata.isValid = (recheckDigest sha256 content f.md).isValid := by
    rw [metadata_of_bindAndSign hmakes.2.2]
    rfl
  have hchecked : VisibleName (recheckDigest sha256 content f.md).filename := by
    rw [filename_recheckDigest]
    exact hvisible
  have hfront := @write_reportStep json conf (callsOf f.fd) report _ hchecked
  have hback := @write_copyStep conf (callsOf f.fd) content _ hchecked
  rw [filename_recheckDigest, hvalid] at hfront
  rw [filename_recheckDigest] at hback
  rw [trace_outputFile hmakes, List.filterMap_cons, List.filterMap_append, hfront, opensOutput]
  refine congrArg (opened _ _ _ _ ++ ·) ?_
  split_ifs with hcompletes
  · rw [hback, hcompletes, Bool.true_and]
  · rw [Bool.eq_false_iff.mpr hcompletes, Bool.false_and, Bool.false_and]
    rfl

theorem writesOfAll_singleton :
    writesOfAll sha256 json conf signKeys signCert callsOf [f] =
      ((outputFile sha256 json conf signKeys signCert (callsOf f.fd)).run f.md).trace.filterMap
        Effect.write := by
  rw [writesOfAll, outputFiles]
  rcases (outputFile sha256 json conf signKeys signCert (callsOf f.fd)).run f.md with
    ⟨trace, reached, error | value⟩
  · rfl
  · exact congrArg (List.filterMap Effect.write) (List.append_nil trace)

/-- What a file leaves alone under a name: its report or its copy, if that is their name. Assumes:
the report is made. -/
theorem lastWrite_writesOfAll_singleton (hvisible : VisibleName f.md.filename)
    (hmakes : MakesReport sha256 json signKeys signCert callsOf f content report) (key : String) :
    lastWrite (writesOfAll sha256 json conf signKeys signCert callsOf [f]) key =
      if f.md.filename = key then
        if opensOutput sha256 conf callsOf f content then
          some (leftBytes (callsOf f.fd) content)
        else none
      else if reportName f.md.filename = key then
        if writesReport sha256 conf f content && (callsOf f.fd).openReport then
          some (if (callsOf f.fd).writeReport then reportBytes json report else [])
        else none
      else none := by
  rw [writesOfAll_singleton, writes_outputFile hvisible hmakes, lastWrite_append,
    lastWrite_opened, lastWrite_opened]
  by_cases hname : f.md.filename = key
  · subst hname
    have hreport : reportName f.md.filename ≠ f.md.filename := (ne_reportName hvisible _).symm
    simp [hreport, leftBytes]
  · simp only [hname, false_and, if_false, Option.none_or, ite_and]

/-- A file that leaves something has a report. -/
theorem exists_makesReport_of_lastWrite {key : String} {bytes : List UInt8}
    (hlast : lastWrite (writesOfAll sha256 json conf signKeys signCert callsOf [f]) key =
      some bytes) :
    ∃ content report, MakesReport sha256 json signKeys signCert callsOf f content report := by
  by_contra hnone
  rw [writesOfAll_singleton, trace_outputFile_eq_nil hnone] at hlast
  cases hlast

theorem lastWrite_filename_iff (hvisible : VisibleName f.md.filename) {bytes : List UInt8} :
    lastWrite (writesOfAll sha256 json conf signKeys signCert callsOf [f]) f.md.filename =
        some bytes ↔
      DataFile sha256 json conf signKeys signCert callsOf f bytes := by
  constructor
  · intro hlast
    obtain ⟨content, report, hmakes⟩ := exists_makesReport_of_lastWrite hlast
    rw [lastWrite_writesOfAll_singleton hvisible hmakes, if_pos rfl,
      Option.ite_none_right_eq_some, Option.some.injEq] at hlast
    exact ⟨content, report, hmakes, hlast.1, hlast.2.symm⟩
  · rintro ⟨content, report, hmakes, hopens, rfl⟩
    rw [lastWrite_writesOfAll_singleton hvisible hmakes, if_pos rfl, if_pos hopens]

theorem lastWrite_reportName_iff (hvisible : VisibleName f.md.filename) {bytes : List UInt8} :
    lastWrite (writesOfAll sha256 json conf signKeys signCert callsOf [f])
        (reportName f.md.filename) = some bytes ↔
      ReportFile sha256 json conf signKeys signCert callsOf f bytes := by
  have hne : f.md.filename ≠ reportName f.md.filename := ne_reportName hvisible _
  constructor
  · intro hlast
    obtain ⟨content, report, hmakes⟩ := exists_makesReport_of_lastWrite hlast
    rw [lastWrite_writesOfAll_singleton hvisible hmakes, if_neg hne, if_pos rfl,
      Option.ite_none_right_eq_some, Option.some.injEq, Bool.and_eq_true] at hlast
    obtain ⟨⟨hwanted, hopen⟩, hbytes⟩ := hlast
    exact ⟨content, report, hmakes, hwanted, hopen, hbytes.symm⟩
  · rintro ⟨content, report, hmakes, hwanted, hopen, rfl⟩
    rw [lastWrite_writesOfAll_singleton hvisible hmakes, if_neg hne, if_pos rfl, hwanted, hopen]
    rfl

/-- A file leaves something under its two names only. -/
theorem name_of_lastWrite (hvisible : VisibleName f.md.filename) {key : String}
    {bytes : List UInt8}
    (hlast : lastWrite (writesOfAll sha256 json conf signKeys signCert callsOf [f]) key =
      some bytes) : f.md.filename = key ∨ reportName f.md.filename = key := by
  obtain ⟨content, report, hmakes⟩ := exists_makesReport_of_lastWrite hlast
  rw [lastWrite_writesOfAll_singleton hvisible hmakes] at hlast
  by_contra! hneither
  rw [if_neg hneither.1, if_neg hneither.2] at hlast
  cases hlast

end File

/-! ### All files -/

/-- A call writes what its first file writes, and then what the others write when no call on the
first returns an error. -/
theorem writesOfAll_cons (f : FileData) (files : List FileData) :
    writesOfAll sha256 json conf signKeys signCert callsOf (f :: files) =
        writesOfAll sha256 json conf signKeys signCert callsOf [f] ++
          writesOfAll sha256 json conf signKeys signCert callsOf files ∧
      Completes sha256 json conf signKeys signCert callsOf f ∨
    writesOfAll sha256 json conf signKeys signCert callsOf (f :: files) =
        writesOfAll sha256 json conf signKeys signCert callsOf [f] ∧
      ¬ Completes sha256 json conf signKeys signCert callsOf f := by
  rw [writesOfAll_singleton]
  refine (outputFiles_cons f files).imp (And.imp_left fun htrace ↦ ?_)
    (And.imp_left fun htrace ↦ ?_)
  · rw [writesOfAll, htrace, List.filterMap_append]
    rfl
  · rw [writesOfAll, htrace]

/-- What a call leaves under a name is what one of the files it gets to leaves there alone. -/
theorem exists_reached_of_lastWrite {files : List FileData} {key : String} {bytes : List UInt8}
    (hlast : lastWrite (writesOfAll sha256 json conf signKeys signCert callsOf files) key =
      some bytes) :
    ∃ f, Reached sha256 json conf signKeys signCert callsOf files f ∧
      lastWrite (writesOfAll sha256 json conf signKeys signCert callsOf [f]) key = some bytes := by
  induction files with
  | nil => cases hlast
  | cons first files ih =>
    simp only [reached_cons_iff]
    rcases writesOfAll_cons first files with ⟨hwrites, hcompletes⟩ | ⟨hwrites, -⟩
    · rw [hwrites, lastWrite_append, Option.or_eq_some_iff] at hlast
      rcases hlast with hlater | ⟨-, hfirst⟩
      · obtain ⟨f, hreached, hleft⟩ := ih hlater
        exact ⟨f, .inr ⟨hcompletes, hreached⟩, hleft⟩
      · exact ⟨first, .inl rfl, hfirst⟩
    · exact ⟨first, .inl rfl, hwrites ▸ hlast⟩

/-- A call leaves something under the names under which a file that it gets to leaves something. -/
theorem isSome_lastWrite_of_reached {files : List FileData} {f : FileData} {key : String}
    (hreached : Reached sha256 json conf signKeys signCert callsOf files f)
    (hleft : (lastWrite (writesOfAll sha256 json conf signKeys signCert callsOf [f]) key).isSome =
      true) :
    (lastWrite (writesOfAll sha256 json conf signKeys signCert callsOf files) key).isSome =
      true := by
  induction files with
  | nil => exact absurd hreached.mem List.not_mem_nil
  | cons first files ih =>
    rcases reached_cons_iff.mp hreached with rfl | ⟨hfirst, hlater⟩
    · rcases writesOfAll_cons f files with ⟨hwrites, -⟩ | ⟨hwrites, -⟩
      · rw [hwrites, lastWrite_append, Option.isSome_or, hleft, Bool.or_true]
      · rw [hwrites]
        exact hleft
    · rcases writesOfAll_cons first files with ⟨hwrites, -⟩ | ⟨-, hfails⟩
      · rw [hwrites, lastWrite_append, Option.isSome_or, ih hlater, Bool.true_or]
      · exact absurd hfirst hfails

/-- Files of one name leave the same alone exactly when the latest writes under their two names
are. -/
theorem leavesSame_iff {f other : FileData} (hvisible : VisibleName f.md.filename)
    (hname : other.md.filename = f.md.filename) :
    LeavesSame sha256 json conf signKeys signCert callsOf f other ↔
      ∀ key ∈ [f.md.filename, reportName f.md.filename],
        lastWrite (writesOfAll sha256 json conf signKeys signCert callsOf [other]) key =
          lastWrite (writesOfAll sha256 json conf signKeys signCert callsOf [f]) key := by
  have hother : VisibleName other.md.filename := hname ▸ hvisible
  have hdata := fun bytes ↦ @lastWrite_filename_iff schemes sha256 json conf signKeys signCert
    callsOf other hother bytes
  have hreport := fun bytes ↦ @lastWrite_reportName_iff schemes sha256 json conf signKeys signCert
    callsOf other hother bytes
  rw [hname] at hdata hreport
  rw [List.forall_mem_cons, List.forall_mem_singleton, Option.ext_iff, Option.ext_iff]
  simp only [hdata, hreport, lastWrite_filename_iff hvisible, lastWrite_reportName_iff hvisible]
  constructor
  · exact fun hsame ↦ ⟨fun bytes ↦ (hsame bytes).2.symm, fun bytes ↦ (hsame bytes).1.symm⟩
  · exact fun hsame bytes ↦ ⟨(hsame.2 bytes).symm, (hsame.1 bytes).symm⟩

/-- Files of one name are those that leave something under the same names. -/
theorem filename_eq_of_lastWrite {f other : FileData} (hvisible : VisibleName f.md.filename)
    (hother : VisibleName other.md.filename) {key : String}
    (hkey : key ∈ [f.md.filename, reportName f.md.filename]) {bytes : List UInt8}
    (hlast : lastWrite (writesOfAll sha256 json conf signKeys signCert callsOf [other]) key =
      some bytes) : other.md.filename = f.md.filename := by
  rcases List.mem_pair.mp hkey with rfl | rfl <;>
    rcases name_of_lastWrite hother hlast with hname | hname
  · exact hname
  · exact absurd hname.symm (ne_reportName hvisible _)
  · exact absurd hname (ne_reportName hother _)
  · exact reportName_injective hname

/-- A file leaves something under one of its names exactly when it leaves a report or a copy. -/
theorem produces_of_lastWrite {f : FileData} (hvisible : VisibleName f.md.filename) {key : String}
    (hkey : key ∈ [f.md.filename, reportName f.md.filename]) {bytes : List UInt8}
    (hlast : lastWrite (writesOfAll sha256 json conf signKeys signCert callsOf [f]) key =
      some bytes) : Produces sha256 json conf signKeys signCert callsOf f := by
  rcases List.mem_pair.mp hkey with rfl | rfl
  · exact ⟨bytes, .inr ((lastWrite_filename_iff hvisible).mp hlast)⟩
  · exact ⟨bytes, .inl ((lastWrite_reportName_iff hvisible).mp hlast)⟩

/-- A call leaves under the names of each file what the file leaves there alone if and only if files
of one name leave the same, and the call gets, for each file that leaves something, to a file of its
name. -/
theorem lastWrite_eq_alone_iff {files : List FileData}
    (hvisible : ∀ f ∈ files, VisibleName f.md.filename) :
    (∀ f ∈ files, ∀ key ∈ [f.md.filename, reportName f.md.filename],
        lastWrite (writesOfAll sha256 json conf signKeys signCert callsOf files) key =
          lastWrite (writesOfAll sha256 json conf signKeys signCert callsOf [f]) key) ↔
      (∀ f ∈ files, ∀ other ∈ files, other.md.filename = f.md.filename →
        LeavesSame sha256 json conf signKeys signCert callsOf f other) ∧
      ∀ f ∈ files, Produces sha256 json conf signKeys signCert callsOf f →
        ∃ other, Reached sha256 json conf signKeys signCert callsOf files other ∧
          other.md.filename = f.md.filename := by
  constructor
  · intro halone
    refine ⟨fun f hf other hother hname ↦ ?_, fun f hf hproduces ↦ ?_⟩
    · rw [leavesSame_iff (hvisible f hf) hname]
      intro key hkey
      rw [← halone f hf key hkey, ← halone other hother key (hname ▸ hkey)]
    · obtain ⟨key, hkey, bytes, hleft⟩ : ∃ key ∈ [f.md.filename, reportName f.md.filename],
          ∃ bytes, lastWrite (writesOfAll sha256 json conf signKeys signCert callsOf [f]) key =
            some bytes := by
        obtain ⟨bytes, hreport | hdata⟩ := hproduces
        · exact ⟨_, List.mem_pair.mpr (.inr rfl), bytes,
            (lastWrite_reportName_iff (hvisible f hf)).mpr hreport⟩
        · exact ⟨_, List.mem_pair.mpr (.inl rfl), bytes,
            (lastWrite_filename_iff (hvisible f hf)).mpr hdata⟩
      rw [← halone f hf key hkey] at hleft
      obtain ⟨other, hreached, hother⟩ := exists_reached_of_lastWrite hleft
      exact ⟨other, hreached,
        filename_eq_of_lastWrite (hvisible f hf) (hvisible other hreached.mem) hkey hother⟩
  · rintro ⟨hsame, hreaches⟩ f hf key hkey
    cases hall : lastWrite (writesOfAll sha256 json conf signKeys signCert callsOf files) key with
    | some bytes =>
      obtain ⟨other, hreached, hother⟩ := exists_reached_of_lastWrite hall
      have hname :=
        filename_eq_of_lastWrite (hvisible f hf) (hvisible other hreached.mem) hkey hother
      rw [← (leavesSame_iff (hvisible f hf) hname).mp (hsame f hf other hreached.mem hname) key
        hkey, hother]
    | none =>
      cases hleft : lastWrite (writesOfAll sha256 json conf signKeys signCert callsOf [f]) key with
      | none => rfl
      | some bytes =>
        obtain ⟨other, hreached, hname⟩ :=
          hreaches f hf (produces_of_lastWrite (hvisible f hf) hkey hleft)
        have hother := (leavesSame_iff (hvisible f hf) hname).mp
          (hsame f hf other hreached.mem hname) key hkey
        have hsome : (lastWrite (writesOfAll sha256 json conf signKeys signCert callsOf files)
            key).isSome = true :=
          isSome_lastWrite_of_reached hreached (by rw [hother, hleft]; rfl)
        rw [hall] at hsome
        cases hsome

/-- The text of a report is not empty. -/
theorem reportBytes_ne_nil (json : ReportJson) (report : Report) :
    reportBytes json report ≠ [] := by
  rw [reportBytes, Wire.Bincode.utf8_append]
  exact List.append_ne_nil_of_right_ne_nil _ (by decide)

/-- The report of a failing file is wanted in the modes `Always` and `FailOnly`. -/
theorem shouldWrite_false_iff {mode : KrpMode} :
    mode.shouldWrite false = true ↔ mode = .always ∨ mode = .failOnly := by
  cases mode <;> simp [KrpMode.shouldWrite]

/-- A file with a failing verdict leaves its report alone, if that is wanted, exactly when no call
for it returns an error. -/
theorem failingReportCompletes_iff {f : FileData} (hvisible : VisibleName f.md.filename) :
    FailingReportCompletes sha256 json conf signKeys signCert callsOf f ↔
      (WantsFailingReport sha256 conf callsOf f →
        ∃ content report, MakesReport sha256 json signKeys signCert callsOf f content report ∧
          lastWrite (writesOfAll sha256 json conf signKeys signCert callsOf [f])
            (reportName f.md.filename) = some (reportBytes json report)) := by
  refine imp_congr_right fun hwants ↦ exists_congr fun content ↦ exists_congr fun report ↦
    and_congr_right fun hmakes ↦ ?_
  rw [lastWrite_reportName_iff hvisible]
  obtain ⟨hfailing, hmode, -⟩ := hwants
  constructor
  · rintro ⟨hopen, hwrite⟩
    have hinvalid : (recheckDigest sha256 content f.md).isValid = false := by
      rw [verdict, hmakes.2.1] at hfailing
      exact hfailing
    refine ⟨content, report, hmakes, ?_, hopen, by rw [if_pos hwrite]⟩
    rw [writesReport, hinvalid]
    exact shouldWrite_false_iff.mpr hmode
  · rintro ⟨other, otherReport, hother, -, hopen, hbytes⟩
    refine ⟨hopen, ?_⟩
    by_contra hwrite
    rw [if_neg hwrite] at hbytes
    exact reportBytes_ne_nil json report hbytes

/-- When the files are handled independently, no call for a wanted report of a failing file returns
an error. -/
theorem HandlesEach.failingReportCompletes {files : List FileData}
    (hhandles : HandlesEach sha256 json conf signKeys signCert callsOf files) {f : FileData}
    (hf : f ∈ files) (hvisible : VisibleName f.md.filename) :
    FailingReportCompletes sha256 json conf signKeys signCert callsOf f := by
  rw [failingReportCompletes_iff hvisible]
  intro hwants
  have hname : reportName f.md.filename ∈ [f.md.filename, reportName f.md.filename] :=
    List.mem_pair.mpr (.inr rfl)
  have halone := hhandles.alone ∅ f hf _ hname
  obtain ⟨content, report, hmakes, hlookup⟩ := hhandles.reported ∅ f hf hwants
  have hnone : (∅ : OutputDirectory).lookup (reportName f.md.filename) = none := rfl
  rw [halone, directoryFrom, lookup_replay, hnone, Option.or_none] at hlookup
  exact ⟨content, report, hmakes, hlookup⟩

/-- The files of a call are handled independently of each other and every failing file has its
report if and only if files of one name leave the same, the call gets, for each file that leaves
something, to a file of its name, and no call that a wanted report of a failing file needs returns
an error. Assumes: the files have names under which `keysas-in` sends files. -/
theorem handlesEach_iff (sha256 : Sha256) (json : ReportJson) (conf : Configuration)
    (signKeys : Option (HybridKeyPair schemes)) (signCert : String) (callsOf : ℕ → OutputCalls)
    (files : List FileData) (hvisible : ∀ f ∈ files, VisibleName f.md.filename) :
    HandlesEach sha256 json conf signKeys signCert callsOf files ↔
      (∀ f ∈ files, ∀ other ∈ files, other.md.filename = f.md.filename →
        LeavesSame sha256 json conf signKeys signCert callsOf f other) ∧
      (∀ f ∈ files, Produces sha256 json conf signKeys signCert callsOf f →
        ∃ other, Reached sha256 json conf signKeys signCert callsOf files other ∧
          other.md.filename = f.md.filename) ∧
      ∀ f ∈ files, FailingReportCompletes sha256 json conf signKeys signCert callsOf f := by
  constructor
  · intro hhandles
    have hlast : ∀ f ∈ files, ∀ key ∈ [f.md.filename, reportName f.md.filename],
        lastWrite (writesOfAll sha256 json conf signKeys signCert callsOf files) key =
          lastWrite (writesOfAll sha256 json conf signKeys signCert callsOf [f]) key :=
      fun f hf key hkey ↦ forall_lookup_replay_eq_iff.mp fun directory ↦
        hhandles.alone directory f hf key hkey
    obtain ⟨hsame, hreaches⟩ := (lastWrite_eq_alone_iff hvisible).mp hlast
    exact ⟨hsame, hreaches, fun f hf ↦ hhandles.failingReportCompletes hf (hvisible f hf)⟩
  · rintro ⟨hsame, hreaches, hreports⟩
    have hlast := (lastWrite_eq_alone_iff hvisible).mpr ⟨hsame, hreaches⟩
    refine ⟨fun directory f hf key hkey ↦ ?_, fun directory f hf hwants ↦ ?_⟩
    · exact forall_lookup_replay_eq_iff.mpr (hlast f hf key hkey) directory
    · obtain ⟨content, report, hmakes, hleft⟩ :=
        (failingReportCompletes_iff (hvisible f hf)).mp (hreports f hf) hwants
      refine ⟨content, report, hmakes, ?_⟩
      rw [directoryFrom, lookup_replay, hlast f hf _ (List.mem_pair.mpr (.inr rfl)), hleft,
        Option.some_or]

/-! ### Long names -/

/-- The file system opens names of at most `nameMax` bytes only. -/
structure RespectsNameMax (calls : OutputCalls) (filename : String) : Prop where
  report : calls.openReport = true → (reportName filename).utf8ByteSize ≤ nameMax
  output : calls.openOutput = true → filename.utf8ByteSize ≤ nameMax

/-- The name of a report has five bytes more than that of its file. -/
theorem utf8ByteSize_reportName (filename : String) :
    (reportName filename).utf8ByteSize = filename.utf8ByteSize + 5 := by
  have hdot : String.utf8ByteSize "." = 1 := rfl
  have hkrp : String.utf8ByteSize "krp" = 3 := rfl
  rw [reportName, appendExt, String.utf8ByteSize_append, String.utf8ByteSize_append,
    String.utf8ByteSize_append, hdot, hkrp]
  omega

/-- The report about a file with a name of more than 250 bytes cannot be opened. Assumes: the file
system respects `nameMax`. -/
theorem openReport_of_long_name {calls : OutputCalls} {filename : String}
    (hcalls : RespectsNameMax calls filename) (hlong : 250 < filename.utf8ByteSize) :
    calls.openReport = false := by
  rw [Bool.eq_false_iff]
  intro hopen
  have hlength := hcalls.report hopen
  rw [utf8ByteSize_reportName, nameMax] at hlength
  omega

/-! ### Files that are not handled independently -/

/-- A file with a failing verdict under a name. -/
def corruptedFile (fd : ℕ) (name : String) : FileData :=
  ⟨fd, { stationFile with filename := name, isCorrupted := true }⟩

/-- A file with a passing verdict and a content. -/
def cleanFile (fd : ℕ) (content : List UInt8) : FileData :=
  ⟨fd, { stationFile with digest := paddingSha256.hexDigest content }⟩

/-- The calls on a file. -/
def callsWith (lseek openReport : Bool) (content : Option (List UInt8)) : OutputCalls where
  lseek := lseek
  content := content
  now := "12-3-2025_10-0-0-0"
  openReport := openReport
  writeReport := true
  openOutput := true
  lseekCopy := true
  copy := .complete

/-- Every report is written. -/
def alwaysConf : Configuration where
  sasOut := "/var/local/out/"
  yaraClean := false
  krpMode := .always

/-- A name of 251 bytes. -/
def longName : String :=
  String.ofList (List.replicate 251 'a')

/-- Files are sent under the names of letters `a`. -/
theorem visibleName_replicate (count : ℕ) :
    VisibleName (String.ofList (List.replicate (count + 1) 'a')) := by
  have honly : ∀ character ∈ (String.ofList (List.replicate (count + 1) 'a')).toList,
      character = 'a' := by
    rw [String.toList_ofList]
    exact fun _ ↦ List.eq_of_mem_replicate
  constructor
  · intro hempty
    have hlength := congrArg (List.length ∘ String.toList) hempty
    rw [Function.comp_apply, String.toList_ofList, List.length_replicate] at hlength
    cases hlength
  · exact fun hslash ↦ absurd (honly '/' hslash) (by decide)
  · rw [startsWith, decide_eq_false_iff_not]
    exact fun hdot ↦ absurd (honly '.' (hdot.subset (by decide))) (by decide)

theorem wantsFailingReport_corruptedFile (fd : ℕ) {name : String} (lseek openReport : Bool)
    (content : Option (List UInt8)) (hname : name.utf8ByteSize ≤ nameMax) :
    WantsFailingReport paddingSha256 alwaysConf (fun _ ↦ callsWith lseek openReport content)
      (corruptedFile fd name) := by
  refine ⟨?_, .inl rfl, hname⟩
  cases content with
  | none => simp [verdict, callsWith, corruptedFile, FileMetadata.isValid]
  | some content =>
    simp only [verdict, callsWith, recheckDigest]
    split_ifs <;> simp [corruptedFile, FileMetadata.isValid]

/-- No call on a file returns an error when all calls succeed. -/
theorem completes_corruptedFile (fd : ℕ) (name : String) :
    Completes paddingSha256 serdeReportJson alwaysConf
      (none : Option (HybridKeyPair transparentSchemes)) ""
      (fun _ ↦ callsWith true true (some [0x6F])) (corruptedFile fd name) :=
  ⟨[0x6F], _, ⟨rfl, rfl, rfl⟩, by simp [reportCompletes, callsWith], fun _ ↦ ⟨rfl, rfl, rfl⟩⟩

theorem handlesEach_iff_two :
    HandlesEach paddingSha256 serdeReportJson alwaysConf
      (none : Option (HybridKeyPair transparentSchemes)) ""
      (fun _ ↦ callsWith true true (some [0x6F]))
      [corruptedFile 3 "first.txt", corruptedFile 4 "second.txt"] := by
  refine (handlesEach_iff _ _ _ _ _ _ _ ?_).mpr ⟨?_, ?_, ?_⟩
  · rw [List.forall_mem_cons, List.forall_mem_singleton]
    exact ⟨⟨by decide, by decide, by decide⟩, ⟨by decide, by decide, by decide⟩⟩
  · intro f hf other hother hname
    obtain rfl : other = f := by
      rcases List.mem_pair.mp hf with rfl | rfl <;> rcases List.mem_pair.mp hother with rfl | rfl
      · rfl
      · exact absurd hname (by decide)
      · exact absurd hname (by decide)
      · rfl
    exact fun _ ↦ ⟨Iff.rfl, Iff.rfl⟩
  · intro f hf _
    refine ⟨f, ?_, rfl⟩
    rcases List.mem_pair.mp hf with rfl | rfl
    · exact ⟨[], _, rfl, fun _ hother ↦ absurd hother List.not_mem_nil⟩
    · exact ⟨[_], [], rfl, List.forall_mem_singleton.mpr (completes_corruptedFile 3 "first.txt")⟩
  · intro f hf _
    rcases List.mem_pair.mp hf with rfl | rfl
    · exact ⟨[0x6F], _, ⟨rfl, rfl, rfl⟩, rfl, rfl⟩
    · exact ⟨[0x6F], _, ⟨rfl, rfl, rfl⟩, rfl, rfl⟩

/-- The four ways in which files are not handled independently: an error drops the files behind it,
a file replaces one of the same name, a name of 251 bytes is too long for that of a report, and a
failing file that cannot be read gets no report. -/
theorem not_handlesEach :
    (¬ HandlesEach paddingSha256 serdeReportJson alwaysConf
      (none : Option (HybridKeyPair transparentSchemes)) ""
      (fun fd ↦ callsWith (decide (fd ≠ 3)) true (some [0x6F]))
      [corruptedFile 3 "first.txt", corruptedFile 4 "second.txt"]) ∧
    (¬ HandlesEach paddingSha256 serdeReportJson alwaysConf
      (none : Option (HybridKeyPair transparentSchemes)) ""
      (fun fd ↦ callsWith true true (some [UInt8.ofNat fd]))
      [cleanFile 3 [3], cleanFile 4 [4]]) ∧
    (RespectsNameMax (callsWith true false (some [0x6F])) longName ∧
      ¬ HandlesEach paddingSha256 serdeReportJson alwaysConf
        (none : Option (HybridKeyPair transparentSchemes)) ""
        (fun _ ↦ callsWith true false (some [0x6F])) [corruptedFile 3 longName]) ∧
    ¬ HandlesEach paddingSha256 serdeReportJson alwaysConf
      (none : Option (HybridKeyPair transparentSchemes)) "" (fun _ ↦ callsWith true true none)
      [corruptedFile 3 "first.txt"] := by
  have hsize : longName.utf8ByteSize = 251 :=
    Wire.Bincode.utf8ByteSize_replicate (by decide) 251
  have hshort : String.utf8ByteSize "first.txt" ≤ nameMax := by decide
  refine ⟨fun hhandles ↦ ?_, fun hhandles ↦ ?_, ⟨?_, fun hhandles ↦ ?_⟩, fun hhandles ↦ ?_⟩
  · have hreport := hhandles.alone ∅ (corruptedFile 4 "second.txt") (by simp)
      (reportName "second.txt") (by decide)
    revert hreport
    decide +kernel
  · have hdata := hhandles.alone ∅ (cleanFile 3 [3]) (by simp) "note.txt" (by decide)
    revert hdata
    decide +kernel
  · constructor
    · intro hopen
      cases hopen
    · rw [hsize]
      exact fun _ ↦ by decide
  · have hname : VisibleName (corruptedFile 3 longName).md.filename := visibleName_replicate 250
    obtain ⟨content, report, -, hopen, -⟩ :=
      hhandles.failingReportCompletes (List.mem_singleton_self _) hname
        (wantsFailingReport_corruptedFile 3 true false (some [0x6F]) (by rw [hsize]; decide))
    cases hopen
  · have hname : VisibleName (corruptedFile 3 "first.txt").md.filename :=
      ⟨by decide, by decide, by decide⟩
    obtain ⟨content, report, ⟨-, hcontent, -⟩, -⟩ :=
      hhandles.failingReportCompletes (List.mem_singleton_self _) hname
        (wantsFailingReport_corruptedFile 3 true true none hshort)
    cases hcontent

end Keysas.Out
