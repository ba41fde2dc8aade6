import Keysas.Backend.ReportText
import Keysas.Pipeline.Release

/-!
# The listing and the last verdict

The output daemon and the backend know of each other only by the names in the output directory. The
view of the backend matches when every file that was released is shown once, every name that was
processed is shown, and what is shown under a name is the verdict of the last file under it.

It does not always match. Where only failures are reported, the report of a failure stays when a
file with the same name passes later, and the listing believes it. A released file whose name ends
with `.krp` is taken for a report about another file, and one whose name ends with `.sha256` is
passed over. `KeepsVerdicts` is what has to be the case for the names and the verdicts, and
`viewMatches_iff` says that it is exactly this. `not_viewMatches` has a sequence for each of the
three.
-/

set_option autoImplicit false
set_option relaxedAutoImplicit false

namespace Keysas.Backend

open Crypto Keys Out Reports RustStd Runs.Program Store

/-! ### Verdicts -/

variable {mode : KrpMode} {outcomes : List Outcome} {name : String}

/-- The last verdict is that of a file under the name. -/
theorem exists_of_lastVerdict {isValid : Bool} (hlast : lastVerdict outcomes name = some isValid) :
    ∃ outcome ∈ outcomes, outcome.name = name ∧ outcome.isValid = isValid := by
  obtain ⟨outcome, hmem, hwrite⟩ := List.mem_map.mp (mem_of_lastWrite hlast)
  obtain ⟨hname, hvalid⟩ := Prod.mk.inj hwrite
  exact ⟨outcome, hmem, hname, hvalid⟩

/-- A name that was processed has a last verdict. -/
theorem isSome_lastVerdict_iff :
    (lastVerdict outcomes name).isSome = true ↔ ∃ outcome ∈ outcomes, outcome.name = name := by
  rw [lastVerdict, isSome_lastWrite_iff]
  simp

/-- There is a report about a name when one was written about a file under it. -/
theorem isSome_reportedVerdict_iff :
    (reportedVerdict mode outcomes name).isSome = true ↔
      ∃ outcome ∈ outcomes, outcome.name = name ∧ mode.shouldWrite outcome.isValid = true := by
  rw [reportedVerdict, isSome_lastVerdict_iff]
  refine exists_congr fun outcome ↦ ?_
  rw [List.mem_filter, and_assoc, and_comm (b := outcome.name = name)]

theorem reportedVerdict_always (outcomes : List Outcome) (name : String) :
    reportedVerdict .always outcomes name = lastVerdict outcomes name := by
  have hall : outcomes.filter (fun outcome ↦ KrpMode.always.shouldWrite outcome.isValid) =
      outcomes := List.filter_eq_self.mpr fun _ _ ↦ rfl
  rw [reportedVerdict, hall]

/-- Where only failures are reported, a report says that the file is not valid. -/
theorem eq_false_of_reportedVerdict_failOnly {isValid : Bool}
    (hreported : reportedVerdict .failOnly outcomes name = some isValid) : isValid = false := by
  obtain ⟨outcome, hmem, -, rfl⟩ := exists_of_lastVerdict hreported
  simpa [KrpMode.shouldWrite] using (List.mem_filter.mp hmem).2

/-- A name that failed at last has a report. -/
theorem isSome_reportedVerdict (hmode : mode = .always ∨ mode = .failOnly)
    (hlast : lastVerdict outcomes name = some false) :
    (reportedVerdict mode outcomes name).isSome = true := by
  obtain ⟨outcome, hmem, hname, hvalid⟩ := exists_of_lastVerdict hlast
  rw [isSome_reportedVerdict_iff]
  refine ⟨outcome, hmem, hname, ?_⟩
  rw [hvalid]
  rcases hmode with rfl | rfl <;> rfl

/-- The verdict that a released file is shown with is the last, unless the file passed after a
failure where only failures are reported. -/
theorem lastVerdict_eq_getD_iff (hmode : mode = .always ∨ mode = .failOnly)
    (hprocessed : ∃ outcome ∈ outcomes, outcome.name = name) :
    lastVerdict outcomes name = some ((reportedVerdict mode outcomes name).getD true) ↔
      (mode = .failOnly → lastVerdict outcomes name = some true →
        ∀ outcome ∈ outcomes, outcome.name = name → outcome.isValid = true) := by
  obtain ⟨last, hlast⟩ := Option.isSome_iff_exists.mp (isSome_lastVerdict_iff.mpr hprocessed)
  rcases hmode with rfl | rfl
  · rw [reportedVerdict_always, hlast]
    simp
  · constructor
    · intro hshown _ htrue outcome hmem hname
      rw [htrue] at hshown
      by_contra hvalid
      have hwritten : KrpMode.failOnly.shouldWrite outcome.isValid = true := by
        rw [Bool.eq_false_iff.mpr hvalid]
        rfl
      obtain ⟨reported, hreported⟩ := Option.isSome_iff_exists.mp
        (isSome_reportedVerdict_iff.mpr ⟨outcome, hmem, hname, hwritten⟩)
      rw [hreported, eq_false_of_reportedVerdict_failOnly hreported] at hshown
      cases hshown
    · intro hkeeps
      cases last with
      | true =>
        have hnone : reportedVerdict .failOnly outcomes name = none := by
          rw [← Option.not_isSome_iff_eq_none, isSome_reportedVerdict_iff]
          rintro ⟨outcome, hmem, hname, hwritten⟩
          rw [hkeeps rfl hlast outcome hmem hname] at hwritten
          cases hwritten
        rw [hnone, hlast]
        rfl
      | false =>
        obtain ⟨reported, hreported⟩ := Option.isSome_iff_exists.mp
          (isSome_reportedVerdict (.inr rfl) hlast)
        rw [hlast, hreported, eq_false_of_reportedVerdict_failOnly hreported]
        rfl

/-! ### What the names of the directory stand for -/

variable {json : ReportJson} (parser : JsonParser json) {directory : OutputDirectory}
  {names : List String}

/-- The listing takes the name for that of a released file. -/
def isPlain (name : String) : Bool :=
  !endsWith name ".krp" && !endsWith name ".sha256"

/-- How many files of the directory the listing takes for the report about a file: one of them is
the report, when there is no line feed in its name, the other a file that was released. -/
def countReports (mode : KrpMode) (outcomes : List Outcome) (name : String) : ℕ :=
  (if Released outcomes (name ++ ".krp") then 1 else 0) +
    (if (reportedVerdict mode outcomes name).isSome = true ∧ '\n' ∉ name.toList then 1 else 0)

/-- The name of a file with a report is visible. -/
theorem visible_of_reported (hreported : (reportedVerdict mode outcomes name).isSome = true) :
    VisibleName name := by
  obtain ⟨outcome, -, rfl, -⟩ := isSome_reportedVerdict_iff.mp hreported
  exact outcome.visible

/-- The name of a released file is visible. -/
theorem visible_of_released (hreleased : Released outcomes name) : VisibleName name := by
  obtain ⟨outcome, -, rfl, -⟩ := hreleased
  exact outcome.visible

section Directory

variable (hrecords : Records json mode outcomes directory) (hnames : names.Perm directory.keys)

include hnames in
theorem mem_names_iff (key : String) : key ∈ names ↔ (directory.lookup key).isSome = true := by
  rw [hnames.mem_iff, AList.lookup_isSome, AList.mem_keys]

include hrecords hnames in
/-- A name of the directory is that of a released file or of a report that was written. -/
theorem mem_names_cases {key : String} (hkey : key ∈ names) :
    (VisibleName key ∧ Released outcomes key) ∨
      ∃ about, key = reportName about ∧ (reportedVerdict mode outcomes about).isSome = true := by
  rw [mem_names_iff hnames] at hkey
  rcases hrecords.only key hkey with hvisible | ⟨about, -, rfl⟩
  · exact .inl ⟨hvisible, (hrecords.file key hvisible).mp hkey⟩
  · refine .inr ⟨about, rfl, ?_⟩
    by_contra hnone
    rw [hrecords.no_report about (Option.not_isSome_iff_eq_none.mp hnone)] at hkey
    cases hkey

include hrecords hnames in
theorem mem_names_of_released (hreleased : Released outcomes name) : name ∈ names := by
  rw [mem_names_iff hnames]
  exact (hrecords.file name (visible_of_released hreleased)).mpr hreleased

include hrecords hnames in
theorem reportName_mem_names (hreported : (reportedVerdict mode outcomes name).isSome = true) :
    reportName name ∈ names := by
  obtain ⟨isValid, hverdict⟩ := Option.isSome_iff_exists.mp hreported
  obtain ⟨report, -, hlookup⟩ := hrecords.report name isValid hverdict
  rw [mem_names_iff hnames, hlookup]
  rfl

include hrecords hnames in
/-- The data files are the released files with plain names. -/
theorem mem_dataFiles_iff :
    name ∈ dataFiles names ↔ isPlain name = true ∧ Released outcomes name := by
  rw [dataFiles, List.mem_filter]
  constructor
  · rintro ⟨hmem, hlisted⟩
    rw [isListed, Bool.and_assoc, Bool.and_eq_true, Bool.and_comm] at hlisted
    rcases mem_names_cases hrecords hnames hmem with ⟨-, hreleased⟩ | ⟨about, rfl, -⟩
    · exact ⟨hlisted.2, hreleased⟩
    · rw [endsWith_reportName] at hlisted
      cases hlisted.2
  · rintro ⟨hplain, hreleased⟩
    refine ⟨mem_names_of_released hrecords hnames hreleased, ?_⟩
    rw [isListed, (visible_of_released hreleased).visible, Bool.and_assoc, Bool.and_comm (!_)]
    exact hplain

include hrecords in
/-- The verdict that is shown for a released file is that of its report. -/
theorem isValid_dataStatus :
    (dataStatus parser directory name).isValid =
      (reportedVerdict mode outcomes name).getD true := by
  have hkrp : "." ++ name ++ ".krp" = reportName name := by
    rw [← String.toList_inj, toList_append_krp, toList_reportName]
    simp
  simp only [dataStatus]
  rw [hkrp]
  cases hreported : reportedVerdict mode outcomes name with
  | none =>
    rw [hrecords.no_report name hreported]
    rfl
  | some isValid =>
    obtain ⟨report, hvalid, hlookup⟩ := hrecords.report name isValid hreported
    rw [hlookup, Option.isSome_some, if_pos rfl, isValid_parseKrp_reportBytes, hvalid]
    rfl

include hrecords hnames in
/-- A file is taken for the report about a name when it is the report about it, or was released
under the name with the extension. -/
theorem mem_krpFiles_iff {krpName : String} :
    krpName ∈ krpFiles names ∧ originalName krpName = name ↔
      (Released outcomes (name ++ ".krp") ∧ krpName = name ++ ".krp") ∨
        (((reportedVerdict mode outcomes name).isSome = true ∧ '\n' ∉ name.toList) ∧
          krpName = reportName name) := by
  rw [krpFiles, List.mem_filter]
  constructor
  · rintro ⟨⟨hmem, hlisted⟩, rfl⟩
    rw [isListed, Bool.and_eq_true, Bool.and_eq_true, Bool.or_eq_true] at hlisted
    obtain ⟨⟨hshown, -⟩, hkrp⟩ := hlisted
    rcases mem_names_cases hrecords hnames hmem with ⟨hvisible, hreleased⟩ | ⟨about, rfl, hreported⟩
    · left
      obtain ⟨front, rfl⟩ := exists_of_endsWith_krp hkrp
      rw [originalName_append_krp hvisible.visible]
      exact ⟨hreleased, rfl⟩
    · right
      rw [startsWith_reportName,
        isHiddenKrp_reportName_iff (visible_of_reported hreported).ne_empty] at hshown
      rw [originalName_reportName]
      exact ⟨⟨hreported, hshown.resolve_left (by decide)⟩, rfl⟩
  · rintro (⟨hreleased, rfl⟩ | ⟨⟨hreported, hline⟩, rfl⟩)
    · have hvisible := (visible_of_released hreleased).visible
      have hkrp := endsWith_append_krp name
      refine ⟨⟨mem_names_of_released hrecords hnames hreleased, ?_⟩,
        originalName_append_krp hvisible⟩
      rw [isListed, hvisible, endsWith_sha256_eq_false hkrp, hkrp]
      rfl
    · have hkrp := endsWith_reportName name
      have hhidden : isHiddenKrp (reportName name) = true :=
        (isHiddenKrp_reportName_iff (visible_of_reported hreported).ne_empty).mpr hline
      refine ⟨⟨reportName_mem_names hrecords hnames hreported, ?_⟩, originalName_reportName name⟩
      rw [isListed, hhidden, endsWith_sha256_eq_false hkrp, hkrp, Bool.or_true]
      rfl

include hrecords hnames in
/-- The files that are taken for the report about a name are those that are counted. -/
theorem length_krpFiles :
    ((krpFiles names).filter fun krpName ↦ originalName krpName = name).length =
      countReports mode outcomes name := by
  have hnodup : (krpFiles names).Nodup := (hnames.nodup_iff.mpr directory.keys_nodup).filter _
  have hne : Released outcomes (name ++ ".krp") → name ++ ".krp" ≠ reportName name :=
    fun hreleased ↦ ne_reportName (visible_of_released hreleased) name
  have hperm : ((krpFiles names).filter fun krpName ↦ originalName krpName = name).Perm
      ((if Released outcomes (name ++ ".krp") then [name ++ ".krp"] else []) ++
        (if (reportedVerdict mode outcomes name).isSome = true ∧ '\n' ∉ name.toList then
          [reportName name] else [])) := by
    refine (List.perm_ext_iff_of_nodup (hnodup.filter _) ?_).mpr ?_
    · split_ifs with hreleased hreport
      · simpa using hne hreleased
      · exact List.nodup_singleton _
      · exact List.nodup_singleton _
      · exact List.nodup_nil
    · intro krpName
      rw [List.mem_filter, decide_eq_true_iff, mem_krpFiles_iff hrecords hnames, List.mem_append,
        List.mem_ite_nil_right, List.mem_ite_nil_right, List.mem_singleton, List.mem_singleton]
  rw [hperm.length_eq, List.length_append, countReports, apply_ite List.length,
    apply_ite List.length]
  rfl

include hrecords hnames in
/-- What is shown under a plain name that was released. -/
theorem shownAs_plain (hplain : isPlain name = true ∧ Released outcomes name) :
    shownAs (listFilesOut parser directory names) name =
      [(reportedVerdict mode outcomes name).getD true] := by
  have hdata := (mem_dataFiles_iff hrecords hnames).mpr hplain
  rw [shownAs_of_mem_dataFiles parser (hnames.nodup_iff.mpr directory.keys_nodup) hdata,
    isValid_dataStatus parser hrecords]

include hrecords hnames in
/-- What is shown under any other name. -/
theorem shownAs_other (hother : ¬(isPlain name = true ∧ Released outcomes name)) :
    shownAs (listFilesOut parser directory names) name =
      List.replicate (countReports mode outcomes name) false := by
  have hdata := mt (mem_dataFiles_iff hrecords hnames).mp hother
  rw [shownAs_of_not_mem_dataFiles parser hdata, length_krpFiles hrecords hnames]

end Directory

/-! ### The view -/

/-- The view of the backend matches the verdicts of the output daemon. -/
structure ViewMatches (outcomes : List Outcome) (listing : List FileStatus) : Prop where
  /-- A released file is shown once. -/
  once : ∀ name, Released outcomes name → (shownAs listing name).length = 1
  /-- A name that was processed is shown. -/
  shown : ∀ outcome ∈ outcomes, shownAs listing outcome.name ≠ []
  /-- What is shown under a name is the verdict of the last file under it. -/
  last : ∀ name, ∀ isValid ∈ shownAs listing name, lastVerdict outcomes name = some isValid

/-- The names and verdicts of a sequence of files with which the view matches. -/
structure KeepsVerdicts (mode : KrpMode) (outcomes : List Outcome) : Prop where
  /-- A released file with the extension of a report bears the name of another file. -/
  original : ∀ name, Released outcomes (name ++ ".krp") →
    ∃ outcome ∈ outcomes, outcome.name = name
  /-- A released file that passes at last has not failed before where only failures are reported. -/
  plain : ∀ name, isPlain name = true → Released outcomes name → mode = .failOnly →
    lastVerdict outcomes name = some true →
      ∀ outcome ∈ outcomes, outcome.name = name → outcome.isValid = true
  /-- Any other file has failed at last, and its report is the only one, unless it was not
  released. A report is not seen when there is a line feed in the name. -/
  other : ∀ outcome ∈ outcomes,
    ¬(isPlain outcome.name = true ∧ Released outcomes outcome.name) →
      lastVerdict outcomes outcome.name = some false ∧
        if '\n' ∈ outcome.name.toList then Released outcomes (outcome.name ++ ".krp")
        else Released outcomes outcome.name → ¬Released outcomes (outcome.name ++ ".krp")

/-- A released file was processed. -/
theorem exists_outcome_of_released (hreleased : Released outcomes name) :
    ∃ outcome ∈ outcomes, outcome.name = name := by
  obtain ⟨outcome, hmem, hname, -⟩ := hreleased
  exact ⟨outcome, hmem, hname⟩

/-- A file that failed at last is shown, and once if it was released, when its report is the only
one, or the only one that is seen. -/
theorem countReports_suffice_iff (hmode : mode = .always ∨ mode = .failOnly)
    (hlast : lastVerdict outcomes name = some false) :
    (countReports mode outcomes name ≠ 0 ∧
        (Released outcomes name → countReports mode outcomes name = 1)) ↔
      if '\n' ∈ name.toList then Released outcomes (name ++ ".krp")
      else Released outcomes name → ¬Released outcomes (name ++ ".krp") := by
  have hreported := isSome_reportedVerdict hmode hlast
  rw [countReports]
  by_cases hline : '\n' ∈ name.toList
  · by_cases hkrp : Released outcomes (name ++ ".krp")
    · simp [hline, hkrp]
    · simp [hline, hkrp]
  · by_cases hkrp : Released outcomes (name ++ ".krp")
    · simp [hline, hkrp, hreported]
    · simp [hline, hkrp, hreported]

section Matching

variable (hmode : mode = .always ∨ mode = .failOnly)
  (hrecords : Records json mode outcomes directory) (hnames : names.Perm directory.keys)

include hmode hrecords hnames in
/-- Where the names and verdicts are kept, the view matches. -/
theorem viewMatches_of_keepsVerdicts (hkeeps : KeepsVerdicts mode outcomes) :
    ViewMatches outcomes (listFilesOut parser directory names) := by
  constructor
  · intro name hreleased
    by_cases hplain : isPlain name = true ∧ Released outcomes name
    · rw [shownAs_plain parser hrecords hnames hplain]
      rfl
    · obtain ⟨outcome, hmem, rfl⟩ := exists_outcome_of_released hreleased
      obtain ⟨hlast, hreports⟩ := hkeeps.other outcome hmem hplain
      rw [shownAs_other parser hrecords hnames hplain, List.length_replicate]
      exact ((countReports_suffice_iff hmode hlast).mpr hreports).2 hreleased
  · intro outcome hmem
    by_cases hplain : isPlain outcome.name = true ∧ Released outcomes outcome.name
    · rw [shownAs_plain parser hrecords hnames hplain]
      exact List.cons_ne_nil _ _
    · obtain ⟨hlast, hreports⟩ := hkeeps.other outcome hmem hplain
      rw [shownAs_other parser hrecords hnames hplain, Ne, List.replicate_eq_nil_iff]
      exact ((countReports_suffice_iff hmode hlast).mpr hreports).1
  · intro name isValid hmem
    by_cases hplain : isPlain name = true ∧ Released outcomes name
    · rw [shownAs_plain parser hrecords hnames hplain, List.mem_singleton] at hmem
      rw [hmem, lastVerdict_eq_getD_iff hmode (exists_outcome_of_released hplain.2)]
      exact hkeeps.plain name hplain.1 hplain.2
    · rw [shownAs_other parser hrecords hnames hplain, List.mem_replicate] at hmem
      obtain ⟨outcome, houtcome, rfl⟩ : ∃ outcome ∈ outcomes, outcome.name = name := by
        by_cases hreleased : Released outcomes (name ++ ".krp")
        · exact hkeeps.original name hreleased
        · rw [countReports, if_neg hreleased, Nat.zero_add] at hmem
          split_ifs at hmem with hreport
          · obtain ⟨outcome, houtcome, hname, -⟩ := isSome_reportedVerdict_iff.mp hreport.1
            exact ⟨outcome, houtcome, hname⟩
          · exact absurd rfl hmem.1
      rw [hmem.2]
      exact (hkeeps.other outcome houtcome hplain).1

include hmode hrecords hnames in
/-- Where the view matches, the names and verdicts are kept. -/
theorem keepsVerdicts_of_viewMatches
    (hview : ViewMatches outcomes (listFilesOut parser directory names)) :
    KeepsVerdicts mode outcomes := by
  constructor
  · intro name hreleased
    by_cases hplain : isPlain name = true ∧ Released outcomes name
    · exact exists_outcome_of_released hplain.2
    · have hshown := shownAs_other parser hrecords hnames hplain
      have hmem : false ∈ shownAs (listFilesOut parser directory names) name := by
        rw [hshown, List.mem_replicate, countReports, if_pos hreleased]
        exact ⟨Nat.ne_of_gt (Nat.add_pos_left Nat.one_pos _), rfl⟩
      obtain ⟨outcome, houtcome, hname, -⟩ := exists_of_lastVerdict (hview.last name false hmem)
      exact ⟨outcome, houtcome, hname⟩
  · intro name hplain hreleased
    rw [← lastVerdict_eq_getD_iff hmode (exists_outcome_of_released hreleased)]
    apply hview.last
    rw [shownAs_plain parser hrecords hnames ⟨hplain, hreleased⟩]
    exact List.mem_singleton_self _
  · intro outcome houtcome hother
    have hshown := hview.shown outcome houtcome
    have honce := hview.once outcome.name
    have hfailed := hview.last outcome.name false
    rw [shownAs_other parser hrecords hnames hother] at hshown honce hfailed
    rw [Ne, List.replicate_eq_nil_iff] at hshown
    rw [List.length_replicate] at honce
    have hlast := hfailed (List.mem_replicate.mpr ⟨hshown, rfl⟩)
    exact ⟨hlast, (countReports_suffice_iff hmode hlast).mp ⟨hshown, honce⟩⟩

end Matching

variable {schemes : Schemes} {sha256 : Sha256} {conf : Configuration}
  {signKeys : Option (HybridKeyPair schemes)} {signCert : String}

/-- After every sequence of files, and in whatever order the names are read, the view of the
backend matches exactly when the names and verdicts are kept. Assumes: the output daemon writes all
reports or those of failures. -/
theorem viewMatches_iff (files : List (ProcessedFile sha256 json conf signKeys signCert))
    (hmode : conf.krpMode = .always ∨ conf.krpMode = .failOnly)
    (hnames : names.Perm (directoryAfter files).keys) :
    ViewMatches (files.map ProcessedFile.outcome)
        (listFilesOut parser (directoryAfter files) names) ↔
      KeepsVerdicts conf.krpMode (files.map ProcessedFile.outcome) :=
  ⟨keepsVerdicts_of_viewMatches parser hmode (records_directoryAfter files) hnames,
    viewMatches_of_keepsVerdicts parser hmode (records_directoryAfter files) hnames⟩

/-! ### Sequences of notes -/

/-- An output daemon that writes reports in a mode. -/
def noteOut (mode : KrpMode) : Configuration :=
  { Pipeline.strictOut with krpMode := mode }

/-- The metadata of the note under a name, with a type that is allowed or not. -/
def noteUnder (filename : String) (isTypeAllowed : Bool) : FileMetadata :=
  { stationFile with filename := filename, isTypeAllowed := isTypeAllowed }

/-- The processing of the note under a name. -/
def processedNote (mode : KrpMode) (filename : String) (isTypeAllowed : Bool)
    (hvisible : VisibleName filename) :
    ProcessedFile paddingSha256 serdeReportJson (noteOut mode)
      (none : Option (HybridKeyPair transparentSchemes)) "" where
  md := noteUnder filename isTypeAllowed
  calls := Pipeline.noteCalls
  visible := hvisible
  succeeds := by
    have hends : Ends (outputFile paddingSha256 serdeReportJson (noteOut mode)
        (none : Option (HybridKeyPair transparentSchemes)) "" Pipeline.noteCalls)
        (noteUnder filename isTypeAllowed) := ends_outputFile (by decide) rfl
    obtain ⟨⟨⟩, hvalue⟩ := hends
    exact hvalue

theorem outcome_processedNote (mode : KrpMode) (filename : String) (isTypeAllowed : Bool)
    (hvisible : VisibleName filename) :
    (processedNote mode filename isTypeAllowed hvisible).outcome.isValid = isTypeAllowed ∧
      (processedNote mode filename isTypeAllowed hvisible).outcome.released = isTypeAllowed := by
  have hchecked : (processedNote mode filename isTypeAllowed hvisible).checked =
      noteUnder filename isTypeAllowed := by
    show recheckDigest paddingSha256 Pipeline.noteContent (noteUnder filename isTypeAllowed) = _
    exact if_neg fun hchanged ↦ hchanged rfl
  constructor
  · show (processedNote mode filename isTypeAllowed hvisible).checked.isValid = isTypeAllowed
    rw [hchecked]
    cases isTypeAllowed <;> rfl
  · show released (noteOut mode) (processedNote mode filename isTypeAllowed hvisible).checked =
      isTypeAllowed
    rw [hchecked]
    cases isTypeAllowed <;> rfl

/-- The view matches after a sequence of notes. -/
def NotesMatch (mode : KrpMode)
    (files : List (ProcessedFile paddingSha256 serdeReportJson (noteOut mode)
      (none : Option (HybridKeyPair transparentSchemes)) "")) : Prop :=
  ViewMatches (files.map ProcessedFile.outcome)
    (listFilesOut serdeParser (directoryAfter files) (directoryAfter files).keys)

theorem keepsVerdicts_of_notesMatch {mode : KrpMode} (hmode : mode = .always ∨ mode = .failOnly)
    {files : List (ProcessedFile paddingSha256 serdeReportJson (noteOut mode)
      (none : Option (HybridKeyPair transparentSchemes)) "")} (hview : NotesMatch mode files) :
    KeepsVerdicts mode (files.map ProcessedFile.outcome) := by
  have hrecords : Records serdeReportJson mode (files.map ProcessedFile.outcome)
      (directoryAfter files) := records_directoryAfter files
  exact keepsVerdicts_of_viewMatches serdeParser hmode hrecords (List.Perm.refl _) hview

theorem visibleName_note : VisibleName "note.txt" :=
  ⟨by decide, by decide, by decide⟩

theorem visibleName_report : VisibleName "note.krp" :=
  ⟨by decide, by decide, by decide⟩

theorem visibleName_digest : VisibleName "note.sha256" :=
  ⟨by decide, by decide, by decide⟩

/-- A note that passes is shown as it should be. -/
theorem viewMatches_note : NotesMatch .failOnly [processedNote .failOnly "note.txt" true
    visibleName_note] := by
  obtain ⟨hvalid, hreleased⟩ := outcome_processedNote .failOnly "note.txt" true visibleName_note
  refine (viewMatches_iff serdeParser _ (.inr rfl) (List.Perm.refl _)).mpr ⟨?_, ?_, ?_⟩
  · intro name hkrp
    obtain ⟨outcome, hmem, hname, -⟩ := hkrp
    rw [List.mem_singleton.mp hmem] at hname
    have hends := endsWith_append_krp name
    rw [← hname] at hends
    exact absurd hends (by decide)
  · intro name _ _ _ _ outcome hmem _
    rw [List.mem_singleton.mp hmem]
    exact hvalid
  · intro outcome hmem hother
    rw [List.mem_singleton.mp hmem] at hother
    exact absurd ⟨by decide, _, List.mem_singleton_self _, rfl, hreleased⟩ hother

/-- A note that fails and then passes is still shown as one that failed. -/
theorem not_notesMatch_stale : ¬NotesMatch .failOnly
    [processedNote .failOnly "note.txt" false visibleName_note,
      processedNote .failOnly "note.txt" true visibleName_note] := by
  intro hview
  have hfailed := outcome_processedNote .failOnly "note.txt" false visibleName_note
  have hpassed := outcome_processedNote .failOnly "note.txt" true visibleName_note
  have hkeeps := keepsVerdicts_of_notesMatch (.inr rfl) hview
  have hlast : lastVerdict ([processedNote .failOnly "note.txt" false visibleName_note,
      processedNote .failOnly "note.txt" true visibleName_note].map ProcessedFile.outcome)
      "note.txt" = some true := by
    show lastVerdict ([_] ++ [_]) "note.txt" = some true
    rw [lastVerdict_append, hpassed.1]
    rfl
  have hvalid := hkeeps.plain "note.txt" (by decide)
    ⟨_, List.mem_cons_of_mem _ (List.mem_singleton_self _), rfl, hpassed.2⟩ rfl hlast _
    List.mem_cons_self rfl
  rw [hfailed.1] at hvalid
  cases hvalid

/-- A released file with the extension of a report is shown under another name. -/
theorem not_notesMatch_report : ¬NotesMatch .always
    [processedNote .always "note.krp" true visibleName_report] := by
  intro hview
  have hpassed := outcome_processedNote .always "note.krp" true visibleName_report
  have hkeeps := keepsVerdicts_of_notesMatch (.inl rfl) hview
  obtain ⟨outcome, hmem, hname⟩ := hkeeps.original "note"
    ⟨_, List.mem_singleton_self _, by decide, hpassed.2⟩
  rw [List.mem_singleton.mp hmem] at hname
  exact absurd hname (by decide)

/-- A released file with the extension of a digest is not shown. -/
theorem not_notesMatch_digest : ¬NotesMatch .always
    [processedNote .always "note.sha256" true visibleName_digest] := by
  intro hview
  have hpassed := outcome_processedNote .always "note.sha256" true visibleName_digest
  have hkeeps := keepsVerdicts_of_notesMatch (.inl rfl) hview
  have hlast := (hkeeps.other _ (List.mem_singleton_self _) fun hplain ↦
    absurd hplain.1 (by decide)).1
  obtain ⟨outcome, hmem, -, hfailed⟩ := exists_of_lastVerdict hlast
  rw [List.mem_singleton.mp hmem, hpassed.1] at hfailed
  cases hfailed

/-- The view does not match after a file that passes when it failed before, nor after a file with
one of two extensions. -/
theorem not_viewMatches :
    ¬NotesMatch .failOnly [processedNote .failOnly "note.txt" false visibleName_note,
      processedNote .failOnly "note.txt" true visibleName_note] ∧
    ¬NotesMatch .always [processedNote .always "note.krp" true visibleName_report] ∧
    ¬NotesMatch .always [processedNote .always "note.sha256" true visibleName_digest] :=
  ⟨not_notesMatch_stale, not_notesMatch_report, not_notesMatch_digest⟩

end Keysas.Backend
