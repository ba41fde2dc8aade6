import Keysas.Analyze.OfficeScan

/-!
# Which macros are detected

A document has macros in the projects of a ZIP container or in the streams below the storages named
`VBA` of a compound file. `detectsProjects_iff` and `detectsStreams_iff` say when a document is
refused for a pattern of high risk in one of them.

Of the projects of a container only the first that can be opened is read. The streams of a compound
file are selected by their lowercase paths, among them those whose name only ends like that of the
stream that is left out on purpose, and they are opened by these paths, which the library may not
take for the same as the paths in the file.
-/

set_option autoImplicit false
set_option relaxedAutoImplicit false

namespace Keysas.Analyze.Office

open RustStd Wire.Bincode

variable {tables : UnicodeTables} {tools : OfficeTools}

/-! ### Projects of a container -/

/-- An entry of a container that can be opened has a content with a pattern of high risk. -/
def OpenedEntry.IsRisky (entry : OpenedEntry) : Prop :=
  ∃ bytes, entry.content = some bytes ∧ HasHighRisk bytes

/-- A project that can be read has a pattern of high risk. -/
def HasRiskyProject (tables : UnicodeTables) (archive : List (Option OpenedEntry)) : Prop :=
  ∃ entry, some entry ∈ archive ∧ isProject tables entry = true ∧ entry.IsRisky

/-- The first project that can be opened has one. -/
def FirstProjectIsRisky (tables : UnicodeTables) (archive : List (Option OpenedEntry)) : Prop :=
  ∃ entry, (archive.filterMap id).find? (isProject tables) = some entry ∧ entry.IsRisky

theorem projectFindings_ne_nil_iff {archive : List (Option OpenedEntry)} :
    (projectFindings tables (archive.filterMap id)).1 ≠ [] ↔
      FirstProjectIsRisky tables archive := by
  rw [projectFindings, FirstProjectIsRisky]
  cases (archive.filterMap id).find? (isProject tables) with
  | none => simp
  | some entry =>
    simp only [Option.bind_some, Option.some.injEq, exists_eq_left', OpenedEntry.IsRisky]
    cases entry.content with
    | none => simp
    | some bytes => simp [scanPatterns_ne_nil_iff]

/-- A container in which a project has a pattern of high risk is refused. -/
def DetectsProjects (tables : UnicodeTables) (tools : OfficeTools) (buf : List UInt8) : Prop :=
  ∀ archive, tools.zipEntries buf = some archive → HasRiskyProject tables archive →
    (analyzeOoxml tables tools buf).1 = false

/-- The search for macros in a container is complete if and only if, when some project has a pattern
of high risk, the first project that can be opened has one. -/
theorem detectsProjects_iff (tables : UnicodeTables) (tools : OfficeTools) (buf : List UInt8) :
    DetectsProjects tables tools buf ↔
      ∀ archive, tools.zipEntries buf = some archive → HasRiskyProject tables archive →
        FirstProjectIsRisky tables archive := by
  refine forall_congr' fun archive ↦ forall_congr' fun hentries ↦ ?_
  have hresult : (analyzeOoxml tables tools buf).1 =
      (projectFindings tables (archive.filterMap id)).1.isEmpty := by
    simp only [analyzeOoxml, hentries]
  rw [hresult, ← Bool.not_eq_true, List.isEmpty_iff, ← projectFindings_ne_nil_iff]

/-- A container with a harmless project before one that runs a shell. -/
def twoProjects : List (Option OpenedEntry) :=
  [some ⟨"word/vbaProject.bin", some []⟩, some ⟨"xl/vbaProject.bin", some (utf8 "Shell")⟩]

/-- A reader that knows this container. -/
def twoProjectsTools : OfficeTools where
  zipEntries _ := some twoProjects
  compoundFile _ := none

/-- The search is not complete: the second project is not read. -/
theorem not_detectsProjects_two : ¬ DetectsProjects asciiTables twoProjectsTools [] := by
  intro hdetects
  have hrisk : HasHighRisk (utf8 "Shell") := ⟨"Shell", by decide, by decide +kernel⟩
  have hproject : isProject asciiTables ⟨"xl/vbaProject.bin", some (utf8 "Shell")⟩ = true := by
    decide +kernel
  have hrefused := hdetects twoProjects rfl
    ⟨_, .tail _ (.head _), hproject, utf8 "Shell", rfl, hrisk⟩
  have hpasses : (analyzeOoxml asciiTables twoProjectsTools []).1 = true := by decide +kernel
  rw [hpasses] at hrefused
  cases hrefused

/-! ### Paths of a compound file -/

/-- What the library compares of a name: its number of UTF-16 units and its uppercase. -/
def nameKey (uppercase : String → String) (name : String) : ℕ × String :=
  ((encodeUtf16 name).length, uppercase name)

/-- Two paths are the same for the library. -/
def samePath (uppercase : String → String) (first second : String) : Bool :=
  (split '/' first).map (nameKey uppercase) = (split '/' second).map (nameKey uppercase)

/-- The library opens the streams of a file by their paths, without regard to case. -/
def CompoundFile.FindsStreams (file : CompoundFile) (uppercase : String → String) : Prop :=
  ∀ path bytes, file.readStream path = some bytes ↔
    ∃ entry ∈ file.entries, samePath uppercase path entry.path = true ∧ entry.stream = some bytes

/-- An entry is a stream that can be read, and it has a pattern of high risk. -/
def CompoundEntry.IsRisky (entry : CompoundEntry) : Prop :=
  ∃ bytes, entry.stream = some bytes ∧ HasHighRisk bytes

/-- An entry is below a storage named `VBA`. -/
def CompoundEntry.IsInVba (entry : CompoundEntry) : Prop :=
  ∃ storage ∈ entry.names.dropLast, eqIgnoreAsciiCase (utf8 storage) (utf8 "VBA") = true

/-- An entry is a stream with macros, other than the one named `_VBA_PROJECT`, and it has a pattern
of high risk. -/
structure CompoundEntry.IsHazard (entry : CompoundEntry) : Prop where
  risky : entry.IsRisky
  inVba : entry.IsInVba
  name_ne : entry.names.getLast? ≠ some "_VBA_PROJECT"

/-- A stream with a pattern of high risk is found under the lowercase of a path that is selected. -/
def FindsRiskyStream (tables : UnicodeTables) (uppercase : String → String)
    (file : CompoundFile) : Prop :=
  ∃ selected ∈ file.entries, isModulePath (toLowercase tables selected.path) = true ∧
    ∃ opened ∈ file.entries,
      samePath uppercase (toLowercase tables selected.path) opened.path = true ∧ opened.IsRisky

/-- What a name is pushed onto begins with the path. -/
theorem prefix_directoryFront (base : String) : base.toList <+: (directoryFront base).toList := by
  rw [directoryFront]
  split_ifs
  · exact List.prefix_rfl
  · exact String.toList_append ▸ List.prefix_append _ _

/-- Pushing names onto a path keeps what it begins with. -/
theorem prefix_foldl_push (base : String) {names : List String}
    (hnames : ∀ name ∈ names, '/' ∉ name.toList) :
    base.toList <+: (names.foldl push base).toList := by
  induction names generalizing base with
  | nil => exact List.prefix_rfl
  | cons name names ih =>
    refine List.IsPrefix.trans ?_ (ih _ fun other hother ↦ hnames other (.tail _ hother))
    rw [push_eq_append (hnames name (.head _)), String.toList_append]
    exact (prefix_directoryFront base).trans (List.prefix_append _ _)

/-- A name that is pushed onto a path that is not empty stands behind a slash. -/
theorem exists_push_eq {base name : String} (hbase : base.toList ≠ [])
    (hname : '/' ∉ name.toList) :
    ∃ front, (push base name).toList = front ++ '/' :: name.toList := by
  rw [push_eq_append hname, String.toList_append]
  rcases directoryFront_cases base with hempty | ⟨front, hfront⟩
  · have hprefix := prefix_directoryFront base
    rw [hempty, List.prefix_nil] at hprefix
    exact absurd hprefix hbase
  · exact ⟨front, by rw [hfront, List.append_assoc, List.singleton_append]⟩

/-- A name that is pushed onto a path that does not end with a slash stands behind one. -/
theorem push_eq_of_getLast {base name : String} {last : Char}
    (hlast : base.toList.getLast? = some last) (hslash : last ≠ '/') (hname : '/' ∉ name.toList) :
    push base name = base ++ "/" ++ name := by
  have hnonempty : base ≠ "" := by
    rintro rfl
    cases hlast
  have hends : endsWith base "/" = false := by
    rw [endsWith, decide_eq_false_iff_not]
    rintro ⟨front, hfront⟩
    have hsame : base.toList.getLast? = some '/' := by
      rw [← hfront]
      exact List.getLast?_concat
    rw [hlast] at hsame
    exact hslash (Option.some.inj hsame)
  rw [push_eq_append hname, directoryFront, hends, decide_eq_false hnonempty]
  rfl

/-- The path of an entry below a storage has the name of the storage between slashes. Assumes: the
name is not empty. -/
theorem infix_path_of_mem_dropLast {entry : CompoundEntry} {storage : String}
    (hstorage : storage ∈ entry.names.dropLast) (hnonempty : storage.toList ≠ []) :
    '/' :: (storage.toList ++ ['/']) <:+: entry.path.toList := by
  obtain ⟨before, mid, hdrop⟩ := List.append_of_mem hstorage
  have hne : entry.names ≠ [] := by
    intro hnone
    rw [hnone] at hstorage
    cases hstorage
  obtain ⟨next, others, hafter⟩ : ∃ next others, mid ++ [entry.names.getLast hne] =
      next :: others := List.exists_cons_of_ne_nil (by simp)
  have hnames : entry.names = before ++ storage :: next :: others := by
    rw [← List.dropLast_append_getLast hne, hdrop, List.append_assoc, List.cons_append, hafter]
  have hslash := entry.slash_notMem
  rw [hnames] at hslash
  have hstorageSlash := hslash storage (by simp)
  -- The path down to the storage begins with that of the root, so that it is not empty.
  have hbase : (before.foldl push "/").toList ≠ [] := by
    intro hnone
    have hroot := prefix_foldl_push "/" fun name hname ↦
      hslash name (List.mem_append_left _ hname)
    rw [hnone, List.prefix_nil] at hroot
    cases hroot
  obtain ⟨front, hfront⟩ := exists_push_eq hbase hstorageSlash
  have hlast : (push (before.foldl push "/") storage).toList.getLast? =
      some (storage.toList.getLast hnonempty) := by
    rw [hfront, List.getLast?_append_of_ne_nil _ (List.cons_ne_nil _ _),
      List.getLast?_cons_of_ne_nil hnonempty, List.getLast?_eq_some_getLast hnonempty]
  have hlastSlash : storage.toList.getLast hnonempty ≠ '/' := by
    intro hsame
    exact hstorageSlash (hsame ▸ List.getLast_mem hnonempty)
  have hnext := push_eq_of_getLast hlast hlastSlash (hslash next (by simp))
  have hpath : (push (push (before.foldl push "/") storage) next).toList <+: entry.path.toList := by
    rw [CompoundEntry.path, hnames, List.foldl_append]
    exact prefix_foldl_push _ fun name hname ↦
      hslash name (List.mem_append_right _ (.tail _ (.tail _ hname)))
  refine List.IsInfix.trans ?_ hpath.isInfix
  refine ⟨front, next.toList, ?_⟩
  rw [hnext, String.toList_append, String.toList_append, hfront]
  simp

/-- A stream in a storage named `VBA` is selected unless its lowercase path ends with a slash or
like the one that is left out. -/
theorem isModulePath_of_isInVba {entry : CompoundEntry} (hvba : entry.IsInVba)
    (hslash : endsWith (toLowercase tables entry.path) "/" = false)
    (hproject : endsWith (toLowercase tables entry.path) "_vba_project" = false) :
    isModulePath (toLowercase tables entry.path) = true := by
  obtain ⟨storage, hmem, hequal⟩ := hvba
  have hlower : (utf8 storage).map asciiLower = (utf8 "VBA").map asciiLower := beq_iff_eq.mp hequal
  have hascii : IsAscii (utf8 storage) := isAscii_of_map_asciiLower hlower (by decide +kernel)
  have hletters : storage.toList = (utf8 storage).map asciiChar := by
    rw [← toList_asciiText, asciiText_utf8 hascii]
  have hnonempty : storage.toList ≠ [] := by
    rw [hletters, Ne, List.map_eq_nil_iff]
    intro hnone
    rw [hnone] at hlower
    exact absurd hlower (by decide +kernel)
  have hinside := infix_path_of_mem_dropLast hmem hnonempty
  -- The name between slashes, as bytes.
  have hword : (0x2F :: (utf8 storage ++ [0x2F])).map asciiChar <:+: entry.path.toList := by
    rw [List.map_cons, List.map_append, ← hletters]
    exact hinside
  have hwordAscii : IsAscii (0x2F :: (utf8 storage ++ [0x2F])) := by
    intro byte hbyte
    rcases List.mem_cons.mp hbyte with rfl | hrest
    · decide
    rcases List.mem_append.mp hrest with hletter | hlast
    · exact hascii byte hletter
    · rw [List.mem_singleton.mp hlast]
      decide
  have hfound := contains_toLowercase tables hword hwordAscii
  have hvba : (0x2F :: (utf8 storage ++ [0x2F])).map asciiLower = utf8 "/vba/" := by
    rw [List.map_cons, List.map_append, hlower]
    decide +kernel
  rw [hvba, asciiText_utf8 (by decide +kernel)] at hfound
  rw [isModulePath, hfound, hslash, hproject]
  rfl

/-- Streams with macros whose lowercase paths the library takes for their paths are found, unless
their names end like that of the one that is left out. -/
theorem findsRiskyStream_of_isHazard {file : CompoundFile} {entry : CompoundEntry}
    {uppercase : String → String} (hmem : entry ∈ file.entries) (hhazard : entry.IsHazard)
    (hslash : endsWith (toLowercase tables entry.path) "/" = false)
    (hproject : endsWith (toLowercase tables entry.path) "_vba_project" = false)
    (hsame : samePath uppercase (toLowercase tables entry.path) entry.path = true) :
    FindsRiskyStream tables uppercase file :=
  ⟨entry, hmem, isModulePath_of_isInVba hhazard.inVba hslash hproject, entry, hmem, hsame,
    hhazard.risky⟩

/-- A path is selected only when there are macros. -/
theorem contains_vba_of_isModulePath {path : String} (hmodule : isModulePath path = true) :
    contains path "vba" = true := by
  rw [isModulePath, Bool.and_eq_true, Bool.and_eq_true] at hmodule
  have hslashes := of_decide_eq_true hmodule.1.1
  exact decide_eq_true (List.IsInfix.trans (by decide) hslashes)

/-- There are findings under a path when a stream with a pattern of high risk is opened by it. -/
theorem streamFindings_ne_nil_iff {file : CompoundFile} {uppercase : String → String}
    (hfinds : file.FindsStreams uppercase) {path : String} :
    (streamFindings file path).1 ≠ [] ↔
      ∃ opened ∈ file.entries, samePath uppercase path opened.path = true ∧ opened.IsRisky := by
  have hread : (streamFindings file path).1 ≠ [] ↔
      ∃ bytes, file.readStream path = some bytes ∧ HasHighRisk bytes := by
    rw [streamFindings]
    cases file.readStream path with
    | none => simp
    | some bytes => simp [scanPatterns_ne_nil_iff]
  rw [hread]
  constructor
  · rintro ⟨bytes, hbytes, hrisk⟩
    obtain ⟨opened, hmem, hsame, hstream⟩ := (hfinds path bytes).mp hbytes
    exact ⟨opened, hmem, hsame, bytes, hstream, hrisk⟩
  · rintro ⟨opened, hmem, hsame, bytes, hstream, hrisk⟩
    exact ⟨bytes, (hfinds path bytes).mpr ⟨opened, hmem, hsame, hstream⟩, hrisk⟩

/-- The lowercase paths of the streams with macros. -/
def modulePaths (tables : UnicodeTables) (file : CompoundFile) : List String :=
  (file.entries.map fun entry ↦ toLowercase tables entry.path).filter isModulePath

/-- The analyzer looks into all streams with macros: where there is one, a path has `vba` in it. -/
theorem analyzeOle_eq {buf : List UInt8} {file : CompoundFile}
    (hfile : tools.compoundFile buf = some file) :
    (analyzeOle tables tools buf).1 =
      ((modulePaths tables file).flatMap fun path ↦ (streamFindings file path).1).isEmpty := by
  simp only [analyzeOle, hfile, modulePaths]
  split_ifs with hmacros
  · rfl
  · have hnone : (file.entries.map fun entry ↦ toLowercase tables entry.path).filter isModulePath =
        [] := by
      rw [List.filter_eq_nil_iff]
      intro path hpath hmodule
      apply hmacros
      rw [Bool.or_eq_true]
      exact .inl (List.any_eq_true.mpr ⟨path, hpath, contains_vba_of_isModulePath hmodule⟩)
    rw [hnone]

/-- A compound file is refused for a stream that is found. -/
theorem analyzeOle_refuses_iff {buf : List UInt8} {file : CompoundFile}
    (hfile : tools.compoundFile buf = some file) {uppercase : String → String}
    (hfinds : file.FindsStreams uppercase) :
    (analyzeOle tables tools buf).1 = false ↔ FindsRiskyStream tables uppercase file := by
  rw [analyzeOle_eq hfile, ← Bool.not_eq_true, List.isEmpty_iff, List.flatMap_eq_nil_iff]
  simp only [not_forall, exists_prop, streamFindings_ne_nil_iff hfinds]
  constructor
  · rintro ⟨path, hpath, hopened⟩
    obtain ⟨hmem, hmodule⟩ := List.mem_filter.mp hpath
    obtain ⟨selected, hselected, rfl⟩ := List.mem_map.mp hmem
    exact ⟨selected, hselected, hmodule, hopened⟩
  · rintro ⟨selected, hselected, hmodule, hopened⟩
    exact ⟨_, List.mem_filter.mpr ⟨List.mem_map_of_mem hselected, hmodule⟩, hopened⟩

/-- A compound file in which a stream with macros has a pattern of high risk is refused. -/
def DetectsStreams (tables : UnicodeTables) (tools : OfficeTools)
    (uppercase : String → String) (buf : List UInt8) : Prop :=
  ∀ file, tools.compoundFile buf = some file → file.FindsStreams uppercase →
    (∃ entry ∈ file.entries, entry.IsHazard) → (analyzeOle tables tools buf).1 = false

/-- The search for macros in a compound file is complete if and only if, when some stream with
macros has a pattern of high risk, one is found under the lowercase of a path that is selected. -/
theorem detectsStreams_iff (tables : UnicodeTables) (tools : OfficeTools)
    (uppercase : String → String) (buf : List UInt8) :
    DetectsStreams tables tools uppercase buf ↔
      ∀ file, tools.compoundFile buf = some file → file.FindsStreams uppercase →
        (∃ entry ∈ file.entries, entry.IsHazard) → FindsRiskyStream tables uppercase file := by
  refine forall_congr' fun file ↦ forall_congr' fun hfile ↦ forall_congr' fun hfinds ↦ ?_
  rw [analyzeOle_refuses_iff hfile hfinds]

/-- A stream whose name ends like that of the one that is left out. -/
def ownProject : CompoundEntry where
  names := ["Macros", "VBA", "MY_VBA_PROJECT"]
  stream := some (utf8 "Shell")
  slash_notMem := by decide

/-- A compound file with one stream. -/
def singleStream (uppercase : String → String) (entry : CompoundEntry) : CompoundFile where
  entries := [entry]
  readStream path := if samePath uppercase path entry.path then entry.stream else none

theorem findsStreams_singleStream (uppercase : String → String) (entry : CompoundEntry) :
    (singleStream uppercase entry).FindsStreams uppercase := by
  intro path bytes
  simp only [singleStream, List.mem_singleton, exists_eq_left]
  split_ifs with hsame
  · simp [hsame]
  · simp [hsame]

/-- A reader that knows this file. -/
def ownProjectTools : OfficeTools where
  zipEntries _ := none
  compoundFile _ := some (singleStream String.toUpper ownProject)

/-- The search is not complete: a stream is left out for the end of its name. -/
theorem not_detectsStreams_ownProject :
    ¬ DetectsStreams asciiTables ownProjectTools String.toUpper [] := by
  intro hdetects
  have hrisky : ownProject.IsRisky := ⟨utf8 "Shell", rfl, "Shell", by decide, by decide +kernel⟩
  have hvba : ownProject.IsInVba := ⟨"VBA", by decide, by decide +kernel⟩
  have hrefused := hdetects _ rfl (findsStreams_singleStream String.toUpper ownProject)
    ⟨ownProject, .head _, hrisky, hvba, by decide⟩
  have hpasses : (analyzeOle asciiTables ownProjectTools []).1 = true := by decide +kernel
  rw [hpasses] at hrefused
  cases hrefused

end Keysas.Analyze.Office
