import Keysas.Analyze.OfficeScan
import Keysas.Analyze.ScriptScan

/-!
# Categories and formats

`detectCategory` puts a file into a category by its extension or by its detected type. The analyzers
of office documents, scripts and archives choose again among the formats of their category, by the
name alone. `formatsAgree_iff` says when the two choices fit: a document must have one of the
extensions of its category, and the name of an archive must end like the format that the extension
or the type names.
-/

set_option autoImplicit false
set_option relaxedAutoImplicit false

namespace Keysas.Analyze

open RustStd Wire.Bincode

/-! ### Formats of archives -/

/-- The formats of archives that an extension or a type can name. -/
inductive ArchiveFormat where
  | zip
  | tar
  | gz
  | bz2
  | xz
  | tgz
  | tbz2
  | txz
  deriving DecidableEq

/-- The format that an extension of the category of archives names. -/
def formatOfExt (ext : String) : Option ArchiveFormat :=
  if ext ∈ ["zip", "jar", "war", "ear"] then some .zip
  else if ext = "tar" then some .tar
  else if ext = "gz" then some .gz
  else if ext = "tgz" then some .tgz
  else if ext = "bz2" then some .bz2
  else if ext = "tbz2" then some .tbz2
  else if ext = "xz" then some .xz
  else if ext = "txz" then some .txz
  else none

/-- The format that a lowercase type names. -/
def formatOfType (ft : String) : Option ArchiveFormat :=
  if contains ft "application/zip" then some .zip
  else if contains ft "application/x-tar" then some .tar
  else if contains ft "application/gzip" then some .gz
  else if contains ft "application/x-bzip2" then some .bz2
  else if contains ft "application/x-xz" then some .xz
  else if contains ft "application/x-gzip" then some .gz
  else none

variable (tables : UnicodeTables)

/-- The format that the extension names, or else the type. -/
def namedFormat (filename fileType : String) : Option ArchiveFormat :=
  (formatOfExt (lowerExt tables filename)).or (formatOfType (toLowercase tables fileType))

/-! ### Decoders -/

/-- The analyses among which `analyze_path` chooses. -/
inductive Decoder where
  | zip
  | tar
  | tarGz
  | tarBz2
  | tarXz
  | gz
  | bz2
  | xz
  deriving DecidableEq

/-- The analysis with a decoder. -/
def Decoder.analyze :
    Decoder → ArchiveTools → String → List UInt8 → Bool × String
  | .zip => analyzeZip tables
  | .tar => analyzeTar tables
  | .tarGz => analyzeTarGz tables
  | .tarBz2 => analyzeTarBz2 tables
  | .tarXz => analyzeTarXz tables
  | .gz => analyzeSingleGz
  | .bz2 => analyzeSingleBz2
  | .xz => analyzeSingleXz

/-- A decoder is one for a format. A compressed TAR file is also a compressed file. -/
def Decoder.handles : Decoder → ArchiveFormat → Bool
  | .zip, format => format = .zip
  | .tar, format => format = .tar
  | .tarGz, format => format = .tgz || format = .gz
  | .tarBz2, format => format = .tbz2 || format = .bz2
  | .tarXz, format => format = .txz || format = .xz
  | .gz, format => format = .gz
  | .bz2, format => format = .bz2
  | .xz, format => format = .xz

/-- The suffixes of names in the order in which `analyze_path` tries them, with their decoders. -/
def decoderTable : List (String × Decoder) :=
  [(".tar.gz", .tarGz), (".tgz", .tarGz), (".tar.bz2", .tarBz2), (".tbz2", .tarBz2),
    (".tar.xz", .tarXz), (".txz", .tarXz), (".tar", .tar), (".gz", .gz), (".bz2", .bz2),
    (".xz", .xz)]

/-- The decoder for a lowercase name. -/
def decoderOf (name : String) : Decoder :=
  ((decoderTable.find? fun entry ↦ endsWith name entry.1).map Prod.snd).getD .zip

/-- `analyze_path` runs the decoder for the name. -/
theorem analyzePath_eq (tools : ArchiveTools) (path filename : String) (content : List UInt8) :
    analyzePath tables tools path filename content =
      (decoderOf (toLowercase tables filename)).analyze tables tools path content := by
  simp only [analyzePath, decoderOf, decoderTable, List.find?_cons, List.find?_nil]
  generalize toLowercase tables filename = name
  cases endsWith name ".tar.gz"
  case true => rfl
  cases endsWith name ".tgz"
  case true => rfl
  cases endsWith name ".tar.bz2"
  case true => rfl
  cases endsWith name ".tbz2"
  case true => rfl
  cases endsWith name ".tar.xz"
  case true => rfl
  cases endsWith name ".txz"
  case true => rfl
  cases endsWith name ".tar"
  case true => rfl
  cases endsWith name ".gz"
  case true => rfl
  cases endsWith name ".bz2"
  case true => rfl
  cases endsWith name ".xz" <;> rfl

/-- Tools with which every decoder reports an error of its own. -/
def failingTools : ArchiveTools where
  writeTmp _ _ := true
  openError _ := some ""
  zipEntries _ := .error ""
  tarEntries _ _ := .error ""
  firstBytes _ _ := none

/-- The report of a decoder that cannot open the file. -/
def Decoder.openReport : Decoder → String
  | .zip => "cannot open archive: "
  | .tar => "cannot open TAR: "
  | .tarGz => "cannot open TAR.GZ: "
  | .tarBz2 => "cannot open TAR.BZ2: "
  | .tarXz => "cannot open TAR.XZ: "
  | .gz => "cannot open GZ: "
  | .bz2 => "cannot open BZ2: "
  | .xz => "cannot open XZ: "

/-- No two decoders are the same analysis. -/
theorem Decoder.analyze_injective {tables : UnicodeTables} {first second : Decoder}
    (hsame : ∀ tools path content,
      first.analyze tables tools path content = second.analyze tables tools path content) :
    first = second := by
  have hreport : ∀ decoder : Decoder,
      decoder.analyze tables failingTools "" [] = (true, decoder.openReport) := by
    intro decoder
    cases decoder <;> rfl
  have hequal := hsame failingTools "" []
  rw [hreport, hreport] at hequal
  have htext : first.openReport = second.openReport := (Prod.mk.inj hequal).2
  cases first <;> cases second <;> first | rfl | exact absurd htext (by decide)

/-! ### Names that fit a format -/

/-- The suffixes of the names of a format other than ZIP. -/
def suffixesOf : ArchiveFormat → List String
  | .zip => []
  | .tar => [".tar"]
  | .gz => [".tar.gz", ".tgz", ".gz"]
  | .bz2 => [".tar.bz2", ".tbz2", ".bz2"]
  | .xz => [".tar.xz", ".txz", ".xz"]
  | .tgz => [".tar.gz", ".tgz"]
  | .tbz2 => [".tar.bz2", ".tbz2"]
  | .txz => [".tar.xz", ".txz"]

/-- A name fits a format: it has one of the suffixes of the format, or the format is ZIP and the
name has none of the suffixes of the other formats. -/
def NameFits (name : String) (format : ArchiveFormat) : Prop :=
  (format = .zip ∧ ∀ suffix ∈ otherSuffixes, endsWith name suffix = false) ∨
    ∃ suffix ∈ suffixesOf format, endsWith name suffix = true

/-- Of two suffixes of one name the one is a suffix of the other. -/
theorem suffix_or_suffix_of_endsWith {name first second : String}
    (hfirst : endsWith name first = true) (hsecond : endsWith name second = true) :
    first.toList <:+ second.toList ∨ second.toList <:+ first.toList :=
  List.suffix_or_suffix_of_suffix (of_decide_eq_true hfirst) (of_decide_eq_true hsecond)

/-- A suffix that is tried before another one of the same name has a decoder for the formats of the
other. -/
theorem handles_of_le : ∀ format, ∀ first second : Fin decoderTable.length, first ≤ second →
    (decoderTable[first].1.toList <:+ decoderTable[second].1.toList ∨
      decoderTable[second].1.toList <:+ decoderTable[first].1.toList) →
      decoderTable[second].1 ∈ suffixesOf format → decoderTable[first].2.handles format = true := by
  intro format
  cases format <;> decide +kernel

/-- The suffixes of a format are in the table. -/
theorem mem_otherSuffixes_of_mem {format : ArchiveFormat} :
    ∀ suffix ∈ suffixesOf format, suffix ∈ otherSuffixes := by
  cases format <;> decide

/-- The formats that a decoder of the table handles have its suffix. -/
theorem mem_suffixesOf_of_handles {format : ArchiveFormat} :
    ∀ entry ∈ decoderTable, entry.2.handles format = true → entry.1 ∈ suffixesOf format := by
  cases format <;> decide

/-- The decoder for a name handles exactly the formats that the name fits. -/
theorem handles_decoderOf_iff {name : String} {format : ArchiveFormat} :
    (decoderOf name).handles format = true ↔ NameFits name format := by
  have hsuffixes : otherSuffixes = decoderTable.map Prod.fst := rfl
  rcases hfind : decoderTable.find? (fun entry ↦ endsWith name entry.1) with _ | entry
  · have hnone : ∀ suffix ∈ otherSuffixes, endsWith name suffix = false := by
      intro suffix hsuffix
      rw [hsuffixes] at hsuffix
      obtain ⟨entry, hentry, rfl⟩ := List.mem_map.mp hsuffix
      exact Bool.not_eq_true _ ▸ List.find?_eq_none.mp hfind entry hentry
    have hdecoder : decoderOf name = .zip := by rw [decoderOf, hfind]; rfl
    rw [hdecoder, Decoder.handles, decide_eq_true_iff]
    constructor
    · exact fun hzip ↦ .inl ⟨hzip, hnone⟩
    · rintro (⟨hzip, -⟩ | ⟨suffix, hsuffix, hends⟩)
      · exact hzip
      · rw [hnone suffix (mem_otherSuffixes_of_mem suffix hsuffix)] at hends
        cases hends
  · have hdecoder : decoderOf name = entry.2 := by rw [decoderOf, hfind]; rfl
    obtain ⟨hentry, place, hplace, rfl, hbefore⟩ := List.find?_eq_some_iff_getElem.mp hfind
    rw [hdecoder]
    constructor
    · intro hhandles
      exact .inr ⟨_, mem_suffixesOf_of_handles _ (List.getElem_mem hplace) hhandles, hentry⟩
    · rintro (⟨-, hnone⟩ | ⟨suffix, hsuffix, hends⟩)
      · have hmem : decoderTable[place].1 ∈ otherSuffixes :=
          hsuffixes ▸ List.mem_map_of_mem (List.getElem_mem hplace)
        rw [hnone _ hmem] at hentry
        cases hentry
      · have hmem := mem_otherSuffixes_of_mem suffix hsuffix
        rw [hsuffixes] at hmem
        obtain ⟨other, hother, rfl⟩ := List.mem_map.mp hmem
        obtain ⟨behind, hbehind, rfl⟩ := List.getElem_of_mem hother
        -- A suffix in front of the first one that fits does not fit.
        have hle : place ≤ behind := by
          by_contra hlt
          have hfails := hbefore behind (Nat.lt_of_not_le hlt)
          rw [hends] at hfails
          cases hfails
        exact handles_of_le format ⟨place, hplace⟩ ⟨behind, hbehind⟩ hle
          (suffix_or_suffix_of_endsWith hentry hends) hsuffix

/-! ### The categories -/

/-- The extensions of the formats of office documents. -/
def officeExts : List String :=
  ["docx", "xlsx", "pptx", "doc", "xls", "ppt", "rtf"]

variable {tables}

/-- Every archive has a format that its extension or its type names. -/
theorem exists_namedFormat {filename fileType : String}
    (hcategory : detectCategory tables filename fileType = .archive) :
    ∃ format, namedFormat tables filename fileType = some format := by
  rcases hformat : namedFormat tables filename fileType with _ | format
  · exfalso
    rw [namedFormat, Option.or_eq_none_iff] at hformat
    obtain ⟨hext, htype⟩ := hformat
    have hall : ∀ ext ∈ ["zip", "jar", "war", "ear", "tar", "gz", "tgz", "bz2", "tbz2", "xz",
        "txz"], formatOfExt ext ≠ none := by
      decide
    have hother : ¬ lowerExt tables filename ∈ ["zip", "jar", "war", "ear", "tar", "gz", "tgz",
        "bz2", "tbz2", "xz", "txz"] := fun hmem ↦ hall _ hmem hext
    rw [lowerExt] at hother
    rw [formatOfType] at htype
    split_ifs at htype with hzip htar hgzip hbzip2 hxz hxgzip
    simp only [detectCategory, hother, hzip, htar, hgzip, hbzip2, hxz, hxgzip, decide_false,
      Bool.or_self, Bool.false_eq_true, if_false] at hcategory
    split_ifs at hcategory
  · exact ⟨format, rfl⟩

/-- The summary of an office document without an analysis. -/
def unsupportedOffice : String := "unsupported office format"

/-- The summary of a script without an analysis. -/
def unsupportedScript : String := "unsupported script type"

/-- What an analysis of a container says: that it cannot be parsed, or what was found. -/
theorem summary_analyzeOoxml (tools : Office.OfficeTools) (buf : List UInt8) :
    (Office.analyzeOoxml tables tools buf).2 = "ZIP parse error - analysis skipped" ∨
      ∃ blocking info,
        (Office.analyzeOoxml tables tools buf).2 = Office.buildSummary blocking info := by
  rw [Office.analyzeOoxml]
  split
  · exact .inl rfl
  · exact .inr ⟨_, _, rfl⟩

theorem summary_analyzeOle (tools : Office.OfficeTools) (buf : List UInt8) :
    (Office.analyzeOle tables tools buf).2 = "CFB parse error - analysis skipped" ∨
      ∃ blocking info,
        (Office.analyzeOle tables tools buf).2 = Office.buildSummary blocking info := by
  rw [Office.analyzeOle]
  split
  · exact .inl rfl
  · exact .inr ⟨_, _, rfl⟩

theorem buildSummary_ne_unsupportedOffice (blocking info : List String) :
    Office.buildSummary blocking info ≠ unsupportedOffice :=
  summaryOf_ne (by decide) (by decide) (by decide) blocking info

/-- An office document is analyzed when its extension is that of a format. -/
theorem office_analyze_ne_unsupported {filename : String}
    (hext : lowerExt tables filename ∈ officeExts) (tools : Office.OfficeTools) (file : FdRead)
    (tmpDir : String) :
    (Office.analyze tables tools file filename tmpDir).2 ≠ unsupportedOffice := by
  rw [Office.analyze]
  cases file.bytes with
  | none => exact show "read error - analysis skipped" ≠ unsupportedOffice by decide
  | some buf =>
    simp only
    split_ifs with hooxml hole hrtf
    · rcases summary_analyzeOoxml tools buf with herror | ⟨blocking, info, hsummary⟩
      · rw [herror]
        decide
      · rw [hsummary]
        exact buildSummary_ne_unsupportedOffice blocking info
    · rcases summary_analyzeOle tools buf with herror | ⟨blocking, info, hsummary⟩
      · rw [herror]
        decide
      · rw [hsummary]
        exact buildSummary_ne_unsupportedOffice blocking info
    · rw [Office.analyzeRtf]
      exact buildSummary_ne_unsupportedOffice _ _
    · have hsplit : officeExts =
          ["docx", "xlsx", "pptx"] ++ (["doc", "xls", "ppt"] ++ ["rtf"]) := rfl
      rw [hsplit, List.mem_append, List.mem_append, List.mem_singleton] at hext
      exact absurd hext (not_or.mpr ⟨hooxml, not_or.mpr ⟨hole, hrtf⟩⟩)

theorem script_buildSummary_ne_unsupported (blocking info : List String) (ext : String) :
    Script.buildSummary blocking info ext ≠ unsupportedScript := by
  refine summaryOf_ne (fun hsame ↦ ?_) (by decide) (by decide) blocking info
  have hhead := congrArg (fun text : String ↦ text.toList.head?) hsame
  simp only [String.toList_append] at hhead
  exact absurd (Option.some.inj hhead) (by decide)

/-- A script is analyzed when there is a table of patterns for it. -/
theorem script_analyze_ne_unsupported {filename : String} {patterns : List Script.Pattern}
    (hpatterns : Script.patternsOf (lowerExt tables filename) = some patterns) (file : FdRead) :
    (Script.analyze tables file filename).2 ≠ unsupportedScript := by
  cases file with
  | dupFailed => exact show "fd dup failed" ≠ unsupportedScript by decide
  | readFailed => exact show "file read failed" ≠ unsupportedScript by decide
  | content bytes =>
    simp only [Script.analyze, hpatterns]
    cases fromUtf8 bytes with
    | none => exact show "file read failed" ≠ unsupportedScript by decide
    | some content => exact script_buildSummary_ne_unsupported _ _ _

/-- The analyzers of a file do not find that its format is not one of their category, and an archive
is analyzed with a decoder for the format that its extension or its type names. -/
structure FormatsAgree (tables : UnicodeTables) (filename fileType : String) : Prop where
  office : detectCategory tables filename fileType = .office → ∀ tools file tmpDir,
    (Office.analyze tables tools file filename tmpDir).2 ≠ unsupportedOffice
  script : detectCategory tables filename fileType = .script → ∀ file,
    (Script.analyze tables file filename).2 ≠ unsupportedScript
  archive : detectCategory tables filename fileType = .archive →
    ∃ (format : ArchiveFormat) (decoder : Decoder),
      namedFormat tables filename fileType = some format ∧ decoder.handles format = true ∧
        ∀ tools path content, analyzePath tables tools path filename content =
          decoder.analyze tables tools path content

/-- A document has the extension of a format, and the name of an archive fits the format that its
extension or its type names. -/
structure NameFitsCategory (tables : UnicodeTables) (filename fileType : String) : Prop where
  office : detectCategory tables filename fileType = .office →
    lowerExt tables filename ∈ officeExts
  archive : detectCategory tables filename fileType = .archive →
    ∀ format, namedFormat tables filename fileType = some format →
      NameFits (toLowercase tables filename) format

/-- The category and the analyzers agree on the format of a file if and only if its name fits its
category. -/
theorem formatsAgree_iff (tables : UnicodeTables) (filename fileType : String) :
    FormatsAgree tables filename fileType ↔ NameFitsCategory tables filename fileType := by
  constructor
  · intro hagree
    constructor
    · intro hcategory
      by_contra hext
      simp only [officeExts, List.mem_cons, List.not_mem_nil, or_false, not_or] at hext
      apply hagree.office hcategory ⟨fun _ ↦ none, fun _ ↦ none⟩ (.content []) ""
      simp [Office.analyze, FdRead.bytes, hext, unsupportedOffice]
    · intro hcategory format hformat
      obtain ⟨other, decoder, hother, hhandles, hsame⟩ := hagree.archive hcategory
      obtain rfl : format = other := Option.some.inj (hformat.symm.trans hother)
      rw [← handles_decoderOf_iff]
      have hdecoder : decoderOf (toLowercase tables filename) = decoder :=
        Decoder.analyze_injective fun tools path content ↦ by
          rw [← analyzePath_eq, hsame tools path content]
      rw [hdecoder]
      exact hhandles
  · intro hfits
    constructor
    · intro hcategory tools file tmpDir
      exact office_analyze_ne_unsupported (hfits.office hcategory) tools file tmpDir
    · intro hcategory file
      obtain ⟨patterns, hpatterns⟩ := Script.exists_patternsOf hcategory
      exact script_analyze_ne_unsupported hpatterns file
    · intro hcategory
      obtain ⟨format, hformat⟩ := exists_namedFormat hcategory
      exact ⟨format, _, hformat, handles_decoderOf_iff.mpr (hfits.archive hcategory format hformat),
        fun tools path content ↦ analyzePath_eq tables tools path filename content⟩

/-- The category and the analyzers do not always agree: a document that is known by its type is not
analyzed. -/
theorem not_formatsAgree_msword : ¬ FormatsAgree asciiTables "a.bin" "application/msword" := by
  intro hagree
  have hcategory : detectCategory asciiTables "a.bin" "application/msword" = .office := by
    decide +kernel
  apply hagree.office hcategory ⟨fun _ ↦ none, fun _ ↦ none⟩ (.content []) ""
  decide +kernel

end Keysas.Analyze
