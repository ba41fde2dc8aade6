import Keysas.Analyze.Formats
import Keysas.Crypto.Base64
import Keysas.Transit.SideDaemons

/-!
# Names of temporary files

The analyzer of archives copies an archive to a temporary file, whose name is that of the archive
with every character replaced that is neither alphanumeric nor a dot, behind the text `archive_`. A
file system takes names of at most `nameMax` bytes. `isAnalyzed_iff` says that the name of an
archive is no obstacle to its analysis exactly when it has at most 247 bytes, where a replaced
character counts as one. Under a longer name the archive passes without an analysis
(`analyzeArchive_of_long`).
-/

set_option autoImplicit false
set_option relaxedAutoImplicit false

namespace Keysas.Analyze

open Crypto RustStd Transit Wire.Bincode

/-! ### Names -/

/-- `NAME_MAX`. -/
def nameMax : ℕ := 255

/-- The name of the temporary file for an archive. -/
def tmpName (tables : UnicodeTables) (filename : String) : String :=
  "archive_" ++ sanitizeFilename tables filename

/-- A file can be written into a directory under every name that a file system takes. -/
def ArchiveTools.Writable (tools : ArchiveTools) (directory : String) : Prop :=
  ∀ name content, name ≠ "" → name ≠ "." → name ≠ ".." → '/' ∉ name.toList →
    tools.writeTmp (directory ++ "/" ++ name) content = decide (name.utf8ByteSize ≤ nameMax)

/-- The bytes of a name when every character that is neither alphanumeric nor a dot counts as
one. -/
def keptBytes (tables : UnicodeTables) (filename : String) : ℕ :=
  (filename.toList.map fun character ↦
    if tables.alphanumeric character || character = '.' then character.utf8Size else 1).sum

variable {tables : UnicodeTables}

theorem utf8ByteSize_sanitizeFilename (tables : UnicodeTables) (filename : String) :
    (sanitizeFilename tables filename).utf8ByteSize = keptBytes tables filename := by
  rw [sanitizeFilename, keptBytes]
  induction filename.toList with
  | nil => rfl
  | cons character characters ih =>
    rw [List.map_cons, List.map_cons, List.sum_cons, Base64.utf8ByteSize_ofList_cons, ih]
    congr 1
    split_ifs
    · rfl
    · rfl

theorem slash_notMem_sanitizeFilename (tables : UnicodeTables) (filename : String) :
    '/' ∉ (sanitizeFilename tables filename).toList := by
  rw [sanitizeFilename, String.toList_ofList, List.mem_map]
  rintro ⟨character, -, hslash⟩
  split_ifs at hslash with hkept
  · have hordinary : tables.alphanumeric '/' = false :=
      (tables.alphanumeric_ascii '/' (by decide)).trans (by decide)
    rw [hslash, hordinary] at hkept
    exact absurd hkept (by decide)
  · exact absurd hslash (by decide)

/-- The name of a temporary file is one that a file system takes when it is short enough. -/
theorem writeTmp_tmpName (tables : UnicodeTables) {tools : ArchiveTools} {tmpDir : String}
    (hwritable : tools.Writable tmpDir) (filename : String) (content : List UInt8) :
    tools.writeTmp (tmpDir ++ "/archive_" ++ sanitizeFilename tables filename) content =
      decide ((tmpName tables filename).utf8ByteSize ≤ nameMax) := by
  have hjoined : tmpDir ++ "/archive_" ++ sanitizeFilename tables filename =
      tmpDir ++ "/" ++ tmpName tables filename := by
    have hlabel : "/archive_" = "/" ++ "archive_" := rfl
    rw [tmpName, hlabel]
    simp only [String.append_assoc]
  have hhead : (tmpName tables filename).toList.head? = some 'a' := by
    rw [tmpName, String.toList_append]
    rfl
  rw [hjoined]
  apply hwritable
  · intro hempty
    rw [hempty] at hhead
    exact absurd hhead (by decide)
  · intro hdot
    rw [hdot] at hhead
    exact absurd hhead (by decide)
  · intro hdots
    rw [hdots] at hhead
    exact absurd hhead (by decide)
  · rw [tmpName, String.toList_append, List.mem_append, not_or]
    exact ⟨by decide, slash_notMem_sanitizeFilename tables filename⟩

theorem utf8ByteSize_tmpName (tables : UnicodeTables) (filename : String) :
    (tmpName tables filename).utf8ByteSize =
      8 + keptBytes tables filename := by
  rw [tmpName, String.utf8ByteSize_append, utf8ByteSize_sanitizeFilename]
  rfl

/-! ### Summaries of analyses -/

/-- The summary of an archive without an analysis. -/
def skippedArchive : String := "temp file write failed — analysis skipped"

/-- A summary begins with one of the letters of the summaries of analyses. -/
def IsAnalysis (summary : String) : Prop :=
  summary.toList.head? ∈ [some 'c', some 'e', some 'n']

instance decidableIsAnalysis (summary : String) : Decidable (IsAnalysis summary) :=
  inferInstanceAs (Decidable (summary.toList.head? ∈ [some 'c', some 'e', some 'n']))

/-- What begins with a summary of an analysis is one. -/
theorem IsAnalysis.append {summary : String} (hsummary : IsAnalysis summary) (rest : String) :
    IsAnalysis (summary ++ rest) := by
  rw [IsAnalysis, String.toList_append, List.head?_append]
  rw [IsAnalysis] at hsummary
  rcases hhead : summary.toList.head? with _ | letter
  · rw [hhead] at hsummary
    exact absurd hsummary (by decide)
  · rw [hhead] at hsummary
    exact hsummary

theorem isAnalysis_executableContent {header : Option (List UInt8)} {path reason : String}
    (hreason : ((header.bind isExecutableMagic).map fun description ↦
      "executable content (" ++ description ++ "): " ++ path) = some reason) :
    IsAnalysis reason := by
  obtain ⟨description, -, rfl⟩ := Option.map_eq_some_iff.mp hreason
  exact ((IsAnalysis.append (by decide) _).append _).append _

theorem isAnalysis_cannotOpen (format error : String) :
    IsAnalysis ("cannot open " ++ format ++ ": " ++ error) :=
  ((IsAnalysis.append (by decide) _).append _).append _

theorem isAnalysis_zipEntryRefusal {entry : ZipEntry} {reason : String}
    (hreason : zipEntryRefusal tables entry = some reason) : IsAnalysis reason := by
  rw [zipEntryRefusal] at hreason
  split at hreason
  · cases hreason
  split_ifs at hreason with hdir hencrypted hextension
  · obtain rfl := Option.some.inj hreason
    exact IsAnalysis.append (by decide) _
  · obtain rfl := Option.some.inj hreason
    exact IsAnalysis.append (by decide) _
  · split at hreason
    · cases hreason
    · exact isAnalysis_executableContent hreason

theorem isAnalysis_tarEntryRefusal {entry : Option TarEntry} {reason : String}
    (hreason : tarEntryRefusal tables entry = some reason) : IsAnalysis reason := by
  rcases entry with _ | entry
  · cases hreason
  simp only [tarEntryRefusal] at hreason
  split_ifs at hreason with htype hextension
  · obtain rfl := Option.some.inj hreason
    exact IsAnalysis.append (by decide) _
  · exact isAnalysis_executableContent hreason

/-- The summary of a loop over entries is one of an analysis when every reason is. -/
theorem isAnalysis_scanEntries {α : Type} {refusal : α → Option String} {clean : String}
    (hclean : IsAnalysis clean)
    (hrefusal : ∀ entry reason, refusal entry = some reason → IsAnalysis reason)
    (entries : List α) : IsAnalysis (scanEntries refusal clean entries).2 := by
  rw [scanEntries]
  split
  · rename_i reason hfound
    obtain ⟨entry, -, hreason⟩ := List.exists_of_findSome?_eq_some hfound
    exact hrefusal entry reason hreason
  · exact hclean

theorem isAnalysis_analyzeZip (tools : ArchiveTools) (path : String) (content : List UInt8) :
    IsAnalysis (analyzeZip tables tools path content).2 := by
  rw [analyzeZip]
  split
  · exact IsAnalysis.append (by decide) _
  · split
    · exact IsAnalysis.append (by decide) _
    · exact isAnalysis_scanEntries (by decide) (fun _ _ ↦ isAnalysis_zipEntryRefusal) _

theorem isAnalysis_analyzeTarFile (compression : Compression) (format : String)
    (tools : ArchiveTools) (path : String) (content : List UInt8) :
    IsAnalysis (analyzeTarFile tables compression format tools path content).2 := by
  rw [analyzeTarFile]
  split
  · exact isAnalysis_cannotOpen format _
  · rcases tools.tarEntries compression content with error | entries
    · exact IsAnalysis.append (by decide) _
    · exact isAnalysis_scanEntries (by decide) (fun _ _ ↦ isAnalysis_tarEntryRefusal) entries

theorem isAnalysis_analyzeSingle (compression : Compression) (format : String)
    (tools : ArchiveTools) (path : String) (content : List UInt8) :
    IsAnalysis (analyzeSingle compression format tools path content).2 := by
  rw [analyzeSingle]
  split
  · exact isAnalysis_cannotOpen format _
  · rw [checkDecompressedMagic]
    split
    · exact (((IsAnalysis.append (by decide) _).append _).append _).append _
    · exact show IsAnalysis "no executable content" by decide

/-- Every decoder returns the summary of an analysis. -/
theorem Decoder.isAnalysis_analyze (tables : UnicodeTables) (decoder : Decoder)
    (tools : ArchiveTools) (path : String) (content : List UInt8) :
    IsAnalysis (decoder.analyze tables tools path content).2 := by
  cases decoder with
  | zip => exact isAnalysis_analyzeZip tools path content
  | tar => exact isAnalysis_analyzeTarFile .plain "TAR" tools path content
  | tarGz => exact isAnalysis_analyzeTarFile .gz "TAR.GZ" tools path content
  | tarBz2 => exact isAnalysis_analyzeTarFile .bz2 "TAR.BZ2" tools path content
  | tarXz => exact isAnalysis_analyzeTarFile .xz "TAR.XZ" tools path content
  | gz => exact isAnalysis_analyzeSingle .gz "GZ" tools path content
  | bz2 => exact isAnalysis_analyzeSingle .bz2 "BZ2" tools path content
  | xz => exact isAnalysis_analyzeSingle .xz "XZ" tools path content

/-! ### Obstacles -/

/-- The name of an archive is no obstacle to its analysis: that of the temporary file is one
component that is not too long, and the analysis is not skipped. -/
structure IsAnalyzed (tables : UnicodeTables) (tools : ArchiveTools) (tmpDir filename : String) :
    Prop where
  separator : '/' ∉ (tmpName tables filename).toList
  short : (tmpName tables filename).utf8ByteSize ≤ nameMax
  analyzed : ∀ content,
    (analyzeArchive tables tools content filename tmpDir).2 ≠ skippedArchive

theorem analyzeArchive_of_long {tools : ArchiveTools} {tmpDir filename : String}
    (hwritable : tools.Writable tmpDir) (hlong : 247 < keptBytes tables filename)
    (content : List UInt8) :
    analyzeArchive tables tools content filename tmpDir = (true, skippedArchive) := by
  have hwritten := writeTmp_tmpName tables hwritable filename content
  have hshort : ¬ (tmpName tables filename).utf8ByteSize ≤ nameMax := by
    rw [utf8ByteSize_tmpName, nameMax]
    omega
  rw [decide_eq_false hshort] at hwritten
  rw [analyzeArchive, hwritten]
  rfl

theorem analyzeArchive_of_short {tools : ArchiveTools} {tmpDir filename : String}
    (hwritable : tools.Writable tmpDir) (hshort : keptBytes tables filename ≤ 247)
    (content : List UInt8) :
    IsAnalysis (analyzeArchive tables tools content filename tmpDir).2 := by
  have hwritten := writeTmp_tmpName tables hwritable filename content
  have hfits : (tmpName tables filename).utf8ByteSize ≤ nameMax := by
    rw [utf8ByteSize_tmpName, nameMax]
    omega
  rw [decide_eq_true hfits] at hwritten
  rw [analyzeArchive, if_pos hwritten, analyzePath_eq]
  exact (decoderOf (toLowercase tables filename)).isAnalysis_analyze tables tools _ content

/-- The name of an archive is no obstacle if and only if it has at most 247 bytes when every
character that is neither alphanumeric nor a dot counts as one byte. Assumes: files can be written
into the directory for temporary files. -/
theorem isAnalyzed_iff (tables : UnicodeTables) {tools : ArchiveTools} {tmpDir : String}
    (hwritable : tools.Writable tmpDir) (filename : String) :
    IsAnalyzed tables tools tmpDir filename ↔ keptBytes tables filename ≤ 247 := by
  constructor
  · intro hanalyzed
    by_contra hlong
    rw [Nat.not_le] at hlong
    have hskipped := analyzeArchive_of_long hwritable hlong []
    exact hanalyzed.analyzed [] (congrArg Prod.snd hskipped)
  · intro hshort
    refine ⟨?_, ?_, fun content hskipped ↦ ?_⟩
    · rw [tmpName, String.toList_append, List.mem_append, not_or]
      exact ⟨by decide, slash_notMem_sanitizeFilename tables filename⟩
    · rw [utf8ByteSize_tmpName, nameMax]
      omega
    · have hsummary := analyzeArchive_of_short hwritable hshort content
      rw [hskipped] at hsummary
      exact absurd hsummary (by decide)

/-- Tools that read nothing, with a directory `/tmp` where files can be written. -/
def tmpTools : ArchiveTools where
  writeTmp path _ := decide (path.utf8ByteSize ≤ 5 + nameMax)
  openError _ := none
  zipEntries _ := .ok []
  tarEntries _ _ := .ok []
  firstBytes _ _ := none

theorem writable_tmpTools : tmpTools.Writable "/tmp" := by
  intro name content _ _ _ _
  have hdirectory : "/tmp".utf8ByteSize = 4 := rfl
  have hslash : "/".utf8ByteSize = 1 := rfl
  simp only [tmpTools, String.utf8ByteSize_append, hdirectory, hslash]
  exact decide_eq_decide.mpr (by omega)

theorem isAnalyzed_iff_zip :
    IsAnalyzed asciiTables tmpTools "/tmp" "a.zip" ↔ keptBytes asciiTables "a.zip" ≤ 247 :=
  isAnalyzed_iff asciiTables writable_tmpTools "a.zip"

/-- A name of 251 letters and an extension is one of 255 bytes, and the archive is skipped. -/
theorem not_isAnalyzed_longName :
    (longName 251 ++ ".zip").utf8ByteSize = 255 ∧ tmpTools.Writable "/tmp" ∧
      ¬ IsAnalyzed asciiTables tmpTools "/tmp" (longName 251 ++ ".zip") := by
  refine ⟨?_, writable_tmpTools, fun hanalyzed ↦ ?_⟩
  · rw [String.utf8ByteSize_append, utf8ByteSize_longName]
    rfl
  · have hbytes : keptBytes asciiTables (longName 251 ++ ".zip") = 251 * 1 + 4 := by
      rw [keptBytes, String.toList_append, longName, String.toList_ofList, List.map_append,
        List.map_replicate, List.sum_append, List.sum_replicate_nat]
      rfl
    have hlong : 247 < keptBytes asciiTables (longName 251 ++ ".zip") := by
      rw [hbytes]
      decide
    have hskipped := analyzeArchive_of_long writable_tmpTools hlong []
    exact hanalyzed.analyzed [] (congrArg Prod.snd hskipped)

end Keysas.Analyze
