import Keysas.Rust.Text

/-!
# Archive analysis

The analyzer of archives looks for encrypted entries and for executables, by extension and by magic
number, and refuses the first it finds with a summary that names the entry. `analyze` copies the
file to a temporary one, and `analyzePath` chooses the format by the name.

The readers of the formats are libraries. `ArchiveTools` is what they return for a content: the
entries of a ZIP or a TAR file, and the first bytes that a decompressor delivers.
-/

set_option autoImplicit false
set_option relaxedAutoImplicit false

namespace Keysas.Analyze

open RustStd

/-! ### What the libraries return -/

/-- The metadata of a ZIP entry, read without decompression. -/
structure RawZipEntry where
  isDir : Bool
  encrypted : Bool
  name : String

/-- A ZIP entry opened for reading: its name, and its first at most 8 bytes as one read delivers
them, when the read succeeds. -/
structure OpenZipEntry where
  name : String
  header : Option (List UInt8)

/-- What the ZIP reader returns for one index: `by_index_raw` and `by_index`, when they succeed. -/
structure ZipEntry where
  raw : Option RawZipEntry
  opened : Option OpenZipEntry

/-- The types of TAR entries that are told apart. -/
inductive TarEntryType where
  | regular
  | continuous
  | other
  deriving DecidableEq

/-- A TAR entry: its path, when it is one, and its first at most 8 bytes as one read delivers
them. -/
structure TarEntry where
  entryType : TarEntryType
  path : Option OsString
  header : Option (List UInt8)

/-- The compressions. -/
inductive Compression where
  | plain
  | gz
  | bz2
  | xz
  deriving DecidableEq

/-- The file system and the libraries as the analyzer sees them. -/
structure ArchiveTools where
  /-- Whether a content is written to the temporary file at a path. -/
  writeTmp : String → List UInt8 → Bool
  /-- The error of opening the temporary file at a path, if there is one. -/
  openError : String → Option String
  /-- The entries of a ZIP file, or the error of the reader. -/
  zipEntries : List UInt8 → Except String (List ZipEntry)
  /-- The entries of a compressed TAR file, each when it is read, or the error of the reader. -/
  tarEntries : Compression → List UInt8 → Except String (List (Option TarEntry))
  /-- The first at most 8 bytes that a decompressor delivers in one read. -/
  firstBytes : Compression → List UInt8 → Option (List UInt8)

/-! ### Executables -/

/-- `EXEC_MAGIC`. -/
def execMagic : List (List UInt8 × String) :=
  [([0x7F, 0x45, 0x4C, 0x46], "ELF executable"),
    ([0x4D, 0x5A], "PE/DOS executable"),
    ([0xCA, 0xFE, 0xBA, 0xBE], "Mach-O fat binary"),
    ([0xFE, 0xED, 0xFA, 0xCE], "Mach-O 32-bit BE"),
    ([0xFE, 0xED, 0xFA, 0xCF], "Mach-O 64-bit BE"),
    ([0xCE, 0xFA, 0xED, 0xFE], "Mach-O 32-bit LE"),
    ([0xCF, 0xFA, 0xED, 0xFE], "Mach-O 64-bit LE")]

/-- `EXEC_EXTENSIONS`. -/
def execExtensions : List String :=
  ["exe", "dll", "com", "efi", "msi", "scr", "pif", "elf", "so", "dylib", "bat", "cmd", "ps1",
    "vbs", "vbe", "hta"]

/-- `is_executable_magic`: the description of the first magic number that the data starts with. -/
def isExecutableMagic (data : List UInt8) : Option String :=
  (execMagic.find? fun magic ↦ magic.1.isPrefixOf data).map Prod.snd

variable (tables : UnicodeTables)

/-- `has_exec_extension`. -/
def hasExecExtension (name : String) : Bool :=
  decide (toLowercase tables ((extension name).getD "") ∈ execExtensions)

/-! ### Entries one by one -/

/-- The loops over entries: the first reason to refuse an entry refuses the archive. -/
def scanEntries {α : Type} (refusal : α → Option String) (clean : String) (entries : List α) :
    Bool × String :=
  match entries.findSome? refusal with
  | some reason => (false, reason)
  | none => (true, clean)

section ScanEntries

variable {α : Type} {refusal : α → Option String} {clean : String}

theorem scanEntries_of_refusal {before after : List α} {entry : α} {reason : String}
    (hbefore : ∀ other ∈ before, refusal other = none) (hentry : refusal entry = some reason) :
    scanEntries refusal clean (before ++ entry :: after) = (false, reason) := by
  have hnone : before.findSome? refusal = none := List.findSome?_eq_none_iff.mpr hbefore
  have hfound : (before ++ entry :: after).findSome? refusal = some reason := by
    rw [List.findSome?_append, hnone, List.findSome?_cons, hentry]
    rfl
  unfold scanEntries
  rw [hfound]

theorem scanEntries_passes_iff {entries : List α} :
    (scanEntries refusal clean entries).1 = true ↔ ∀ entry ∈ entries, refusal entry = none := by
  unfold scanEntries
  rw [← List.findSome?_eq_none_iff]
  cases entries.findSome? refusal with
  | none => simp
  | some reason => simp

end ScanEntries

/-! ### ZIP -/

/-- The reason to refuse an archive for one of its ZIP entries: the body of the loop of
`analyze_zip`. -/
def zipEntryRefusal (entry : ZipEntry) : Option String :=
  match entry.raw with
  | none => none
  | some raw =>
    if raw.isDir then none
    else if raw.encrypted then some ("encrypted entry: " ++ raw.name)
    else if hasExecExtension tables raw.name then some ("executable by extension: " ++ raw.name)
    else
      match entry.opened with
      | none => none
      | some opened =>
        (opened.header.bind isExecutableMagic).map fun description ↦
          "executable content (" ++ description ++ "): " ++ opened.name

/-- `analyze_zip`. -/
def analyzeZip (tools : ArchiveTools) (path : String) (content : List UInt8) : Bool × String :=
  match tools.openError path with
  | some error => (true, "cannot open archive: " ++ error)
  | none =>
    match tools.zipEntries content with
    | .error error => (true, "cannot parse ZIP: " ++ error)
    | .ok entries =>
      scanEntries (zipEntryRefusal tables) "no encrypted or executable content" entries

/-! ### TAR -/

/-- The reason to refuse an archive for one of its TAR entries: the body of the loop of
`analyze_tar_stream`. -/
def tarEntryRefusal (entry : Option TarEntry) : Option String :=
  match entry with
  | none => none
  | some entry =>
    if entry.entryType = .other then none
    else
      let path := (entry.path.map OsString.toStringLossy).getD ""
      if hasExecExtension tables path then some ("executable by extension: " ++ path)
      else
        (entry.header.bind isExecutableMagic).map fun description ↦
          "executable content (" ++ description ++ "): " ++ path

/-- `analyze_tar_stream`. -/
def analyzeTarStream (entries : Except String (List (Option TarEntry))) : Bool × String :=
  match entries with
  | .error error => (true, "cannot read TAR entries: " ++ error)
  | .ok entries => scanEntries (tarEntryRefusal tables) "no executable content" entries

/-- The analysis of a TAR file under a compression. -/
def analyzeTarFile (compression : Compression) (format : String) (tools : ArchiveTools)
    (path : String) (content : List UInt8) : Bool × String :=
  match tools.openError path with
  | some error => (true, "cannot open " ++ format ++ ": " ++ error)
  | none => analyzeTarStream tables (tools.tarEntries compression content)

/-- `analyze_tar`. -/
def analyzeTar := analyzeTarFile tables .plain "TAR"

/-- `analyze_tar_gz`. -/
def analyzeTarGz := analyzeTarFile tables .gz "TAR.GZ"

/-- `analyze_tar_bz2`. -/
def analyzeTarBz2 := analyzeTarFile tables .bz2 "TAR.BZ2"

/-- `analyze_tar_xz`. -/
def analyzeTarXz := analyzeTarFile tables .xz "TAR.XZ"

/-! ### Single compressed files -/

/-- `check_decompressed_magic`, on what the first read delivers. -/
def checkDecompressedMagic (header : Option (List UInt8)) (format : String) : Bool × String :=
  match (header.filter fun bytes ↦ decide (2 ≤ bytes.length)).bind isExecutableMagic with
  | some description =>
    (false, "executable after " ++ format ++ " decompression (" ++ description ++ ")")
  | none => (true, "no executable content")

/-- The analysis of a single compressed file. -/
def analyzeSingle (compression : Compression) (format : String) (tools : ArchiveTools)
    (path : String) (content : List UInt8) : Bool × String :=
  match tools.openError path with
  | some error => (true, "cannot open " ++ format ++ ": " ++ error)
  | none => checkDecompressedMagic (tools.firstBytes compression content) format

/-- `analyze_single_gz`. -/
def analyzeSingleGz := analyzeSingle .gz "GZ"

/-- `analyze_single_bz2`. -/
def analyzeSingleBz2 := analyzeSingle .bz2 "BZ2"

/-- `analyze_single_xz`. -/
def analyzeSingleXz := analyzeSingle .xz "XZ"

/-! ### Files -/

/-- `sanitize_filename`. -/
def sanitizeFilename (name : String) : String :=
  String.ofList (name.toList.map fun character ↦
    if tables.alphanumeric character || character = '.' then character else '_')

/-- `analyze_path`: the format by the lowercase name, ZIP when no other fits. -/
def analyzePath (tools : ArchiveTools) (path filename : String) (content : List UInt8) :
    Bool × String :=
  let name := toLowercase tables filename
  if endsWith name ".tar.gz" || endsWith name ".tgz" then analyzeTarGz tables tools path content
  else if endsWith name ".tar.bz2" || endsWith name ".tbz2" then
    analyzeTarBz2 tables tools path content
  else if endsWith name ".tar.xz" || endsWith name ".txz" then
    analyzeTarXz tables tools path content
  else if endsWith name ".tar" then analyzeTar tables tools path content
  else if endsWith name ".gz" then analyzeSingleGz tools path content
  else if endsWith name ".bz2" then analyzeSingleBz2 tools path content
  else if endsWith name ".xz" then analyzeSingleXz tools path content
  else analyzeZip tables tools path content

/-- `analyze`. -/
def analyzeArchive (tools : ArchiveTools) (content : List UInt8) (filename tmpDir : String) :
    Bool × String :=
  let tmpPath := tmpDir ++ "/archive_" ++ sanitizeFilename tables filename
  if tools.writeTmp tmpPath content then analyzePath tables tools tmpPath filename content
  else (true, "temp file write failed — analysis skipped")

/-! ### Refused archives -/

variable {tables}

/-- The names of the other formats. -/
def otherSuffixes : List String :=
  [".tar.gz", ".tgz", ".tar.bz2", ".tbz2", ".tar.xz", ".txz", ".tar", ".gz", ".bz2", ".xz"]

/-- A file without a name of another format is read as a ZIP file. -/
theorem analyzePath_eq_analyzeZip {tools : ArchiveTools} {path filename : String}
    {content : List UInt8}
    (hname : ∀ suffix ∈ otherSuffixes, endsWith (toLowercase tables filename) suffix = false) :
    analyzePath tables tools path filename content = analyzeZip tables tools path content := by
  simp only [otherSuffixes, List.mem_cons, List.not_mem_nil, or_false, forall_eq_or_imp,
    forall_eq] at hname
  simp [analyzePath, hname]

/-- A ZIP file is refused with the reason of its first refused entry. -/
theorem analyzeZip_eq_of_refusal {tools : ArchiveTools} {path : String} {content : List UInt8}
    {before after : List ZipEntry} {entry : ZipEntry} {reason : String}
    (hopen : tools.openError path = none)
    (hentries : tools.zipEntries content = .ok (before ++ entry :: after))
    (hbefore : ∀ other ∈ before, zipEntryRefusal tables other = none)
    (hentry : zipEntryRefusal tables entry = some reason) :
    analyzeZip tables tools path content = (false, reason) := by
  unfold analyzeZip
  rw [hopen, hentries]
  exact scanEntries_of_refusal hbefore hentry

/-- A ZIP file is accepted only when the reader fails or no entry is refused. -/
theorem analyzeZip_passes_iff {tools : ArchiveTools} {path : String} {content : List UInt8} :
    (analyzeZip tables tools path content).1 = true ↔
      tools.openError path ≠ none ∨ ∀ entries, tools.zipEntries content = .ok entries →
        ∀ entry ∈ entries, zipEntryRefusal tables entry = none := by
  unfold analyzeZip
  cases tools.openError path with
  | some error => simp
  | none =>
    cases tools.zipEntries content with
    | error error => simp
    | ok entries => simp [scanEntries_passes_iff]

end Keysas.Analyze
