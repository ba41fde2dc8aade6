import Mathlib.Data.List.Find
import Keysas.Analyze.ArchiveScan
import Keysas.Rust.Readers

/-!
# What the analyzer of archives sees of an entry

The analyzer reads the front of an entry or of a decompressed file with a single call of `read` into
a buffer of 8 bytes, and compares what that call delivers with the magic numbers. A reader may
deliver less than the buffer has room for. `sameVerdict_iff` says that the verdict does not depend
on the reader, and is that of the content, exactly for the readers whose first chunk covers the
magic number that the content starts with.

`checked_of_passes` says what is known of the entries of an archive that passes. It is about the
entries that could be read: the analyzer logs the others and goes on, and it takes no notice of
directories, of the entries of a TAR file that are not regular files and of contents whose magic
number the first chunk does not cover.
-/

set_option autoImplicit false
set_option relaxedAutoImplicit false

namespace Keysas.Analyze

open RustStd

/-! ### Magic numbers -/

/-- A content starts with one of the magic numbers. -/
def StartsWithMagic (content : List UInt8) : Prop :=
  ∃ magic ∈ execMagic, magic.1 <+: content

theorem isExecutableMagic_ne_none_iff {data : List UInt8} :
    isExecutableMagic data ≠ none ↔ StartsWithMagic data := by
  rw [isExecutableMagic, Ne, Option.map_eq_none_iff, List.find?_eq_none]
  simp [StartsWithMagic]

/-- No magic number is the front of another. -/
theorem eq_of_prefix_of_mem_execMagic :
    ∀ first ∈ execMagic, ∀ second ∈ execMagic, first.1 <+: second.1 → first = second := by
  decide

/-- A content starts with one magic number at most. -/
theorem magic_unique {content : List UInt8} {first second : List UInt8 × String}
    (hfirst : first ∈ execMagic) (hsecond : second ∈ execMagic)
    (hstarts : first.1 <+: content) (hother : second.1 <+: content) : first = second := by
  rcases List.prefix_or_prefix_of_prefix hstarts hother with hbegins | hbegins
  · exact eq_of_prefix_of_mem_execMagic first hfirst second hsecond hbegins
  · exact (eq_of_prefix_of_mem_execMagic second hsecond first hfirst hbegins).symm

/-- Every magic number has at least two bytes. -/
theorem two_le_length_of_mem_execMagic : ∀ magic ∈ execMagic, 2 ≤ magic.1.length := by
  decide

/-! ### The first chunk -/

section FirstChunk

variable {content : List UInt8}

/-- What the first read into a buffer of 8 bytes delivers. -/
def header (reader : Reader content) : List UInt8 :=
  reader.read 0 8

/-- The first chunk has the whole of the magic number that the content starts with. -/
def FirstReadCovers (reader : Reader content) : Prop :=
  ∀ magic ∈ execMagic, magic.1 <+: content → magic.1.length ≤ reader.chunk 0 8

theorem prefix_header_iff {reader : Reader content} {magic : List UInt8} :
    magic <+: header reader ↔ magic <+: content ∧ magic.length ≤ reader.chunk 0 8 := by
  rw [header, reader.prefix_read_iff, List.drop_zero]

/-- What the first chunk starts with, the content starts with. -/
theorem StartsWithMagic.of_header {reader : Reader content}
    (hstarts : StartsWithMagic (header reader)) : StartsWithMagic content := by
  obtain ⟨magic, hmem, hbegins⟩ := hstarts
  exact ⟨magic, hmem, (prefix_header_iff.mp hbegins).1⟩

/-- The first chunk starts with the magic number of the content exactly when it covers it. -/
theorem startsWithMagic_header_iff {reader : Reader content} :
    (StartsWithMagic (header reader) ↔ StartsWithMagic content) ↔ FirstReadCovers reader := by
  constructor
  · intro hsame magic hmem hbegins
    obtain ⟨other, hother, hheader⟩ := hsame.mpr ⟨magic, hmem, hbegins⟩
    obtain ⟨hcontent, hlength⟩ := prefix_header_iff.mp hheader
    rw [magic_unique hmem hother hbegins hcontent]
    exact hlength
  · intro hcovers
    refine ⟨StartsWithMagic.of_header, ?_⟩
    rintro ⟨magic, hmem, hbegins⟩
    exact ⟨magic, hmem, prefix_header_iff.mpr ⟨hbegins, hcovers magic hmem hbegins⟩⟩

/-- A first chunk that covers the magic number is taken for what the content is. -/
theorem isExecutableMagic_header {reader : Reader content} (hcovers : FirstReadCovers reader) :
    isExecutableMagic (header reader) = isExecutableMagic content := by
  unfold isExecutableMagic
  congr 1
  apply List.find?_congr
  intro magic hmem
  rw [Bool.eq_iff_iff, List.isPrefixOf_iff_prefix, List.isPrefixOf_iff_prefix, prefix_header_iff]
  exact and_iff_left_of_imp (hcovers magic hmem)

end FirstChunk

/-! ### The three checks -/

variable {tables : UnicodeTables}

/-- The check of a decompressed file wants two bytes, and so does every magic number. -/
theorem checkDecompressedMagic_some (bytes : List UInt8) (format : String) :
    checkDecompressedMagic (some bytes) format =
      match isExecutableMagic bytes with
      | some description =>
        (false, "executable after " ++ format ++ " decompression (" ++ description ++ ")")
      | none => (true, "no executable content") := by
  rw [checkDecompressedMagic]
  by_cases hlength : 2 ≤ bytes.length
  · rw [Option.filter_some_pos (by simpa using hlength)]
    rfl
  · have hnone : isExecutableMagic bytes = none := by
      by_contra hsome
      obtain ⟨magic, hmem, hbegins⟩ := isExecutableMagic_ne_none_iff.mp hsome
      exact hlength ((two_le_length_of_mem_execMagic magic hmem).trans hbegins.length_le)
    rw [Option.filter_some_neg (by simpa using hlength), Option.bind_none, hnone]

theorem checkDecompressedMagic_blocks_iff {bytes : List UInt8} {format : String} :
    (checkDecompressedMagic (some bytes) format).1 = false ↔ StartsWithMagic bytes := by
  rw [← isExecutableMagic_ne_none_iff, checkDecompressedMagic_some]
  cases isExecutableMagic bytes with
  | none => simp
  | some description => simp

/-- The metadata of a ZIP entry is not a reason to refuse it. -/
structure Unsuspicious (tables : UnicodeTables) (raw : RawZipEntry) : Prop where
  not_isDir : raw.isDir = false
  unencrypted : raw.encrypted = false
  extension : hasExecExtension tables raw.name = false

theorem zipEntryRefusal_header_iff {raw : RawZipEntry} (hraw : Unsuspicious tables raw)
    {name : String} {bytes : List UInt8} :
    zipEntryRefusal tables ⟨some raw, some ⟨name, some bytes⟩⟩ ≠ none ↔ StartsWithMagic bytes := by
  rw [← isExecutableMagic_ne_none_iff]
  simp [zipEntryRefusal, hraw.not_isDir, hraw.unencrypted, hraw.extension]

/-- The path that the analyzer takes for the name of a TAR entry. -/
def tarPath (path : Option OsString) : String :=
  (path.map OsString.toStringLossy).getD ""

theorem tarEntryRefusal_header_iff {entryType : TarEntryType} {path : Option OsString}
    (htype : entryType ≠ .other) (hextension : hasExecExtension tables (tarPath path) = false)
    {bytes : List UInt8} :
    tarEntryRefusal tables (some ⟨entryType, path, some bytes⟩) ≠ none ↔
      StartsWithMagic bytes := by
  rw [← isExecutableMagic_ne_none_iff]
  rw [tarPath] at hextension
  simp [tarEntryRefusal, htype, hextension]

/-- Two readers of one content lead to the same verdict of each check, and the verdict is to block
exactly when the content starts with a magic number. -/
structure SameVerdict (tables : UnicodeTables) {content : List UInt8}
    (first second : Reader content) : Prop where
  decompressed : ∀ format,
    checkDecompressedMagic (some (header first)) format =
        checkDecompressedMagic (some (header second)) format ∧
      ((checkDecompressedMagic (some (header first)) format).1 = false ↔ StartsWithMagic content)
  zip : ∀ raw name, Unsuspicious tables raw →
    zipEntryRefusal tables ⟨some raw, some ⟨name, some (header first)⟩⟩ =
        zipEntryRefusal tables ⟨some raw, some ⟨name, some (header second)⟩⟩ ∧
      (zipEntryRefusal tables ⟨some raw, some ⟨name, some (header first)⟩⟩ ≠ none ↔
        StartsWithMagic content)
  tar : ∀ entryType path, entryType ≠ .other → hasExecExtension tables (tarPath path) = false →
    tarEntryRefusal tables (some ⟨entryType, path, some (header first)⟩) =
        tarEntryRefusal tables (some ⟨entryType, path, some (header second)⟩) ∧
      (tarEntryRefusal tables (some ⟨entryType, path, some (header first)⟩) ≠ none ↔
        StartsWithMagic content)

/-- Two readers of one content lead to the same verdicts, and these are the verdicts of the content,
if and only if the first chunk of each covers the magic number that the content starts with. -/
theorem sameVerdict_iff (tables : UnicodeTables) {content : List UInt8}
    (first second : Reader content) :
    SameVerdict tables first second ↔ FirstReadCovers first ∧ FirstReadCovers second := by
  constructor
  · intro hsame
    obtain ⟨hequal, hblocks⟩ := hsame.decompressed ""
    have hother := hblocks
    rw [hequal] at hother
    rw [checkDecompressedMagic_blocks_iff] at hblocks hother
    exact ⟨startsWithMagic_header_iff.mp hblocks, startsWithMagic_header_iff.mp hother⟩
  · rintro ⟨hfirst, hsecond⟩
    have hstarts := startsWithMagic_header_iff.mpr hfirst
    have hequal : isExecutableMagic (header first) = isExecutableMagic (header second) :=
      (isExecutableMagic_header hfirst).trans (isExecutableMagic_header hsecond).symm
    constructor
    · intro format
      refine ⟨?_, checkDecompressedMagic_blocks_iff.trans hstarts⟩
      rw [checkDecompressedMagic_some, checkDecompressedMagic_some, hequal]
    · intro raw name hraw
      refine ⟨?_, (zipEntryRefusal_header_iff hraw).trans hstarts⟩
      simp only [zipEntryRefusal, hraw.not_isDir, hraw.unencrypted, hraw.extension,
        Option.bind_some, hequal]
    · intro entryType path htype hextension
      refine ⟨?_, (tarEntryRefusal_header_iff htype hextension).trans hstarts⟩
      simp only [tarEntryRefusal, Option.bind_some, hequal]

/-- An executable file of two bytes. -/
def dosFile : List UInt8 := [0x4D, 0x5A]

/-- The verdict is not always the same: a reader that delivers one byte at a time hides the magic
number. -/
theorem not_sameVerdict :
    ¬ SameVerdict asciiTables (Reader.greedy dosFile) (Reader.single dosFile) := by
  intro hsame
  obtain ⟨hequal, -⟩ := hsame.decompressed "GZ"
  exact absurd hequal (by decide +kernel)

/-! ### The entries of an archive that passes -/

/-- An entry of a ZIP file: what it is, and how far it can be read. -/
structure StoredZipEntry where
  name : String
  isDir : Bool
  encrypted : Bool
  content : List UInt8
  /-- `by_index_raw` succeeds. -/
  rawReads : Bool
  /-- `by_index` succeeds. -/
  opens : Bool
  /-- The reader of the content, unless its first read fails. -/
  reader : Option (Reader content)

/-- What the ZIP reader returns for an entry. -/
def StoredZipEntry.toZipEntry (entry : StoredZipEntry) : ZipEntry where
  raw := if entry.rawReads then some ⟨entry.isDir, entry.encrypted, entry.name⟩ else none
  opened := if entry.opens then some ⟨entry.name, entry.reader.map header⟩ else none

/-- An entry of a TAR file: what it is, and how far it can be read. -/
structure StoredTarEntry where
  entryType : TarEntryType
  path : Option OsString
  content : List UInt8
  /-- The header of the entry can be read. -/
  reads : Bool
  /-- The reader of the content, unless its first read fails. -/
  reader : Option (Reader content)

/-- What the TAR reader returns for an entry. -/
def StoredTarEntry.toTarEntry (entry : StoredTarEntry) : Option TarEntry :=
  if entry.reads then some ⟨entry.entryType, entry.path, entry.reader.map header⟩ else none

/-- An entry is unencrypted, its extension is not that of an executable, and neither is its content
as far as it is looked at. -/
structure ZipEntryChecked (tables : UnicodeTables) (entry : StoredZipEntry) : Prop where
  unencrypted : entry.encrypted = false
  extension : hasExecExtension tables entry.name = false
  content : entry.opens = true → ∀ reader, entry.reader = some reader → FirstReadCovers reader →
    ¬ StartsWithMagic entry.content

/-- The extension of an entry is not that of an executable, and neither is its content as far as it
is looked at. -/
structure TarEntryChecked (tables : UnicodeTables) (entry : StoredTarEntry) : Prop where
  extension : hasExecExtension tables (tarPath entry.path) = false
  content : ∀ reader, entry.reader = some reader → FirstReadCovers reader →
    ¬ StartsWithMagic entry.content

/-- A first chunk that shows no magic number and covers the one of the content shows that there is
none. -/
theorem not_startsWithMagic_of_header {content : List UInt8} {reader : Reader content}
    (hnone : isExecutableMagic (header reader) = none) (hcovers : FirstReadCovers reader) :
    ¬ StartsWithMagic content := by
  rw [isExecutableMagic_header hcovers] at hnone
  exact fun hstarts ↦ isExecutableMagic_ne_none_iff.mpr hstarts hnone

/-- An entry of a ZIP file that does not refuse the archive has been checked. Assumes: its metadata
can be read, and it is not a directory. -/
theorem zipEntryChecked_of_refusal {entry : StoredZipEntry}
    (hrefusal : zipEntryRefusal tables entry.toZipEntry = none) (hreads : entry.rawReads = true)
    (hdir : entry.isDir = false) : ZipEntryChecked tables entry := by
  have hencrypted : entry.encrypted = false := by
    rw [Bool.eq_false_iff]
    intro hencrypted
    simp [zipEntryRefusal, StoredZipEntry.toZipEntry, hreads, hdir, hencrypted] at hrefusal
  have hextension : hasExecExtension tables entry.name = false := by
    rw [Bool.eq_false_iff]
    intro hextension
    simp [zipEntryRefusal, StoredZipEntry.toZipEntry, hreads, hdir, hencrypted, hextension]
      at hrefusal
  refine ⟨hencrypted, hextension, fun hopens reader hreader hcovers ↦ ?_⟩
  apply not_startsWithMagic_of_header ?_ hcovers
  simpa [zipEntryRefusal, StoredZipEntry.toZipEntry, hreads, hdir, hencrypted, hextension, hopens,
    hreader] using hrefusal

/-- An entry of a TAR file that does not refuse the archive has been checked. Assumes: it can be
read, and it is a regular file. -/
theorem tarEntryChecked_of_refusal {entry : StoredTarEntry}
    (hrefusal : tarEntryRefusal tables entry.toTarEntry = none) (hreads : entry.reads = true)
    (htype : entry.entryType ≠ .other) : TarEntryChecked tables entry := by
  have hextension : hasExecExtension tables (tarPath entry.path) = false := by
    rw [tarPath, Bool.eq_false_iff]
    intro hextension
    simp [tarEntryRefusal, StoredTarEntry.toTarEntry, hreads, htype, hextension] at hrefusal
  refine ⟨hextension, fun reader hreader hcovers ↦ ?_⟩
  apply not_startsWithMagic_of_header ?_ hcovers
  rw [tarPath] at hextension
  simpa [tarEntryRefusal, StoredTarEntry.toTarEntry, hreads, htype, hextension, hreader]
    using hrefusal

/-- An archive passes only when each of its entries that can be read is unencrypted, has no
extension of an executable, and has no content of one as far as its first chunk covers the magic
number. The entries of a ZIP file that are directories and those of a TAR file that are not regular
files are not looked at. -/
theorem checked_of_passes (tables : UnicodeTables) :
    (∀ (tools : ArchiveTools) (path : String) (content : List UInt8)
        (entries : List StoredZipEntry), tools.openError path = none →
      tools.zipEntries content = .ok (entries.map StoredZipEntry.toZipEntry) →
      (analyzeZip tables tools path content).1 = true →
      ∀ entry ∈ entries, entry.rawReads = true → entry.isDir = false →
        ZipEntryChecked tables entry) ∧
    ∀ entries : List StoredTarEntry,
      (analyzeTarStream tables (.ok (entries.map StoredTarEntry.toTarEntry))).1 = true →
      ∀ entry ∈ entries, entry.reads = true → entry.entryType ≠ .other →
        TarEntryChecked tables entry := by
  constructor
  · intro tools path content entries hopen hentries hpasses entry hmem hreads hdir
    rcases analyzeZip_passes_iff.mp hpasses with hclosed | hnone
    · exact absurd hopen hclosed
    · have hrefusal := hnone _ hentries _ (List.mem_map_of_mem hmem)
      exact zipEntryChecked_of_refusal hrefusal hreads hdir
  · intro entries hpasses entry hmem hreads htype
    have hrefusal := scanEntries_passes_iff.mp hpasses _ (List.mem_map_of_mem hmem)
    exact tarEntryChecked_of_refusal hrefusal hreads htype

/-- Libraries that find the entries of one ZIP file. -/
def zipFileOf (entries : List StoredZipEntry) : ArchiveTools where
  writeTmp _ _ := true
  openError _ := none
  zipEntries _ := .ok (entries.map StoredZipEntry.toZipEntry)
  tarEntries _ _ := .ok []
  firstBytes _ _ := none

/-- A text in a ZIP file. -/
def textEntry : StoredZipEntry where
  name := "note.txt"
  isDir := false
  encrypted := false
  content := [0x68, 0x69]
  rawReads := true
  opens := true
  reader := some (Reader.greedy [0x68, 0x69])

/-- A text in a TAR file. -/
def textFile : StoredTarEntry where
  entryType := .regular
  path := some (.ofText "note.txt")
  content := [0x68, 0x69]
  reads := true
  reader := some (Reader.greedy [0x68, 0x69])

/-- Two archives with a text pass, and the text has been checked. -/
theorem checked_of_passes_text :
    ZipEntryChecked asciiTables textEntry ∧ TarEntryChecked asciiTables textFile :=
  ⟨(checked_of_passes asciiTables).1 (zipFileOf [textEntry]) "" [] [textEntry] rfl rfl
      (by decide +kernel) textEntry (List.mem_singleton_self _) rfl rfl,
    (checked_of_passes asciiTables).2 [textFile] (by decide +kernel) textFile
      (List.mem_singleton_self _) rfl (by decide)⟩

/-- An executable in a ZIP file, whose metadata cannot be read. -/
def unreadEntry : StoredZipEntry where
  name := "setup.exe"
  isDir := false
  encrypted := true
  content := dosFile
  rawReads := false
  opens := true
  reader := some (Reader.greedy dosFile)

/-- An executable in a TAR file, as an entry of another type than a regular file. -/
def sparseFile : StoredTarEntry where
  entryType := .other
  path := some (.ofText "setup.exe")
  content := dosFile
  reads := true
  reader := some (Reader.greedy dosFile)

/-- Not every entry of an archive that passes is unencrypted and harmless: an entry that cannot be
read and one that is not a regular file are passed over. -/
theorem passes_unread :
    (analyzeZip asciiTables (zipFileOf [unreadEntry]) "" []).1 = true ∧
      unreadEntry.isDir = false ∧ unreadEntry.encrypted = true ∧
      hasExecExtension asciiTables unreadEntry.name = true ∧
      StartsWithMagic unreadEntry.content ∧
      (analyzeTarStream asciiTables (.ok [sparseFile.toTarEntry])).1 = true ∧
      hasExecExtension asciiTables (tarPath sparseFile.path) = true ∧
      StartsWithMagic sparseFile.content := by
  have hmagic : StartsWithMagic dosFile :=
    ⟨([0x4D, 0x5A], "PE/DOS executable"), by decide, List.prefix_rfl⟩
  exact ⟨by decide +kernel, rfl, rfl, by decide +kernel, hmagic, by decide +kernel,
    by decide +kernel, hmagic⟩

end Keysas.Analyze
