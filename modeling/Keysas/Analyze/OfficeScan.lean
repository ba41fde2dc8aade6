import Keysas.Analyze.Findings
import Keysas.Rust.Utf16

/-!
# The scan of office documents

The analyzer of office documents chooses by the extension of the name among three formats. It looks
into the projects of macros of a ZIP container and into the streams below the storages named `VBA`
of a compound file for the patterns of `highRiskPatterns`, and into the bytes of a rich text for the
control words of embedded objects.

The readers of the containers are libraries. `OfficeTools` is what they return for a content. A
stream of a compound file is opened by its path, which the library compares without regard to case.
-/

set_option autoImplicit false
set_option relaxedAutoImplicit false

namespace Keysas.Analyze.Office

open RustStd Wire.Bincode

/-! ### What the libraries return -/

/-- An opened entry of a ZIP container, and its content when it can be read to the end. -/
structure OpenedEntry where
  name : String
  content : Option (List UInt8)

/-- An entry of a compound file: the names of the storages from the root down to it, with its own
name last, and its content when it is a stream that can be read to the end. The names have no
slash. -/
structure CompoundEntry where
  names : List String
  stream : Option (List UInt8)
  slash_notMem : ∀ name ∈ names, '/' ∉ name.toList

/-- `Entry::path`: the names are pushed onto the root. -/
def CompoundEntry.path (entry : CompoundEntry) : String :=
  entry.names.foldl push "/"

/-- A compound file: its entries in the order of `walk`, and `open_stream` with `read_to_end` for a
path, when both succeed. -/
structure CompoundFile where
  entries : List CompoundEntry
  readStream : String → Option (List UInt8)

/-- The libraries as the analyzer sees them. -/
structure OfficeTools where
  /-- The entries of a ZIP container, each when it can be opened, unless the container cannot be
  parsed. -/
  zipEntries : List UInt8 → Option (List (Option OpenedEntry))
  /-- A compound file, unless it cannot be parsed. -/
  compoundFile : List UInt8 → Option CompoundFile

/-! ### Patterns -/

/-- `HIGH_RISK_PATTERNS`. -/
def highRiskPatterns : List String :=
  ["AutoExec", "AutoOpen", "Auto_Open", "Document_Open", "Workbook_Open", "Shell", "WScript",
    "CreateObject", "VBA stomping"]

/-- `INFO_PATTERNS`. -/
def infoPatterns : List String :=
  ["Base64", "StrReverse", "Chr(", "Hex(", "URLDownloadToFile", "WinExec", "CreateRemoteThread"]

/-- `contains`. -/
def containsPattern (haystack needle : List UInt8) : Bool :=
  if needle = [] || haystack.length < needle.length then false
  else (windows needle.length haystack).any fun window ↦ eqIgnoreAsciiCase window needle

/-- `scan_patterns`: the findings that block and those that inform. -/
def scanPatterns (bytes : List UInt8) : List String × List String :=
  (highRiskPatterns.filter fun pattern ↦ containsPattern bytes (utf8 pattern),
    infoPatterns.filter fun pattern ↦ containsPattern bytes (utf8 pattern))

/-- `build_summary`. -/
def buildSummary (blocking info : List String) : String :=
  summaryOf "no findings" blocking info

/-- What is reported when there are macros: the findings, and a note when none of them blocks. -/
def macroInfo (blocking info : List String) : List String :=
  if blocking = [] then info ++ ["VBA macros present (no high-risk pattern detected)"] else info

variable (tables : UnicodeTables)

/-! ### ZIP containers -/

/-- The name of an entry is that of a project of macros. -/
def isProject (entry : OpenedEntry) : Bool :=
  endsWith (toLowercase tables entry.name) "vbaproject.bin"

/-- The findings of the first project that can be opened. The loop ends there. -/
def projectFindings (entries : List OpenedEntry) : List String × List String :=
  match (entries.find? (isProject tables)).bind OpenedEntry.content with
  | some bytes => scanPatterns bytes
  | none => ([], [])

/-- The findings for an entry that describes relationships. -/
def relationshipInfo (entry : OpenedEntry) : List String :=
  if endsWith (toLowercase tables entry.name) ".rels" then
    match entry.content.bind fromUtf8 with
    | none => []
    | some xml =>
      (if contains xml "http://" || contains xml "https://" || contains xml "ftp://" then
          ["external relationship target"] else []) ++
        if contains xml "oleObject" then ["embedded OLE object"] else []
  else []

/-- `analyze_ooxml`. -/
def analyzeOoxml (tools : OfficeTools) (buf : List UInt8) : Bool × String :=
  match tools.zipEntries buf with
  | none => (true, "ZIP parse error - analysis skipped")
  | some archive =>
    let entries := archive.filterMap id
    let (blocking, info) := projectFindings tables entries
    let info := if entries.any (isProject tables) then macroInfo blocking info else ["no macros"]
    (blocking.isEmpty, buildSummary blocking (info ++ entries.flatMap (relationshipInfo tables)))

/-! ### Compound files -/

/-- A lowercase path is that of a stream with macros. -/
def isModulePath (path : String) : Bool :=
  contains path "/vba/" && !endsWith path "/" && !endsWith path "_vba_project"

/-- The findings in the stream that is opened under a path. -/
def streamFindings (file : CompoundFile) (path : String) : List String × List String :=
  match file.readStream path with
  | some bytes => scanPatterns bytes
  | none => ([], [])

/-- `analyze_ole`. -/
def analyzeOle (tools : OfficeTools) (buf : List UInt8) : Bool × String :=
  match tools.compoundFile buf with
  | none => (true, "CFB parse error - analysis skipped")
  | some file =>
    let entries := file.entries.map fun entry ↦ toLowercase tables entry.path
    let hasVba := entries.any (contains · "vba")
    let hasMacros := entries.any fun path ↦ contains path "macro" || contains path "module"
    let modulePaths := if hasVba || hasMacros then entries.filter isModulePath else []
    let blocking := modulePaths.flatMap fun path ↦ (streamFindings file path).1
    let info := modulePaths.flatMap fun path ↦ (streamFindings file path).2
    let info := if hasVba || hasMacros then macroInfo blocking info else ["no macros"]
    let embedded := entries.any fun path ↦ contains path "equation" || contains path "olestream"
    (blocking.isEmpty,
      buildSummary blocking (info ++ if embedded then ["embedded OLE object"] else []))

/-! ### Rich text -/

/-- The control words that block. -/
def rtfBlocking : List String := ["\\objhtml", "\\objocx", "\\objclass"]

/-- The control words that inform. -/
def rtfInfo : List String := ["\\object", "\\pict", "\\objdata"]

/-- `analyze_rtf`. -/
def analyzeRtf (buf : List UInt8) : Bool × String :=
  let blocking := rtfBlocking.filter fun pattern ↦ containsPattern buf (utf8 pattern)
  let info := rtfInfo.filter fun pattern ↦
    containsPattern buf (utf8 pattern) && !blocking.any (contains · pattern)
  (blocking.isEmpty, buildSummary blocking info)

/-! ### The scan -/

/-- `analyze`. -/
def analyze (tools : OfficeTools) (file : FdRead) (filename _tmpDir : String) : Bool × String :=
  match file.bytes with
  | none => (true, "read error - analysis skipped")
  | some buf =>
    let ext := lowerExt tables filename
    if ext ∈ ["docx", "xlsx", "pptx"] then analyzeOoxml tables tools buf
    else if ext ∈ ["doc", "xls", "ppt"] then analyzeOle tables tools buf
    else if ext = "rtf" then analyzeRtf buf
    else (true, "unsupported office format")

/-! ### Patterns in bytes -/

/-- A pattern of high risk occurs in a content, in any letter case. -/
def HasHighRisk (content : List UInt8) : Prop :=
  ∃ pattern ∈ highRiskPatterns, OccursIn (utf8 pattern) content

theorem containsPattern_iff {haystack needle : List UInt8} (hneedle : needle ≠ []) :
    containsPattern haystack needle = true ↔ OccursIn needle haystack := by
  rw [containsPattern, ← any_windows_iff hneedle]
  split_ifs with hshort
  · refine iff_of_false nofun fun hany ↦ ?_
    obtain ⟨part, hpart, hequal⟩ := occursIn_iff.mp ((any_windows_iff hneedle).mp hany)
    have hlength : part.length = needle.length := by
      simpa using congrArg List.length (beq_iff_eq.mp hequal)
    have hle := hpart.length_le
    simp only [hneedle, decide_false, Bool.false_or, decide_eq_true_eq] at hshort
    omega
  · exact Iff.rfl

/-- The scan of a content blocks when a pattern of high risk occurs in it. -/
theorem scanPatterns_ne_nil_iff {bytes : List UInt8} :
    (scanPatterns bytes).1 ≠ [] ↔ HasHighRisk bytes := by
  have hnonempty : ∀ pattern ∈ highRiskPatterns, utf8 pattern ≠ [] := by decide +kernel
  rw [scanPatterns, Ne, List.filter_eq_nil_iff, HasHighRisk]
  simp only [not_forall, not_not, exists_prop]
  exact exists_congr fun pattern ↦ and_congr_right fun hmem ↦
    containsPattern_iff (hnonempty pattern hmem)

end Keysas.Analyze.Office
