import Keysas.Analyze.Findings

/-!
# The scan of executables

The analyzer of PE images refuses an image for a section whose name is that of a packer or whose
data has a high entropy, and reports suspicious imports.

A section name has eight bytes. It is read as UTF-8, and a name that is not UTF-8 is taken for an
empty one. `detectsPackers_iff` says which images with a section that is named after a packer are
refused, and `isPackerText_of_prefix` that the name is found when it is UTF-8 and begins with the
whole name of the packer.

The parser of PE images is a library, and the entropy is a floating-point number. `PeTools` is what
they come to.
-/

set_option autoImplicit false
set_option relaxedAutoImplicit false

namespace Keysas.Analyze.Pe

open RustStd Wire.Bincode

/-! ### Images -/

/-- A section of an image. -/
structure PeSection where
  name : List UInt8
  pointerToRawData : UInt32
  sizeOfRawData : UInt32
  length_name : name.length = 8

/-- What the parser returns for an image: its sections, the names of its imports, and whether it is
one of 64 bits. -/
structure PeImage where
  sections : List PeSection
  imports : List String
  is64 : Bool

/-- How the entropy of data compares with the two limits. -/
inductive EntropyLevel where
  | normal
  | elevated
  | high
  deriving DecidableEq

/-- The library and the arithmetic as the analyzer sees them. -/
structure PeTools where
  /-- `PE::parse`, when it succeeds. -/
  parse : List UInt8 → Option PeImage
  /-- The level of `entropy`, and its value with two decimals. -/
  entropy : List UInt8 → EntropyLevel × String

/-! ### Constants -/

/-- `PACKER_SECTIONS`. -/
def packerSections : List String :=
  ["upx", ".themida", ".winlicen", ".mpress", ".aspack", ".nsp", ".obsidium", "armadillo",
    ".enigma"]

/-- `SUSPICIOUS_IMPORTS`. -/
def suspiciousImports : List String :=
  ["CreateRemoteThread", "VirtualAllocEx", "WriteProcessMemory", "URLDownloadToFile", "WinExec",
    "RegSetValueEx", "ShellExecuteA", "ShellExecuteW", "LoadLibraryA", "GetProcAddress"]

/-! ### Sections -/

/-- `str::trim_end_matches` of the character NUL. -/
def trimEndNul (text : String) : String :=
  String.ofList (text.toList.rdropWhile (· = '\x00'))

variable (tables : UnicodeTables)

/-- The name of a section as it is compared. -/
def nameRaw (peSection : PeSection) : String :=
  toLowercase tables (trimEndNul ((fromUtf8 peSection.name).getD ""))

/-- The data of a section as far as the file reaches, unless it begins behind the file. -/
def sectionData (buf : List UInt8) (peSection : PeSection) : Option (List UInt8) :=
  if peSection.pointerToRawData.toNat < buf.length then
    some ((buf.drop peSection.pointerToRawData.toNat).take peSection.sizeOfRawData.toNat)
  else none

variable (tools : PeTools)

/-- The findings for the entropy of a section at a level, with a text in front of its name. -/
def entropyFindings (buf : List UInt8) (peSection : PeSection) (level : EntropyLevel)
    (label : String) : List String :=
  match sectionData buf peSection with
  | none => []
  | some data =>
    if (tools.entropy data).1 = level then
      [label ++ "'" ++ nameRaw tables peSection ++ "' (" ++ (tools.entropy data).2 ++ ")"]
    else []

/-- The findings for a section that block. -/
def blockingFindings (buf : List UInt8) (peSection : PeSection) : List String :=
  (packerSections.filter (startsWith (nameRaw tables peSection))).map
      (fun _ ↦ "packer section: " ++ nameRaw tables peSection) ++
    entropyFindings tables tools buf peSection .high "high entropy section "

/-- The imports that are suspicious, under the names of the list. -/
def suspiciousFound (pe : PeImage) : List String :=
  pe.imports.flatMap fun importName ↦
    suspiciousImports.filter fun api ↦ eqIgnoreAsciiCase (utf8 importName) (utf8 api)

/-- The findings that inform. -/
def infoFindings (buf : List UInt8) (pe : PeImage) : List String :=
  pe.sections.flatMap (entropyFindings tables tools buf · .elevated "elevated entropy ") ++
    (if suspiciousFound pe = [] then []
      else ["suspicious imports: " ++ ", ".intercalate (suspiciousFound pe)]) ++
    [if pe.is64 then "PE64" else "PE32"]

/-- `build_summary`. -/
def buildSummary (blocking info : List String) : String :=
  summaryOf "no packer or suspicious imports" blocking info

/-- `analyze`. -/
def analyze (file : FdRead) (_filename _tmpDir : String) : Bool × String :=
  match file.bytes with
  | none => (true, "read error - analysis skipped")
  | some buf =>
    match tools.parse buf with
    | none => (true, "PE parse error - analysis skipped")
    | some pe =>
      let blocking := pe.sections.flatMap (blockingFindings tables tools buf)
      (blocking.isEmpty, buildSummary blocking (infoFindings tables tools buf pe))

/-! ### Packers -/

variable {tables tools}

/-- The name of a section begins, in any letter case, with the name of a packer as far as a section
name can hold it. -/
def IsPackerNamed (peSection : PeSection) : Prop :=
  ∃ packer ∈ packerSections,
    ((utf8 packer).take 8).map asciiLower <+: peSection.name.map asciiLower

/-- The name of a section is a text, and the lowercase of the text begins with the name of a
packer. -/
def IsPackerText (tables : UnicodeTables) (peSection : PeSection) : Prop :=
  ∃ text, fromUtf8 peSection.name = some text ∧
    ∃ packer ∈ packerSections, startsWith (toLowercase tables (trimEndNul text)) packer = true

/-- The data of a section has a high entropy. -/
def IsDense (tools : PeTools) (buf : List UInt8) (peSection : PeSection) : Prop :=
  ∃ data, sectionData buf peSection = some data ∧ (tools.entropy data).1 = .high

/-- Nothing is found in an empty name. -/
theorem startsWith_nameRaw_iff {peSection : PeSection} :
    (∃ packer ∈ packerSections, startsWith (nameRaw tables peSection) packer = true) ↔
      IsPackerText tables peSection := by
  rw [IsPackerText, nameRaw]
  cases fromUtf8 peSection.name with
  | none =>
    have hempty : ∀ packer ∈ packerSections, startsWith "" packer = false := by decide
    simp only [Option.getD_none, reduceCtorEq, false_and, exists_false, iff_false, not_exists,
      not_and, Bool.not_eq_true]
    exact hempty
  | some text => simp

/-- There is a finding for the entropy of a section when its data has the level. -/
theorem entropyFindings_ne_nil_iff {buf : List UInt8} {peSection : PeSection}
    {level : EntropyLevel} {label : String} :
    entropyFindings tables tools buf peSection level label ≠ [] ↔
      ∃ data, sectionData buf peSection = some data ∧ (tools.entropy data).1 = level := by
  rw [entropyFindings]
  cases sectionData buf peSection with
  | none => simp only [ne_eq, not_true_eq_false, reduceCtorEq, false_and, exists_false]
  | some data =>
    simp only [Option.some.injEq, exists_eq_left']
    split_ifs with hlevel
    · exact iff_of_true (List.cons_ne_nil _ _) hlevel
    · exact iff_of_false (fun hne ↦ hne rfl) hlevel

/-- There are findings that block for a section when it has the name of a packer or data of high
entropy. -/
theorem blockingFindings_ne_nil_iff {buf : List UInt8} {peSection : PeSection} :
    blockingFindings tables tools buf peSection ≠ [] ↔
      IsPackerText tables peSection ∨ IsDense tools buf peSection := by
  rw [blockingFindings, Ne, List.append_eq_nil_iff, not_and_or, ← Ne, ← Ne, IsDense,
    entropyFindings_ne_nil_iff, ← startsWith_nameRaw_iff]
  apply or_congr_left
  rw [Ne, List.map_eq_nil_iff, List.filter_eq_nil_iff]
  simp only [not_forall, not_not, exists_prop]

/-- An image is refused for a section with the name of a packer or with data of high entropy. -/
theorem analyze_refuses_iff {buf : List UInt8} {pe : PeImage} (hparse : tools.parse buf = some pe)
    (filename tmpDir : String) :
    (analyze tables tools (.content buf) filename tmpDir).1 = false ↔
      ∃ peSection ∈ pe.sections,
        IsPackerText tables peSection ∨ IsDense tools buf peSection := by
  have hresult : (analyze tables tools (.content buf) filename tmpDir).1 =
      (pe.sections.flatMap (blockingFindings tables tools buf)).isEmpty := by
    simp only [analyze, FdRead.bytes, hparse]
  rw [hresult, ← Bool.not_eq_true, List.isEmpty_iff, List.flatMap_eq_nil_iff]
  simp only [not_forall, exists_prop, ← blockingFindings_ne_nil_iff, Ne]

/-- The names of packers are lowercase ASCII without NUL. -/
theorem lower_of_mem_packerSections : ∀ packer ∈ packerSections,
    IsAscii (utf8 packer) ∧ (utf8 packer).map asciiLower = utf8 packer ∧ 0 ∉ utf8 packer := by
  have hall : packerSections.all (fun packer ↦
      (utf8 packer).all (fun byte ↦ byte.toNat < 128) &&
        ((utf8 packer).map asciiLower = utf8 packer && 0 ∉ utf8 packer)) = true := by
    decide +kernel
  intro packer hmem
  simpa only [IsAscii, Bool.and_eq_true, decide_eq_true_eq, List.all_eq_true]
    using List.all_eq_true.mp hall packer hmem

/-- A front without NUL stays when the NULs at the end go. -/
theorem prefix_trimEndNul {text : String} {front : List Char} (hfront : front <+: text.toList)
    (hnul : '\x00' ∉ front) : front <+: (trimEndNul text).toList := by
  obtain ⟨rest, hrest⟩ := hfront
  rw [trimEndNul, String.toList_ofList, ← hrest]
  clear hrest
  induction rest using List.reverseRecOn with
  | nil =>
    rw [List.append_nil, List.rdropWhile_eq_self_iff.mpr]
    intro hne hlast
    exact hnul (of_decide_eq_true hlast ▸ List.getLast_mem hne)
  | append_singleton rest last ih =>
    rw [← List.append_assoc, List.rdropWhile_concat]
    split_ifs
    · exact ih
    · rw [List.append_assoc]
      exact List.prefix_append _ _

/-- A section whose name is UTF-8 and begins with the whole name of a packer, in any letter case, is
found. -/
theorem isPackerText_of_prefix {peSection : PeSection} {text packer : String}
    (htext : fromUtf8 peSection.name = some text) (hpacker : packer ∈ packerSections)
    (hbegins : (utf8 packer).map asciiLower <+: peSection.name.map asciiLower) :
    IsPackerText tables peSection := by
  obtain ⟨hascii, hlower, hnul⟩ := lower_of_mem_packerSections packer hpacker
  obtain ⟨rest, hrest⟩ := hbegins
  obtain ⟨part, back, hname, hpart, -⟩ := List.map_eq_append_iff.mp hrest.symm
  have hpartAscii := isAscii_of_map_asciiLower hpart hascii
  have hprefix : part <+: utf8 text := by
    rw [fromUtf8_eq_some_iff.mp htext, hname]
    exact List.prefix_append _ _
  have hpartNul : '\x00' ∉ part.map asciiChar := by
    intro hmem
    obtain ⟨byte, hbyte, hzero⟩ := List.mem_map.mp hmem
    have hchar : asciiChar byte = asciiChar 0 := hzero
    obtain rfl := asciiChar_injective hchar
    apply hnul
    rw [← hlower, ← hpart]
    exact List.mem_map_of_mem (f := asciiLower) hbyte
  have hfound := startsWith_toLowercase tables
    (prefix_trimEndNul (prefix_toList_of_prefix_utf8 hprefix hpartAscii) hpartNul) hpartAscii
  rw [hpart, hlower, asciiText_utf8 hascii] at hfound
  exact ⟨text, htext, packer, hpacker, hfound⟩

/-- An image that has a section named after a packer is refused. -/
def DetectsPackers (tables : UnicodeTables) (tools : PeTools) (filename tmpDir : String)
    (buf : List UInt8) : Prop :=
  ∀ pe, tools.parse buf = some pe → (∃ peSection ∈ pe.sections, IsPackerNamed peSection) →
    (analyze tables tools (.content buf) filename tmpDir).1 = false

/-- The search for packers is complete if and only if an image with a section named after a packer
has a section whose name is a text that in lowercase begins with the whole name of one, or a section
of high entropy. -/
theorem detectsPackers_iff (tables : UnicodeTables) (tools : PeTools) (filename tmpDir : String)
    (buf : List UInt8) :
    DetectsPackers tables tools filename tmpDir buf ↔
      ∀ pe, tools.parse buf = some pe → (∃ peSection ∈ pe.sections, IsPackerNamed peSection) →
        ∃ peSection ∈ pe.sections,
          IsPackerText tables peSection ∨ IsDense tools buf peSection := by
  refine forall_congr' fun pe ↦ forall_congr' fun hparse ↦ ?_
  rw [analyze_refuses_iff hparse]

/-- An image with one section whose name begins with that of a packer, and with a byte that is not
UTF-8 behind it. -/
def brokenName : PeSection where
  name := [0x55, 0x50, 0x58, 0x30, 0xFF, 0, 0, 0]
  pointerToRawData := 0x400
  sizeOfRawData := 0x200
  length_name := rfl

/-- A parser that knows one image, with data of low entropy. -/
def brokenNameTools : PeTools where
  parse _ := some ⟨[brokenName], [], false⟩
  entropy _ := (.normal, "0.00")

/-- The search for packers is not complete: a name that is not UTF-8 is taken for an empty one. -/
theorem not_detectsPackers_brokenName :
    ¬ DetectsPackers asciiTables brokenNameTools "a.exe" "/run/keysas-analyze" [0x4D, 0x5A] := by
  intro hdetects
  have hnamed : IsPackerNamed brokenName := ⟨"upx", .head _, by decide +kernel⟩
  have hrefused := hdetects ⟨[brokenName], [], false⟩ rfl ⟨brokenName, .head _, hnamed⟩
  have hpasses : (analyze asciiTables brokenNameTools (.content [0x4D, 0x5A]) "a.exe"
      "/run/keysas-analyze").1 = true := by
    decide +kernel
  rw [hpasses] at hrefused
  cases hrefused

end Keysas.Analyze.Pe
