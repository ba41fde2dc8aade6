import Keysas.Analyze.Findings
import Keysas.Rust.Stretches

/-!
# The scan of shortcuts

The analyzer of Windows shortcuts collects the printable stretches of the file that have at least
six bytes, joins them with blanks, and looks in the lowercase of this text for the names of
interpreters, for directories of temporary files and for targets on the network.

`contains_extractStrings_iff` says what the text has: a word without a blank is in it exactly when
it occurs in a printable part of the file of at least six bytes. `detectsNeedles_iff` is about the
words, of which some have fewer than six bytes, and `refusesShares_iff` about the targets on the
network, of which one on the own machine hides all others.
-/

set_option autoImplicit false
set_option relaxedAutoImplicit false

namespace Keysas.Analyze.Lnk

open RustStd Wire.Bincode

/-! ### Constants -/

/-- `SUSPICIOUS_CMDLINE`. -/
def suspiciousCmdline : List String :=
  ["powershell", "cmd.exe", "wscript", "cscript", "mshta", "rundll32", "regsvr32", "msiexec",
    "certutil", "bitsadmin", "wmic"]

/-- `SUSPICIOUS_PATHS`. -/
def suspiciousPaths : List String :=
  ["%temp%", "%appdata%", "%localappdata%", "%programdata%", "\\temp\\", "\\tmp\\"]

/-- The front of a target on the network. -/
def uncPrefix : String := "\\\\"

/-- The front of a target on the own machine. -/
def localPrefix : String := "\\\\localhost"

/-! ### Strings of a file -/

/-- A byte is a printable ASCII character. -/
def isPrintable (byte : UInt8) : Bool :=
  0x20 ≤ byte && byte < 0x7F

/-- The body of the loop of `extract_strings`, on what is collected and the current stretch. -/
def extractStep (state : String × String) (byte : UInt8) : String × String :=
  let (result, current) := state
  if isPrintable byte then (result, current.push (asciiChar byte))
  else (if 6 ≤ current.utf8ByteSize then result ++ current ++ " " else result, "")

/-- What `extract_strings` returns behind its loop. -/
def endOfStrings (state : String × String) : String :=
  if 6 ≤ state.2.utf8ByteSize then state.1 ++ state.2 else state.1

/-- `extract_strings`. -/
def extractStrings (buf : List UInt8) : String :=
  endOfStrings (buf.foldl extractStep ("", ""))

/-- `str::split_whitespace`. -/
def splitWhitespace (text : String) : List String :=
  ((text.toList.splitOnP isWhitespace).filter (· ≠ [])).map String.ofList

/-- A word begins with a drive or with the front of a target on the network. -/
def isTargetWord (word : String) : Bool :=
  (3 < word.utf8ByteSize && word.toList.head?.any Char.isAlpha &&
      startsWith (String.ofList word.toList.tail) ":\\") || startsWith word uncPrefix

/-- `extract_target_path`. -/
def extractTargetPath (text : String) : Option String :=
  ((splitWhitespace text).find? isTargetWord).map fun word ↦ String.ofList (word.toList.take 80)

/-! ### The scan -/

variable (tables : UnicodeTables)

/-- `build_summary`. -/
def buildSummary (blocking info : List String) : String :=
  summaryOf "no suspicious target or path" blocking info

/-- The findings that block in the lowercase of the text. -/
def blockingFindings (textLower : String) : List String :=
  (suspiciousCmdline.filter (contains textLower)).map ("target: " ++ ·) ++
    (suspiciousPaths.filter (contains textLower)).map ("path: " ++ ·) ++
    if contains textLower uncPrefix && !contains textLower localPrefix then
      ["network share target (UNC)"] else []

/-- `analyze`. -/
def analyze (file : FdRead) (_filename : String) : Bool × String :=
  match file with
  | .dupFailed => (true, "fd dup failed")
  | .readFailed => (true, "file read failed")
  | .content buf =>
    if buf.length < 0x4C || buf.take 4 ≠ [0x4C, 0, 0, 0] then (true, "not a valid LNK file")
    else
      let text := extractStrings buf
      let blocking := blockingFindings (toLowercase tables text)
      let info := ((extractTargetPath text).map ("target: " ++ ·)).toList
      (blocking.isEmpty, buildSummary blocking info)

/-- A file begins with the header of a shortcut. -/
structure IsLink (buf : List UInt8) : Prop where
  long : 0x4C ≤ buf.length
  magic : buf.take 4 = [0x4C, 0, 0, 0]

theorem analyze_of_isLink {buf : List UInt8} (hlink : IsLink buf) (filename : String) :
    (analyze tables (.content buf) filename).1 =
      (blockingFindings (toLowercase tables (extractStrings buf))).isEmpty := by
  have hheader : ¬ (buf.length < 0x4C || buf.take 4 ≠ [0x4C, 0, 0, 0]) = true := by
    simp [hlink.magic, hlink.long]
  simp only [analyze, if_neg hheader]

/-! ### What the text has -/

/-- The stretches of at least six bytes, each but the last with a blank behind it. -/
def joinLong : List (List UInt8) → List UInt8
  | [] => []
  | [last] => if 6 ≤ last.length then last else []
  | stretch :: next :: rest =>
    (if 6 ≤ stretch.length then stretch ++ [0x20] else []) ++ joinLong (next :: rest)

theorem joinLong_cons (stretch : List UInt8) {rest : List (List UInt8)} (hrest : rest ≠ []) :
    joinLong (stretch :: rest) =
      (if 6 ≤ stretch.length then stretch ++ [0x20] else []) ++ joinLong rest := by
  obtain ⟨next, others, rfl⟩ := List.exists_cons_of_ne_nil hrest
  rfl

/-- A word without a blank is in the joined stretches when it is in a long one of them. Assumes: the
word is not empty. -/
theorem infix_joinLong_iff {word : List UInt8} (hblank : 0x20 ∉ word) (hword : word ≠ [])
    {parts : List (List UInt8)} :
    word <:+: joinLong parts ↔ ∃ part ∈ parts, 6 ≤ part.length ∧ word <:+: part := by
  induction parts with
  | nil => simpa [joinLong] using hword
  | cons stretch rest ih =>
    rcases rest with _ | ⟨next, others⟩
    · rw [joinLong]
      split_ifs with hlong
      · simp [hlong]
      · simpa [hlong] using hword
    rw [joinLong_cons stretch (List.cons_ne_nil next others)]
    split_ifs with hlong
    · rw [List.append_assoc, List.singleton_append]
      constructor
      · intro hlies
        rcases infix_append_cons hblank hlies with hfront | hback
        · exact ⟨stretch, .head _, hlong, hfront⟩
        · obtain ⟨part, hmem, hpart⟩ := ih.mp hback
          exact ⟨part, .tail _ hmem, hpart⟩
      · rintro ⟨part, hmem, hlength, hlies⟩
        rcases List.mem_cons.mp hmem with rfl | hrest
        · exact hlies.trans (List.prefix_append _ _).isInfix
        · refine (ih.mpr ⟨part, hrest, hlength, hlies⟩).trans ?_
          exact (List.suffix_cons _ _).isInfix.trans (List.suffix_append _ _).isInfix
    · rw [List.nil_append, ih]
      constructor
      · rintro ⟨part, hmem, hpart⟩
        exact ⟨part, .tail _ hmem, hpart⟩
      · rintro ⟨part, hmem, hlength, hlies⟩
        rcases List.mem_cons.mp hmem with rfl | hrest
        · exact absurd hlength hlong
        · exact ⟨part, hrest, hlength, hlies⟩

theorem isAscii_of_isPrintable {bytes : List UInt8}
    (hprintable : ∀ byte ∈ bytes, isPrintable byte = true) : IsAscii bytes := by
  intro byte hbyte
  have hrange := hprintable byte hbyte
  rw [isPrintable, Bool.and_eq_true, decide_eq_true_iff, decide_eq_true_iff,
    UInt8.lt_iff_toNat_lt] at hrange
  have hsmall : byte.toNat < 127 := hrange.2
  omega

theorem isAscii_joinLong {parts : List (List UInt8)}
    (hparts : ∀ part ∈ parts, IsAscii part) : IsAscii (joinLong parts) := by
  induction parts with
  | nil => exact fun _ hbyte ↦ absurd hbyte List.not_mem_nil
  | cons stretch rest ih =>
    have hstretch := hparts stretch (.head _)
    rcases rest with _ | ⟨next, others⟩
    · rw [joinLong]
      split_ifs
      · exact hstretch
      · exact fun _ hbyte ↦ absurd hbyte List.not_mem_nil
    rw [joinLong_cons stretch (List.cons_ne_nil next others)]
    intro byte hbyte
    rcases List.mem_append.mp hbyte with hfront | hback
    · split_ifs at hfront
      · rcases List.mem_append.mp hfront with hold | hblank
        · exact hstretch byte hold
        · rw [List.mem_singleton.mp hblank]
          decide
      · exact absurd hfront List.not_mem_nil
    · exact ih (fun part hpart ↦ hparts part (.tail _ hpart)) byte hback

/-- The loop of `extract_strings` joins the long stretches. -/
theorem endOfStrings_foldl (result : String) {current : List UInt8}
    (hcurrent : ∀ byte ∈ current, isPrintable byte = true) (buf : List UInt8) :
    endOfStrings (buf.foldl extractStep (result, asciiText current)) =
      result ++ asciiText (joinLong (stretches isPrintable current buf)) := by
  have hsize : (asciiText current).utf8ByteSize = current.length := by
    rw [← length_utf8, utf8_asciiText (isAscii_of_isPrintable hcurrent)]
  induction buf generalizing result current with
  | nil =>
    rw [List.foldl_nil, endOfStrings, hsize, stretches, joinLong]
    split_ifs
    · rfl
    · rw [asciiText_nil, String.append_empty]
  | cons byte buf ih =>
    rw [List.foldl_cons, extractStep, stretches]
    by_cases hprintable : isPrintable byte = true
    · have hlonger : ∀ other ∈ current ++ [byte], isPrintable other = true := by
        intro other hother
        rcases List.mem_append.mp hother with hold | hnew
        · exact hcurrent other hold
        · rw [List.mem_singleton.mp hnew]
          exact hprintable
      have hlongerSize : (asciiText (current ++ [byte])).utf8ByteSize =
          (current ++ [byte]).length := by
        rw [← length_utf8, utf8_asciiText (isAscii_of_isPrintable hlonger)]
      have hpush : (asciiText current).push (asciiChar byte) = asciiText (current ++ [byte]) := by
        apply String.toList_injective
        simp [asciiText]
      rw [if_pos hprintable, if_pos hprintable, hpush, ih result hlonger hlongerSize]
    · rw [if_neg hprintable, if_neg hprintable, ← asciiText_nil,
        ih _ (List.forall_mem_nil _) rfl, hsize,
        joinLong_cons current (stretches_ne_nil [] buf), asciiText_append]
      split_ifs
      · rw [asciiText_append, String.append_assoc, String.append_assoc, String.append_assoc]
        rfl
      · rfl

/-- The text of a file is that of its long printable stretches. -/
theorem extractStrings_eq (buf : List UInt8) :
    extractStrings buf = asciiText (joinLong (stretches isPrintable [] buf)) := by
  have hfold := endOfStrings_foldl "" (List.forall_mem_nil fun byte ↦ isPrintable byte = true) buf
  rw [asciiText_nil, String.empty_append] at hfold
  exact hfold

/-- The printable stretches of a file are ASCII. -/
theorem isAscii_stretches (buf : List UInt8) :
    IsAscii (joinLong (stretches isPrintable [] buf)) := by
  refine isAscii_joinLong fun part hpart ↦ ?_
  exact isAscii_of_isPrintable (infix_of_mem_stretches (List.forall_mem_nil _) hpart).2

/-- A word occurs, in any letter case, in a printable part of the file of at least six bytes. -/
def InLongPart (word buf : List UInt8) : Prop :=
  ∃ part, part <:+: buf ∧ (∀ byte ∈ part, isPrintable byte = true) ∧ 6 ≤ part.length ∧
    OccursIn word part

/-- A word that the analyzer looks for: lowercase ASCII without blanks. -/
structure IsNeedle (word : String) : Prop where
  nonempty : utf8 word ≠ []
  ascii : IsAscii (utf8 word)
  lower : (utf8 word).map asciiLower = utf8 word
  blank : 0x20 ∉ utf8 word

/-- A part that is a needle up to letter case has no blank and is not empty. -/
theorem IsNeedle.part {word : String} (hneedle : IsNeedle word) {part : List UInt8}
    (hpart : part.map asciiLower = utf8 word) : 0x20 ∉ part ∧ part ≠ [] := by
  constructor
  · intro hblank
    apply hneedle.blank
    rw [← hpart]
    exact List.mem_map_of_mem (f := asciiLower) hblank
  · rintro rfl
    exact hneedle.nonempty hpart.symm

/-- A needle is in the lowercase of the text of a file when it occurs in a long printable part of
the file. -/
theorem contains_extractStrings_iff (tables : UnicodeTables) {word : String}
    (hneedle : IsNeedle word) {buf : List UInt8} :
    contains (toLowercase tables (extractStrings buf)) word = true ↔
      InLongPart (utf8 word) buf := by
  have htext : contains (toLowercase tables (extractStrings buf)) word = true ↔
      OccursIn (utf8 word) (joinLong (stretches isPrintable [] buf)) := by
    rw [extractStrings_eq, toLowercase_asciiText tables (isAscii_stretches buf), OccursIn,
      hneedle.lower, ← contains_asciiText_iff, asciiText_utf8 hneedle.ascii]
  rw [htext]
  constructor
  · intro hoccurs
    obtain ⟨part, hpart, hequal⟩ := occursIn_iff.mp hoccurs
    obtain ⟨hblank, hnonempty⟩ := hneedle.part ((beq_iff_eq.mp hequal).trans hneedle.lower)
    obtain ⟨stretch, hmem, hlong, hlies⟩ := (infix_joinLong_iff hblank hnonempty).mp hpart
    obtain ⟨hstretch, hprintable⟩ := infix_of_mem_stretches (List.forall_mem_nil _) hmem
    exact ⟨stretch, hstretch, hprintable, hlong, occursIn_iff.mpr ⟨part, hlies, hequal⟩⟩
  · rintro ⟨front, hfront, hprintable, hlong, hoccurs⟩
    have hbehind : front <:+: [] ++ buf := hfront
    obtain ⟨stretch, hmem, hstretch⟩ := exists_stretch_of_infix hbehind hprintable
    obtain ⟨part, hpart, hequal⟩ := occursIn_iff.mp (hoccurs.of_infix hstretch)
    obtain ⟨hblank, hnonempty⟩ := hneedle.part ((beq_iff_eq.mp hequal).trans hneedle.lower)
    have hjoined := (infix_joinLong_iff hblank hnonempty).mpr
      ⟨stretch, hmem, hlong.trans hstretch.length_le, hpart⟩
    exact occursIn_iff.mpr ⟨part, hjoined, hequal⟩

/-- The words that the analyzer looks for. -/
def needles : List String :=
  suspiciousCmdline ++ suspiciousPaths

theorem isNeedle_of_mem : ∀ word ∈ needles ++ [uncPrefix, localPrefix], IsNeedle word := by
  have hall : (needles ++ [uncPrefix, localPrefix]).all (fun word ↦
      utf8 word ≠ [] && (utf8 word).all (fun byte ↦ byte.toNat < 128) &&
        (utf8 word).map asciiLower = utf8 word && 0x20 ∉ utf8 word) = true := by
    decide +kernel
  intro word hmem
  have hword := List.all_eq_true.mp hall word hmem
  simp only [Bool.and_eq_true, decide_eq_true_eq, List.all_eq_true] at hword
  obtain ⟨⟨⟨hnonempty, hascii⟩, hlower⟩, hblank⟩ := hword
  exact ⟨hnonempty, hascii, hlower, hblank⟩

/-! ### Needles -/

/-- A file has a target on the network in a long printable part, and none on the own machine. -/
def SharesElsewhere (buf : List UInt8) : Prop :=
  InLongPart (utf8 uncPrefix) buf ∧ ¬ InLongPart (utf8 localPrefix) buf

/-- There is a finding that blocks when a needle is found, or a target on the network and none on
the own machine. -/
theorem blockingFindings_isEmpty_eq_false_iff (textLower : String) :
    (blockingFindings textLower).isEmpty = false ↔
      (∃ word ∈ needles, contains textLower word = true) ∨
        contains textLower uncPrefix = true ∧ ¬ contains textLower localPrefix = true := by
  rw [← Bool.not_eq_true, List.isEmpty_iff, blockingFindings, List.append_eq_nil_iff,
    List.append_eq_nil_iff, List.map_eq_nil_iff, List.map_eq_nil_iff, List.filter_eq_nil_iff,
    List.filter_eq_nil_iff, ← List.forall_mem_append, ← needles, not_and_or]
  apply or_congr
  · simp only [not_forall, not_not, exists_prop]
  · simp

/-- A shortcut is refused for a needle or for a target on the network. -/
theorem analyze_refuses_iff (tables : UnicodeTables) {buf : List UInt8} (hlink : IsLink buf)
    (filename : String) :
    (analyze tables (.content buf) filename).1 = false ↔
      (∃ word ∈ needles, InLongPart (utf8 word) buf) ∨ SharesElsewhere buf := by
  have hfound : ∀ word ∈ needles ++ [uncPrefix, localPrefix],
      (contains (toLowercase tables (extractStrings buf)) word = true ↔
        InLongPart (utf8 word) buf) := fun word hmem ↦
    contains_extractStrings_iff tables (isNeedle_of_mem word hmem)
  rw [analyze_of_isLink tables hlink, blockingFindings_isEmpty_eq_false_iff, SharesElsewhere,
    hfound uncPrefix (by simp), hfound localPrefix (by simp)]
  apply or_congr_left
  exact exists_congr fun word ↦ and_congr_right fun hmem ↦
    hfound word (List.mem_append_left _ hmem)

/-- A needle occurs in a content, in any letter case. -/
def HasNeedle (buf : List UInt8) : Prop :=
  ∃ word ∈ needles, OccursIn (utf8 word) buf

/-- A shortcut in which a needle occurs is refused, and a needle that is found in the text occurs in
one printable part of the file. -/
structure DetectsNeedles (tables : UnicodeTables) (filename : String) (buf : List UInt8) :
    Prop where
  complete : HasNeedle buf → (analyze tables (.content buf) filename).1 = false
  unjoined : ∀ word ∈ needles,
    contains (toLowercase tables (extractStrings buf)) word = true →
      ∃ part, part <:+: buf ∧ (∀ byte ∈ part, isPrintable byte = true) ∧
        OccursIn (utf8 word) part

/-- The search for needles is complete if and only if a file in which one occurs has one in a long
printable part, or is refused for a target on the network. No needle is found across two parts.
Assumes: the file begins with the header of a shortcut. -/
theorem detectsNeedles_iff (tables : UnicodeTables) (filename : String) {buf : List UInt8}
    (hlink : IsLink buf) :
    DetectsNeedles tables filename buf ↔
      (HasNeedle buf →
        (∃ word ∈ needles, InLongPart (utf8 word) buf) ∨ SharesElsewhere buf) := by
  constructor
  · intro hdetects hneedle
    exact (analyze_refuses_iff tables hlink filename).mp (hdetects.complete hneedle)
  · intro hlong
    refine ⟨fun hneedle ↦ (analyze_refuses_iff tables hlink filename).mpr (hlong hneedle), ?_⟩
    intro word hmem hfound
    have hword := isNeedle_of_mem word (List.mem_append_left _ hmem)
    obtain ⟨part, hpart, hprintable, -, hoccurs⟩ :=
      (contains_extractStrings_iff tables hword).mp hfound
    exact ⟨part, hpart, hprintable, hoccurs⟩

/-- A shortcut with a text behind its header. -/
def linkWith (text : String) : List UInt8 :=
  [0x4C, 0, 0, 0] ++ List.replicate 72 0 ++ utf8 text ++ [0]

theorem isLink_linkWith (text : String) : IsLink (linkWith text) where
  long := by
    simp only [linkWith, List.length_append, List.length_replicate, List.length_cons,
      List.length_nil]
    omega
  magic := rfl

/-- A shortcut to an interpreter by its path. -/
theorem detectsNeedles_iff_path :
    DetectsNeedles asciiTables "a.lnk" (linkWith "C:\\mshta.exe") ↔
      (HasNeedle (linkWith "C:\\mshta.exe") →
        (∃ word ∈ needles, InLongPart (utf8 word) (linkWith "C:\\mshta.exe")) ∨
          SharesElsewhere (linkWith "C:\\mshta.exe")) :=
  detectsNeedles_iff asciiTables "a.lnk" (isLink_linkWith "C:\\mshta.exe")

/-- The search is not complete: a name of four bytes that stands alone is not collected. -/
theorem not_detectsNeedles_wmic :
    IsLink (linkWith "wmic") ∧ ¬ DetectsNeedles asciiTables "a.lnk" (linkWith "wmic") := by
  refine ⟨isLink_linkWith "wmic", fun hdetects ↦ ?_⟩
  have hneedle : HasNeedle (linkWith "wmic") := by
    refine ⟨"wmic", by decide, ?_⟩
    decide +kernel
  have hrefused := hdetects.complete hneedle
  have hpasses : (analyze asciiTables (.content (linkWith "wmic")) "a.lnk").1 = true := by
    decide +kernel
  rw [hpasses] at hrefused
  cases hrefused

/-! ### Targets on the network -/

/-- A text names a target on the network with a host other than the own machine. -/
def NamesOtherHost (tables : UnicodeTables) (text : String) : Prop :=
  ∃ host : String, host ≠ "" ∧ '\\' ∉ host.toList ∧ toLowercase tables host ≠ "localhost" ∧
    contains text ("\\\\" ++ host ++ "\\") = true

/-- A shortcut whose text names a host other than the own machine is refused. -/
def RefusesShares (tables : UnicodeTables) (filename : String) (buf : List UInt8) : Prop :=
  NamesOtherHost tables (extractStrings buf) →
    (analyze tables (.content buf) filename).1 = false

/-- A text that names a host has the front of a target on the network. -/
theorem NamesOtherHost.contains_uncPrefix {tables : UnicodeTables} {text : String}
    (hnames : NamesOtherHost tables text) :
    contains (toLowercase tables text) uncPrefix = true := by
  obtain ⟨host, -, -, -, hcontains⟩ := hnames
  rw [contains, decide_eq_true_iff] at hcontains
  have hunc := isNeedle_of_mem uncPrefix (by simp)
  have hword : (utf8 uncPrefix).map asciiChar <:+: text.toList := by
    rw [← toList_asciiText, asciiText_utf8 hunc.ascii]
    refine List.IsInfix.trans ?_ hcontains
    rw [String.toList_append, String.toList_append, List.append_assoc, uncPrefix]
    exact (List.prefix_append _ _).isInfix
  have hfound := contains_toLowercase tables hword hunc.ascii
  rwa [hunc.lower, asciiText_utf8 hunc.ascii] at hfound

/-- Targets on the network are refused if and only if a file that names one with another host names
none on the own machine, or has a needle, in its long printable parts. Assumes: the file begins with
the header of a shortcut. -/
theorem refusesShares_iff (tables : UnicodeTables) (filename : String) {buf : List UInt8}
    (hlink : IsLink buf) :
    RefusesShares tables filename buf ↔
      (NamesOtherHost tables (extractStrings buf) →
        ¬ InLongPart (utf8 localPrefix) buf ∨
          ∃ word ∈ needles, InLongPart (utf8 word) buf) := by
  rw [RefusesShares, analyze_refuses_iff tables hlink]
  refine forall_congr' fun hnames ↦ ?_
  have hunc : InLongPart (utf8 uncPrefix) buf :=
    (contains_extractStrings_iff tables (isNeedle_of_mem uncPrefix (by simp))).mp
      hnames.contains_uncPrefix
  rw [SharesElsewhere, and_iff_right hunc]
  exact or_comm

theorem refusesShares_iff_share :
    RefusesShares asciiTables "a.lnk" (linkWith "\\\\files\\a") ↔
      (NamesOtherHost asciiTables (extractStrings (linkWith "\\\\files\\a")) →
        ¬ InLongPart (utf8 localPrefix) (linkWith "\\\\files\\a") ∨
          ∃ word ∈ needles, InLongPart (utf8 word) (linkWith "\\\\files\\a")) :=
  refusesShares_iff asciiTables "a.lnk" (isLink_linkWith "\\\\files\\a")

/-- Not all targets on the network are refused: one on the own machine hides another one. -/
theorem not_refusesShares_localhost :
    IsLink (linkWith "\\\\localhost\\a \\\\files\\a") ∧
      ¬ RefusesShares asciiTables "a.lnk" (linkWith "\\\\localhost\\a \\\\files\\a") := by
  refine ⟨isLink_linkWith _, fun hrefuses ↦ ?_⟩
  have hnames : NamesOtherHost asciiTables
      (extractStrings (linkWith "\\\\localhost\\a \\\\files\\a")) := by
    refine ⟨"files", by decide, by decide, by decide, ?_⟩
    decide +kernel
  have hrefused := hrefuses hnames
  have hpasses : (analyze asciiTables
      (.content (linkWith "\\\\localhost\\a \\\\files\\a")) "a.lnk").1 = true := by
    decide +kernel
  rw [hpasses] at hrefused
  cases hrefused

end Keysas.Analyze.Lnk
