import Mathlib.Data.List.DropRight
import Mathlib.Data.List.Infix
import Keysas.Wire.BincodeStandard

/-!
# Texts, paths and platform strings

The operations of the Rust standard library on which programs that handle file names rest, on
`String` seen as its list of characters.

Case mapping and character classes are Unicode tables. `UnicodeTables` is what the library
documents of them: a lowercase mapping that may lengthen the text and that is the usual one on
ASCII, a decision for the final sigma, and the alphanumeric class. `toLowercase` maps a text with
them. `asciiTables` is the smallest choice.

`contains`, `startsWith`, `endsWith`, `split`, `splitOnce`, `trimEndMatches` and `trim` are the
methods of `str`, and `afterFirst` is the slice behind what `find` finds. `split_join` says that a
text joined from pieces without the separator splits back into them, and `append_separator_inj` that
the separator determines where the first piece ends. `fileName`, `extension`, `push` and `appendExt`
are the methods of `Path` and `PathBuf` on Unix; `fileName_push` finds a pushed name again.

`OsString` is a platform string, any bytes, and `toStringLossy` replaces each maximal ill-formed
part of it by U+FFFD.
-/

set_option autoImplicit false
set_option relaxedAutoImplicit false

namespace RustStd

/-! ### Results -/

/-- `Option::ok_or`. -/
def okOr {ε α : Type*} (value : Option α) (error : ε) : Except ε α :=
  match value with
  | none => .error error
  | some value => .ok value

@[simp] theorem okOr_some {ε α : Type*} (value : α) (error : ε) :
    okOr (some value) error = .ok value := rfl

@[simp] theorem okOr_eq_ok_iff {ε α : Type*} {value : Option α} {error : ε} {result : α} :
    okOr value error = .ok result ↔ value = some result := by
  cases value with
  | none => simp [okOr]
  | some inner => simp [okOr]

@[simp] theorem ok_bind {ε : Type*} {α β : Type} (value : α) (next : α → Except ε β) :
    (Except.ok value >>= next) = next value := rfl

/-- A block that goes on after `?` found a value. -/
theorem exists_of_bind_eq_ok {ε α β : Type*} {first : Except ε α} {next : α → Except ε β}
    {result : β} (hresult : first.bind next = .ok result) :
    ∃ value, first = .ok value ∧ next value = .ok result := by
  cases first with
  | error error => cases hresult
  | ok value => exact ⟨value, rfl, hresult⟩

/-- A block that goes on after `ok_or` with `?` found a value. -/
theorem exists_of_okOr_bind_eq_ok {ε α β : Type*} {value : Option α} {error : ε}
    {next : α → Except ε β} {result : β} (hresult : (okOr value error).bind next = .ok result) :
    ∃ inner, value = some inner ∧ next inner = .ok result := by
  cases value with
  | none => cases hresult
  | some inner => exact ⟨inner, rfl, hresult⟩

/-- A loop of checks passes when each of them does. -/
theorem forM_eq_ok {ε α : Type} {check : α → Except ε Unit} {entries : List α}
    (hentries : ∀ entry ∈ entries, check entry = .ok ()) : entries.forM check = .ok () := by
  induction entries with
  | nil => rfl
  | cons entry rest ih =>
    show (check entry >>= fun _ ↦ rest.forM check) = _
    rw [hentries entry (.head _), ok_bind]
    exact ih fun other hother ↦ hentries other (.tail _ hother)

/-! ### Case mapping -/

/-- The Unicode tables behind case mapping and character classes, known on ASCII. -/
structure UnicodeTables where
  /-- The lowercase mapping of a character other than capital sigma. -/
  lowercase : Char → List Char
  /-- Whether a capital sigma after the first characters, latest first, and before the second
  ones ends a word. -/
  finalSigma : List Char → List Char → Bool
  /-- The alphanumeric class. -/
  alphanumeric : Char → Bool
  lowercase_ascii : ∀ character : Char, character.toNat < 128 →
    lowercase character = [character.toLower]
  alphanumeric_ascii : ∀ character : Char, character.toNat < 128 →
    alphanumeric character = character.isAlphanum

/-- The tables that know nothing beyond ASCII. -/
def asciiTables : UnicodeTables where
  lowercase character := [character.toLower]
  finalSigma _ _ := false
  alphanumeric character := character.isAlphanum
  lowercase_ascii := fun _ _ ↦ rfl
  alphanumeric_ascii := fun _ _ ↦ rfl

/-- The lowercase of a run of characters that follows `before`, whose latest character is first. -/
def lowercaseFrom (tables : UnicodeTables) (before : List Char) : List Char → List Char
  | [] => []
  | character :: rest =>
    (if character = 'Σ' then [if tables.finalSigma before rest then 'ς' else 'σ']
      else tables.lowercase character) ++ lowercaseFrom tables (character :: before) rest

/-- `str::to_lowercase`. -/
def toLowercase (tables : UnicodeTables) (text : String) : String :=
  String.ofList (lowercaseFrom tables [] text.toList)

/-- The lowercase of a run of characters ends with that of its end. -/
theorem exists_lowercaseFrom_append (tables : UnicodeTables) (before front back : List Char) :
    ∃ lowered, lowercaseFrom tables before (front ++ back) =
      lowered ++ lowercaseFrom tables (front.reverse ++ before) back := by
  induction front generalizing before with
  | nil => exact ⟨[], rfl⟩
  | cons character rest ih =>
    obtain ⟨lowered, hrest⟩ := ih (character :: before)
    rw [List.cons_append, lowercaseFrom, hrest, ← List.append_assoc, List.reverse_cons,
      List.append_assoc _ [character]]
    exact ⟨_, rfl⟩

/-- Without a capital sigma the lowercase does not depend on what stands before. -/
theorem lowercaseFrom_of_not_mem (tables : UnicodeTables) {characters : List Char}
    (hsigma : 'Σ' ∉ characters) (before other : List Char) :
    lowercaseFrom tables before characters = lowercaseFrom tables other characters := by
  induction characters generalizing before other with
  | nil => rfl
  | cons character rest ih =>
    rw [List.mem_cons, not_or] at hsigma
    rw [lowercaseFrom, lowercaseFrom, if_neg (Ne.symm hsigma.1), if_neg (Ne.symm hsigma.1),
      ih hsigma.2 (character :: before) (character :: other)]

/-- The lowercase of a capital sigma is not ASCII. -/
theorem not_mem_of_lowercaseFrom_ascii {tables : UnicodeTables} {before characters : List Char}
    (hascii : ∀ character ∈ lowercaseFrom tables before characters, character.toNat < 128) :
    'Σ' ∉ characters := by
  induction characters generalizing before with
  | nil => exact List.not_mem_nil
  | cons character rest ih =>
    rw [lowercaseFrom] at hascii
    intro hmem
    rcases List.mem_cons.mp hmem with rfl | hrest
    · have hsmall := hascii (if tables.finalSigma before rest then 'ς' else 'σ') (by simp)
      split_ifs at hsmall <;> exact absurd hsmall (by decide)
    · exact ih (fun other hother ↦ hascii other (List.mem_append_right _ hother)) hrest

/-- A text of lowercase ASCII characters is its own lowercase. -/
theorem lowercaseFrom_eq_self (tables : UnicodeTables) {characters : List Char}
    (hlower : ∀ character ∈ characters, character.toNat < 128 ∧ character.toLower = character)
    (before : List Char) : lowercaseFrom tables before characters = characters := by
  induction characters generalizing before with
  | nil => rfl
  | cons character rest ih =>
    obtain ⟨hascii, hsame⟩ := hlower character (.head _)
    have hsigma : character ≠ 'Σ' := by
      rintro rfl
      exact absurd hascii (by decide)
    rw [lowercaseFrom, if_neg hsigma, tables.lowercase_ascii character hascii, hsame,
      ih (fun other hother ↦ hlower other (.tail _ hother))]
    rfl

/-! ### Searching and splitting -/

/-- `str::contains` of a text. -/
def contains (text pattern : String) : Bool :=
  decide (pattern.toList <:+: text.toList)

/-- `str::starts_with` of a text. -/
def startsWith (text pattern : String) : Bool :=
  decide (pattern.toList <+: text.toList)

/-- `str::ends_with` of a text. -/
def endsWith (text pattern : String) : Bool :=
  decide (pattern.toList <:+ text.toList)

/-- `str::strip_prefix`. -/
def stripPrefix (pattern text : String) : Option String :=
  if pattern.toList <+: text.toList then
    some (String.ofList (text.toList.drop pattern.toList.length))
  else none

/-- A prefix that is stripped stands before what is left. -/
theorem stripPrefix_eq_some_iff {pattern text rest : String} :
    stripPrefix pattern text = some rest ↔ text = pattern ++ rest := by
  rw [stripPrefix]
  constructor
  · intro hstrip
    split_ifs at hstrip with hprefix
    obtain ⟨back, hback⟩ := hprefix
    rw [← hback, List.drop_left, Option.some.injEq] at hstrip
    rw [← String.toList_inj, String.toList_append, ← hstrip, String.toList_ofList, hback]
  · rintro rfl
    rw [String.toList_append, if_pos (List.prefix_append _ _), List.drop_left,
      String.ofList_toList]

/-- `str::split` at a character. -/
def split (separator : Char) (text : String) : List String :=
  (text.toList.splitOn separator).map String.ofList

/-- A text without the separator is its only piece. Assumes: the separator is not in it. -/
theorem split_of_not_mem {separator : Char} {text : String} (htext : separator ∉ text.toList) :
    split separator text = [text] := by
  rw [split, List.splitOn_eq_singleton htext, List.map_singleton, String.ofList_toList]

/-- The empty text is one empty piece. -/
theorem split_empty (separator : Char) : split separator "" = [""] :=
  split_of_not_mem List.not_mem_nil

/-- The first piece of a text ends where the separator first stands. Assumes: the separator is not
in that piece. -/
theorem split_append {separator : Char} {first : String} (hfirst : separator ∉ first.toList)
    (rest : String) :
    split separator (first ++ String.singleton separator ++ rest) =
      first :: split separator rest := by
  have hjoined : (first ++ String.singleton separator ++ rest).toList =
      first.toList ++ separator :: rest.toList := by
    simp
  rw [split, hjoined, List.splitOn_append_cons_self_of_not_mem hfirst, List.map_cons,
    String.ofList_toList, split]

/-- The last piece of a text begins behind the last separator. Assumes: the separator is not in that
piece. -/
theorem getLast?_split_append {separator : Char} (front : String) {last : String}
    (hlast : separator ∉ last.toList) :
    (split separator (front ++ String.singleton separator ++ last)).getLast? = some last := by
  have hjoined : (front ++ String.singleton separator ++ last).toList =
      front.toList ++ separator :: last.toList := by
    simp
  rw [split, hjoined, List.splitOn_append_cons_self, List.splitOn_eq_singleton hlast]
  simp

/-- Two pieces without the separator, joined by it, split back. Assumes: neither piece has the
separator. -/
theorem split_join {separator : Char} {first second : String}
    (hfirst : separator ∉ first.toList) (hsecond : separator ∉ second.toList) :
    split separator (first ++ String.singleton separator ++ second) = [first, second] := by
  rw [split_append hfirst, split_of_not_mem hsecond]

/-- A text that begins with a piece and the separator determines the piece and what follows.
Assumes: the separator is not in the piece, on either side. -/
theorem append_separator_inj {separator : Char} {first second rest other : String}
    (hfirst : separator ∉ first.toList) (hsecond : separator ∉ second.toList)
    (hjoined : first ++ (String.singleton separator ++ rest) =
      second ++ (String.singleton separator ++ other)) :
    first = second ∧ rest = other := by
  rw [← String.append_assoc, ← String.append_assoc] at hjoined
  have hpieces := congrArg (split separator) hjoined
  rw [split_append hfirst, split_append hsecond] at hpieces
  have hhead : first = second := (List.cons.inj hpieces).1
  refine ⟨hhead, ?_⟩
  rw [hhead] at hjoined
  exact String.append_right_inj _ |>.mp hjoined

/-- `str::splitn` of a text into two at a character, when the character is in it. -/
def splitOnce (separator : Char) (text : String) : Option (String × String) :=
  match text.toList.dropWhile fun character ↦ character != separator with
  | [] => none
  | _ :: rest =>
    some (String.ofList (text.toList.takeWhile fun character ↦ character != separator),
      String.ofList rest)

/-- What stands behind the first place where a pattern stands. -/
def behindFirst (pattern : List Char) : List Char → Option (List Char)
  | [] => if pattern = [] then some [] else none
  | character :: rest =>
    if pattern <+: character :: rest then some ((character :: rest).drop pattern.length)
    else behindFirst pattern rest

/-- `str::find` of a pattern, and the slice behind it. -/
def afterFirst (pattern text : String) : Option String :=
  (behindFirst pattern.toList text.toList).map String.ofList

/-- `str::trim_end_matches` of a character. -/
def trimEndMatches (character : Char) (text : String) : String :=
  String.ofList (text.toList.rdropWhile fun other ↦ other == character)

/-- `char::is_whitespace`. -/
def isWhitespace (character : Char) : Bool :=
  let value := character.toNat
  (0x09 ≤ value && value ≤ 0x0D) || value = 0x20 || value = 0x85 || value = 0xA0 ||
    value = 0x1680 || (0x2000 ≤ value && value ≤ 0x200A) || value = 0x2028 || value = 0x2029 ||
    value = 0x202F || value = 0x205F || value = 0x3000

/-- `str::trim`. -/
def trim (text : String) : String :=
  String.ofList ((text.toList.dropWhile isWhitespace).rdropWhile isWhitespace)

/-- A text is cut where the separator first stands. Assumes: the separator is not in the first
piece. -/
theorem splitOnce_append {separator : Char} {first : String} (hfirst : separator ∉ first.toList)
    (rest : String) :
    splitOnce separator (first ++ String.singleton separator ++ rest) = some (first, rest) := by
  have hjoined : (first ++ String.singleton separator ++ rest).toList =
      first.toList ++ separator :: rest.toList := by
    simp
  have hall : ∀ character ∈ first.toList, (character != separator) = true := by
    intro character hmem
    refine bne_iff_ne.mpr fun hsame ↦ ?_
    rw [hsame] at hmem
    exact hfirst hmem
  rw [splitOnce, hjoined, List.dropWhile_append_of_pos hall, List.takeWhile_append_of_pos hall]
  simp

/-- A pattern is not found where its first character does not stand. -/
theorem behindFirst_append {first : Char} {front : List Char} (hfirst : first ∉ front)
    (pattern rest : List Char) :
    behindFirst (first :: pattern) (front ++ rest) = behindFirst (first :: pattern) rest := by
  induction front with
  | nil => rfl
  | cons character front ih =>
    rw [List.mem_cons, not_or] at hfirst
    rw [List.cons_append, behindFirst, if_neg, ih hfirst.2]
    exact fun hprefix ↦ hfirst.1 (List.cons_prefix_cons.mp hprefix).1

/-- A pattern is found where the text begins with it. -/
theorem behindFirst_self {pattern : List Char} (hpattern : pattern ≠ []) (rest : List Char) :
    behindFirst pattern (pattern ++ rest) = some rest := by
  obtain ⟨first, others, rfl⟩ := List.exists_cons_of_ne_nil hpattern
  rw [List.cons_append, behindFirst, ← List.cons_append, if_pos (List.prefix_append _ _),
    List.drop_left]

/-- The separator does not stand before the cut of a text. -/
theorem not_mem_of_splitOnce {separator : Char} {text first rest : String}
    (hcut : splitOnce separator text = some (first, rest)) : separator ∉ first.toList := by
  rw [splitOnce] at hcut
  rcases hdrop : text.toList.dropWhile (fun character ↦ character != separator) with
    _ | ⟨sign, back⟩
  · rw [hdrop] at hcut
    cases hcut
  · rw [hdrop] at hcut
    obtain ⟨rfl, -⟩ := Prod.mk.inj (Option.some.inj hcut)
    rw [String.toList_ofList]
    intro hmem
    simpa using List.mem_takeWhile_imp hmem

/-- What stands behind the cut of a text is part of it. -/
theorem mem_of_splitOnce {separator : Char} {text first rest : String}
    (hcut : splitOnce separator text = some (first, rest)) {character : Char}
    (hmem : character ∈ rest.toList) : character ∈ text.toList := by
  rw [splitOnce] at hcut
  rcases hdrop : text.toList.dropWhile (fun character ↦ character != separator) with
    _ | ⟨sign, back⟩
  · rw [hdrop] at hcut
    cases hcut
  · rw [hdrop] at hcut
    obtain ⟨-, rfl⟩ := Prod.mk.inj (Option.some.inj hcut)
    rw [String.toList_ofList] at hmem
    have hsuffix := @List.dropWhile_suffix _ text.toList (fun character ↦ character != separator)
    rw [hdrop] at hsuffix
    exact hsuffix.subset (.tail _ hmem)

/-- Pieces without the separator, joined by it, split back. Assumes: there is a piece. -/
theorem split_intercalate {separator : Char} {pieces : List String} (hpieces : pieces ≠ [])
    (hfree : ∀ piece ∈ pieces, separator ∉ piece.toList) :
    split separator ((String.singleton separator).intercalate pieces) = pieces := by
  have hmapped : ∀ piece ∈ pieces.map String.toList, separator ∉ piece := by
    intro characters hmem
    obtain ⟨piece, hpiece, rfl⟩ := List.mem_map.mp hmem
    exact hfree piece hpiece
  rw [split, String.toList_intercalate, String.toList_singleton,
    List.splitOn_intercalate separator hmapped (by simpa using hpieces), List.map_map]
  have hid : String.ofList ∘ String.toList = id := funext fun _ ↦ String.ofList_toList
  rw [hid, List.map_id]

/-- No piece of a list has the separator. -/
theorem not_mem_of_mem_splitOn {separator : Char} {characters piece : List Char}
    (hpiece : piece ∈ characters.splitOn separator) : separator ∉ piece := by
  induction characters generalizing piece with
  | nil =>
    rw [List.splitOn_nil, List.mem_singleton] at hpiece
    rw [hpiece]
    exact List.not_mem_nil
  | cons character rest ih =>
    rw [List.splitOn_cons_eq_if_modifyHead] at hpiece
    split_ifs at hpiece with hcut
    · rcases List.mem_cons.mp hpiece with rfl | hrest
      · exact List.not_mem_nil
      · exact ih hrest
    · rcases hsplit : rest.splitOn separator with _ | ⟨first, others⟩
      · exact absurd hsplit (List.splitOn_ne_nil separator rest)
      rw [hsplit] at hpiece ih
      rcases List.mem_cons.mp hpiece with rfl | hother
      · intro hseparator
        rcases List.mem_cons.mp hseparator with rfl | hfirst
        · exact hcut (beq_self_eq_true _)
        · exact ih (.head _) hfirst
      · exact ih (.tail _ hother)

/-- No piece of a text has the separator. -/
theorem not_mem_of_mem_split {separator : Char} {text piece : String}
    (hpiece : piece ∈ split separator text) : separator ∉ piece.toList := by
  obtain ⟨characters, hmem, rfl⟩ := List.mem_map.mp hpiece
  rw [String.toList_ofList]
  exact not_mem_of_mem_splitOn hmem

/-- A trimmed text has no character that the text does not have. -/
theorem mem_of_mem_trim {text : String} {character : Char}
    (hmem : character ∈ (trim text).toList) : character ∈ text.toList := by
  rw [trim, String.toList_ofList] at hmem
  exact (List.dropWhile_suffix _).subset ((List.rdropWhile_prefix _ _).subset hmem)

/-- A character that is not white space stays in a trimmed text. -/
theorem mem_trim {text : String} {character : Char} (hmem : character ∈ text.toList)
    (hvisible : isWhitespace character = false) : character ∈ (trim text).toList := by
  have hdrop : ∀ characters : List Char, character ∈ characters →
      character ∈ characters.dropWhile isWhitespace := by
    intro characters hin
    rw [← List.takeWhile_append_dropWhile (p := isWhitespace) (l := characters),
      List.mem_append] at hin
    rcases hin with hfront | hback
    · exact absurd (List.mem_takeWhile_imp hfront) (by simp [hvisible])
    · exact hback
  rw [trim, String.toList_ofList, List.rdropWhile, List.mem_reverse]
  exact hdrop _ (List.mem_reverse.mpr (hdrop _ hmem))

/-- A text that neither begins nor ends with white space is trimmed already. -/
theorem trim_eq_self {text : String}
    (hhead : ∀ character ∈ text.toList.head?, isWhitespace character = false)
    (hlast : ∀ character ∈ text.toList.getLast?, isWhitespace character = false) :
    trim text = text := by
  have hfront : text.toList.dropWhile isWhitespace = text.toList := by
    cases hcharacters : text.toList with
    | nil => rfl
    | cons first rest =>
      rw [hcharacters] at hhead
      exact List.dropWhile_cons_of_neg (by simp [hhead first rfl])
  have hback : text.toList.rdropWhile isWhitespace = text.toList := by
    rw [List.rdropWhile_eq_self_iff]
    intro hne
    simp [hlast _ (List.getLast?_eq_some_getLast hne)]
  rw [trim, hfront, hback, String.ofList_toList]

/-! ### Paths -/

/-- `Path::file_name`: the last component, when it is a normal one. Trailing separators and
trailing `.` components do not count. -/
def fileName (path : String) : Option String :=
  match (path.toList.splitOn '/').reverse.dropWhile fun part ↦ part = [] || part = ['.'] with
  | [] => none
  | part :: _ => if part = ['.', '.'] then none else some (String.ofList part)

/-- `Path::extension`: what follows the last dot of the file name, unless nothing precedes the
dot. -/
def extension (path : String) : Option String :=
  (fileName path).bind fun name ↦
    let backwards := name.toList.reverse
    match backwards.dropWhile (· ≠ '.') with
    | [] => none
    | [_] => none
    | _ :: _ => some (String.ofList (backwards.takeWhile (· ≠ '.')).reverse)

/-- `Path::file_stem` and `Path::extension` of a file name: it is cut at its last dot, unless
nothing precedes the dot. -/
def stemAndExtension (name : String) : String × Option String :=
  let backwards := name.toList.reverse
  match backwards.dropWhile (· ≠ '.') with
  | [] => (name, none)
  | [_] => (name, none)
  | _ :: before =>
    (String.ofList before.reverse, some (String.ofList (backwards.takeWhile (· ≠ '.')).reverse))

/-- `PathBuf::push`: an absolute path replaces the base, any other path is appended to it. -/
def push (base path : String) : String :=
  if startsWith path "/" then path
  else if base = "" || endsWith base "/" then base ++ path
  else base ++ "/" ++ path

/-- A dotted extension appended to the end of a path. -/
def appendExt (ext path : String) : String :=
  path ++ "." ++ ext

/-- A name with an extension is its stem and the extension, and the stem is not empty. -/
theorem appendExt_stemAndExtension {name ext : String}
    (hext : (stemAndExtension name).2 = some ext) :
    appendExt ext (stemAndExtension name).1 = name ∧ (stemAndExtension name).1 ≠ "" := by
  have hsplit := List.takeWhile_append_dropWhile (p := fun character : Char ↦
    decide (character ≠ '.')) (l := name.toList.reverse)
  have hhead := List.head?_dropWhile_not (fun character : Char ↦ decide (character ≠ '.'))
    name.toList.reverse
  simp only [stemAndExtension] at hext ⊢
  rcases hdrop : name.toList.reverse.dropWhile (fun character ↦ decide (character ≠ '.')) with
    _ | ⟨dot, _ | ⟨last, before⟩⟩
  · rw [hdrop] at hext
    cases hext
  · rw [hdrop] at hext
    cases hext
  rw [hdrop] at hext hsplit hhead
  obtain rfl := Option.some.inj hext
  obtain rfl : dot = '.' := by simpa using hhead
  refine ⟨String.toList_injective ?_, fun hempty ↦ ?_⟩
  · have hname := congrArg List.reverse hsplit
    rw [List.reverse_reverse] at hname
    conv_rhs => rw [← hname]
    simp [appendExt]
  · have hlist := congrArg String.toList hempty
    simp at hlist

/-- A text that starts with a slash has one. -/
theorem startsWith_slash_eq_false {path : String} (hslash : '/' ∉ path.toList) :
    startsWith path "/" = false := by
  rw [startsWith, decide_eq_false_iff_not]
  rintro ⟨rest, hrest⟩
  apply hslash
  rw [← hrest]
  exact List.mem_append_left _ (List.mem_singleton_self '/')

/-- A directory and a separator behind it, where it needs one. -/
def directoryFront (base : String) : String :=
  if base = "" || endsWith base "/" then base else base ++ "/"

/-- A relative path is appended to the directory. -/
theorem push_eq_append {base path : String} (hslash : '/' ∉ path.toList) :
    push base path = directoryFront base ++ path := by
  rw [push, startsWith_slash_eq_false hslash, if_neg Bool.false_ne_true, directoryFront]
  split_ifs <;> rfl

/-- The front of a directory is empty or ends with a slash. -/
theorem directoryFront_cases (base : String) :
    (directoryFront base).toList = [] ∨
      ∃ front, (directoryFront base).toList = front ++ ['/'] := by
  unfold directoryFront
  split_ifs with hbase
  · rcases Bool.or_eq_true_iff.mp hbase with hempty | hends
    · left
      rw [of_decide_eq_true hempty]
      rfl
    · right
      obtain ⟨front, hfront⟩ := of_decide_eq_true hends
      exact ⟨front, hfront.symm⟩
  · right
    exact ⟨base.toList, String.toList_append⟩

/-- The file name of a path into a directory is the name pushed. Assumes: it is one component, and
not one that stands for a directory. -/
theorem fileName_push {base name : String} (hslash : '/' ∉ name.toList) (hempty : name ≠ "")
    (hdot : name ≠ ".") (hdots : name ≠ "..") : fileName (push base name) = some name := by
  have hparts : ∃ front, (push base name).toList.splitOn '/' = front ++ [name.toList] := by
    rw [push_eq_append hslash, String.toList_append]
    rcases directoryFront_cases base with hfront | ⟨front, hfront⟩
    · refine ⟨[], ?_⟩
      rw [hfront, List.nil_append, List.splitOn_eq_singleton hslash, List.nil_append]
    · refine ⟨front.splitOn '/', ?_⟩
      rw [hfront, List.append_assoc, List.singleton_append, List.splitOn_append_cons_self,
        List.splitOn_eq_singleton hslash]
  obtain ⟨front, hfront⟩ := hparts
  have hnil : name.toList ≠ [] := fun hlist ↦ hempty (String.toList_inj.mp hlist)
  have hone : name.toList ≠ ['.'] := fun hlist ↦ hdot (String.toList_inj.mp hlist)
  have htwo : name.toList ≠ ['.', '.'] := fun hlist ↦ hdots (String.toList_inj.mp hlist)
  rw [fileName, hfront, List.reverse_append, List.reverse_singleton, List.singleton_append,
    List.dropWhile_cons_of_neg (by simp [hnil, hone])]
  simp only [htwo, if_false, String.ofList_toList]

/-- An extension appended to a pushed path is one appended to its name. -/
theorem appendExt_push {ext base name : String} (hname : '/' ∉ name.toList)
    (hext : '/' ∉ ext.toList) :
    appendExt ext (push base name) = push base (appendExt ext name) := by
  have hlong : '/' ∉ (appendExt ext name).toList := by
    simp [appendExt, hname, hext]
  rw [push_eq_append hname, push_eq_append hlong, appendExt, appendExt, String.append_assoc,
    String.append_assoc, String.append_assoc]

/-! ### Platform strings -/

/-- A platform string: any sequence of bytes. -/
structure OsString where
  /-- The bytes of the string. -/
  bytes : List UInt8
  deriving DecidableEq, Repr

/-- A text as a platform string. -/
def OsString.ofText (text : String) : OsString :=
  ⟨Wire.Bincode.utf8 text⟩

/-- `OsStr::to_str`: the text of a platform string that is valid UTF-8. -/
def OsString.toStr (string : OsString) : Option String :=
  Wire.Bincode.fromUtf8 string.bytes

/-- The components of a path: the root, when the path is absolute, and its parts. -/
def OsString.pathComponents (path : OsString) : List (Option (List UInt8)) :=
  (if path.bytes.head? = some 0x2F then [none] else []) ++
    ((path.bytes.splitOn 0x2F).filter fun part ↦ part ≠ [] ∧ part ≠ [0x2E]).map some

/-- `Path::starts_with`. -/
def OsString.startsWithPath (path base : OsString) : Bool :=
  decide (base.pathComponents <+: path.pathComponents)

/-- A UTF-8 continuation byte. -/
def isContinuation (byte : UInt8) : Bool :=
  0x80 ≤ byte && byte ≤ 0xBF

/-- The bytes that may follow a leading byte of a sequence of three or four bytes: the ranges
exclude overlong forms, surrogates and values above U+10FFFF. -/
def isSecond (lead byte : UInt8) : Bool :=
  if lead = 0xE0 then 0xA0 ≤ byte && byte ≤ 0xBF
  else if lead = 0xED then 0x80 ≤ byte && byte ≤ 0x9F
  else if lead = 0xF0 then 0x90 ≤ byte && byte ≤ 0xBF
  else if lead = 0xF4 then 0x80 ≤ byte && byte ≤ 0x8F
  else isContinuation byte

/-- The character with the payload bits of a lead byte and its continuation bytes. -/
def charOf (lead : UInt8) (mask : UInt8) (tail : List UInt8) : Char :=
  Char.ofNat (tail.foldl (fun value byte ↦ value * 64 + (byte &&& 0x3F).toNat)
    (lead &&& mask).toNat)

/-- The characters of a run of bytes, each maximal ill-formed part read as U+FFFD. -/
def lossyChars : List UInt8 → List Char
  | [] => []
  | lead :: rest =>
    if lead < 0x80 then Char.ofNat lead.toNat :: lossyChars rest
    else if 0xC2 ≤ lead && lead ≤ 0xDF then
      match rest with
      | [] => ['\uFFFD']
      | second :: rest₁ =>
        if isContinuation second then charOf lead 0x1F [second] :: lossyChars rest₁
        else '\uFFFD' :: lossyChars (second :: rest₁)
    else if 0xE0 ≤ lead && lead ≤ 0xEF then
      match rest with
      | [] => ['\uFFFD']
      | second :: rest₁ =>
        if isSecond lead second then
          match rest₁ with
          | [] => ['\uFFFD']
          | third :: rest₂ =>
            if isContinuation third then charOf lead 0x0F [second, third] :: lossyChars rest₂
            else '\uFFFD' :: lossyChars (third :: rest₂)
        else '\uFFFD' :: lossyChars (second :: rest₁)
    else if 0xF0 ≤ lead && lead ≤ 0xF4 then
      match rest with
      | [] => ['\uFFFD']
      | second :: rest₁ =>
        if isSecond lead second then
          match rest₁ with
          | [] => ['\uFFFD']
          | third :: rest₂ =>
            if isContinuation third then
              match rest₂ with
              | [] => ['\uFFFD']
              | fourth :: rest₃ =>
                if isContinuation fourth then
                  charOf lead 0x07 [second, third, fourth] :: lossyChars rest₃
                else '\uFFFD' :: lossyChars (fourth :: rest₃)
            else '\uFFFD' :: lossyChars (third :: rest₂)
        else '\uFFFD' :: lossyChars (second :: rest₁)
    else '\uFFFD' :: lossyChars rest

/-- `OsStr::to_string_lossy`. -/
def OsString.toStringLossy (string : OsString) : String :=
  String.ofList (lossyChars string.bytes)

example : (⟨[0x61, 0xC3, 0xA9, 0xFF, 0xE2, 0x82]⟩ : OsString).toStringLossy = "aé\uFFFD\uFFFD" := by
  decide

end RustStd
