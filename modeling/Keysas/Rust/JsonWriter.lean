import Keysas.Rust.JsonReader
import Keysas.Rust.Utf8Cut

/-!
# Writing JSON texts

`write` is the writer of serde_json, for a text on one line and for an indented one. `Written` are
the syntax trees that are written: those with no other numbers than natural ones, with the texts of
their strings, and not too deep. `fromStr_write` says that what is written is read back, and
`fromStr_of_bytes` what is read from the bytes of an array or an object up to some position: nothing
where they stop before the closing bracket.
-/

set_option autoImplicit false
set_option relaxedAutoImplicit false

namespace SerdeJson

open RustStd

/-! ### The writer -/

/-- How a text is laid out: on one line, or indented by so many levels. -/
inductive Layout where
  | compact
  | pretty (level : ℕ)

/-- The layout of what is between two brackets. -/
def Layout.inner : Layout → Layout
  | .compact => .compact
  | .pretty level => .pretty (level + 1)

/-- A line break with the indentation behind it. -/
def Layout.lineBreak : Layout → List Char
  | .compact => []
  | .pretty level => '\n' :: List.replicate (2 * level) ' '

/-- What stands between the colon of a member and its value. -/
def Layout.behindColon : Layout → List Char
  | .compact => []
  | .pretty _ => [' ']

/-- A character of a string as it is written. -/
def escapeChar (character : Char) : List Char :=
  if character = '"' then ['\\', '"']
  else if character = '\\' then ['\\', '\\']
  else if character = '\x08' then ['\\', 'b']
  else if character = '\x0c' then ['\\', 'f']
  else if character = '\n' then ['\\', 'n']
  else if character = '\r' then ['\\', 'r']
  else if character = '\t' then ['\\', 't']
  else if character.toNat < 0x20 then
    ['\\', 'u', '0', '0', Nat.digitChar (character.toNat / 16),
      Nat.digitChar (character.toNat % 16)]
  else [character]

/-- `format_escaped_str`. -/
def quote (text : String) : List Char :=
  '"' :: (text.toList.flatMap escapeChar ++ ['"'])

/-- Some pieces between two brackets. -/
def bracketed (layout : Layout) (opening closing : Char) : List (List Char) → List Char
  | [] => [opening, closing]
  | piece :: pieces =>
    opening :: (layout.inner.lineBreak ++ piece ++
      (pieces.flatMap fun piece ↦ ',' :: (layout.inner.lineBreak ++ piece)) ++
        (layout.lineBreak ++ [closing]))

mutual

/-- The text of a syntax tree. -/
def write (layout : Layout) : Json → List Char
  | .null => "null".toList
  | .bool true => "true".toList
  | .bool false => "false".toList
  | .unsigned value => Nat.toDigits 10 value.toNat
  | .otherNumber => []
  | .string text => quote (text.getD "")
  | .array items => bracketed layout '[' ']' (writeItems layout.inner items)
  | .object members => bracketed layout '\x7b' '\x7d' (writeMembers layout.inner members)

/-- The texts of some items. -/
def writeItems (layout : Layout) : List Json → List (List Char)
  | [] => []
  | item :: items => write layout item :: writeItems layout items

/-- The texts of some members. -/
def writeMembers (layout : Layout) : List (Option String × Json) → List (List Char)
  | [] => []
  | (name, value) :: members =>
    (quote (name.getD "") ++ ':' :: (layout.behindColon ++ write layout value)) ::
      writeMembers layout members

end

/-- `serde_json::to_string`. -/
def toText (value : Json) : String :=
  String.ofList (write .compact value)

/-- `serde_json::to_string_pretty`. -/
def toTextPretty (value : Json) : String :=
  String.ofList (write (.pretty 0) value)

example : toTextPretty (.object [(some "a", .array [.null, .unsigned 10]), (some "b\n", .array [])])
    = "\x7b\n  \"a\": [\n    null,\n    10\n  ],\n  \"b\\n\": []\n\x7d" := by
  decide +kernel

/-! ### Strings -/

/-- The unit that is read for a character of a string. -/
def unitOf (character : Char) : StringUnit :=
  if character ∈ ['"', '\\', '\x08', '\x0c', '\n', '\r', '\t'] then .character character
  else if character.toNat < 0x20 then .code character.toNat
  else .character character

/-- The two last digits of a control character are read back. -/
theorem hexCode_digitChar {value : ℕ} (hvalue : value < 0x20) :
    hexCode '0' '0' (Nat.digitChar (value / 16)) (Nat.digitChar (value % 16)) = some value := by
  have hall : ∀ value < 0x20,
      hexCode '0' '0' (Nat.digitChar (value / 16)) (Nat.digitChar (value % 16)) = some value := by
    decide
  exact hall value hvalue

/-- What is written for a character is read as one unit. -/
theorem readUnits_escapeChar (character : Char) (rest : List Char) :
    readUnits (escapeChar character ++ rest) =
      (readUnits rest).map (before (unitOf character)) := by
  unfold escapeChar
  split_ifs with hquote hbackslash hback hfeed hline hreturn htab hcontrol
  · subst hquote
    exact readUnits_escape rfl rest
  · subst hbackslash
    exact readUnits_escape rfl rest
  · subst hback
    exact readUnits_escape rfl rest
  · subst hfeed
    exact readUnits_escape rfl rest
  · subst hline
    exact readUnits_escape rfl rest
  · subst hreturn
    exact readUnits_escape rfl rest
  · subst htab
    exact readUnits_escape rfl rest
  · have hunit : unitOf character = .code character.toNat := by
      rw [unitOf, if_neg (by simp [*]), if_pos hcontrol]
    rw [hunit]
    exact (readUnits_unicode _ _ _ _ rest).trans (by rw [hexCode_digitChar hcontrol]; rfl)
  · have hunit : unitOf character = .character character := by
      rw [unitOf, if_neg (by simp [*]), if_neg hcontrol]
    rw [hunit]
    exact readUnits_character hquote hbackslash hcontrol rest

/-- A string that is written is read up to its closing quote. -/
theorem readUnits_flatMap (characters rest : List Char) :
    readUnits (characters.flatMap escapeChar ++ '"' :: rest) =
      some (characters.map unitOf, rest) := by
  induction characters with
  | nil => exact readUnits_quote rest
  | cons character characters ih =>
    rw [List.flatMap_cons, List.append_assoc, readUnits_escapeChar, ih]
    rfl

/-- The units of a string that is written stand for its characters. -/
theorem decodeUnits_map (characters : List Char) :
    decodeUnits (characters.map unitOf) = some characters := by
  induction characters with
  | nil => rfl
  | cons character characters ih =>
    have hplain : decodeUnits (.character character :: characters.map unitOf) =
        some (character :: characters) := by
      rw [decodeUnits, ih]
      rfl
    rw [List.map_cons, unitOf]
    split_ifs with hshort hcontrol
    · exact hplain
    · have hlow : ∀ value < 0x20, isLeading value = false ∧ isTrailing value = false := by decide
      obtain ⟨hleading, htrailing⟩ := hlow _ hcontrol
      rw [decodeUnits.eq_def]
      dsimp only
      rw [hleading, htrailing, ih, Char.ofNat_toNat]
      rfl
    · exact hplain

/-- A text that is written is read back. -/
theorem stringOf_map (text : String) : stringOf (text.toList.map unitOf) = some text := by
  rw [stringOf, decodeUnits_map, Option.map_some, String.ofList_toList]

/-! ### Numbers -/

/-- What follows a value does not go on with a number. -/
def Follows (rest : List Char) : Prop :=
  ∀ character ∈ rest.head?, character.isDigit = false ∧ character ≠ '.' ∧ character ≠ 'e' ∧
    character ≠ 'E'

theorem follows_nil : Follows [] := by
  rintro _ ⟨⟩

theorem follows_cons {character : Char} (rest : List Char)
    (hcharacter : character ∈ [',', ']', '\x7d', '\n', ' ']) : Follows (character :: rest) := by
  have hall : ∀ character ∈ [',', ']', '\x7d', '\n', ' '],
      character.isDigit = false ∧ character ≠ '.' ∧ character ≠ 'e' ∧ character ≠ 'E' := by
    simp
  rintro _ ⟨⟩
  exact hall character hcharacter

/-- Digits are read up to what follows. -/
theorem readDigits_append {digits rest : List Char} (hdigits : digits ≠ [])
    (hall : ∀ digit ∈ digits, digit.isDigit = true) (hrest : Follows rest) :
    readDigits (digits ++ rest) = some (digits, rest) := by
  have htake : rest.takeWhile Char.isDigit = [] ∧ rest.dropWhile Char.isDigit = rest := by
    rcases rest with _ | ⟨character, rest⟩
    · exact ⟨rfl, rfl⟩
    · have hcharacter := (hrest character rfl).1
      exact ⟨List.takeWhile_cons_of_neg (by simp [hcharacter]),
        List.dropWhile_cons_of_neg (by simp [hcharacter])⟩
  rw [readDigits, List.takeWhile_append_of_pos hall, List.dropWhile_append_of_pos hall, htake.1,
    htake.2, List.append_nil, if_neg hdigits]

/-- No number of several digits is written with a zero before it. -/
theorem leadingZero_toDigits (value : ℕ) : leadingZero (Nat.toDigits 10 value) = false := by
  have hhead : ∀ value, 0 < value → (Nat.toDigits 10 value).head? ≠ some '0' := by
    intro value
    induction value using Nat.strong_induction_on with
    | _ value ih =>
      intro hvalue
      by_cases hsmall : value < 10
      · have hone : ∀ value < 10, 0 < value → [Nat.digitChar value].head? ≠ some '0' := by decide
        rw [Nat.toDigits_of_lt_base hsmall]
        exact hone value hsmall hvalue
      · rw [Nat.toDigits_of_base_le (by decide) (Nat.le_of_not_lt hsmall)]
        have htenth := ih (value / 10) (by omega) (by omega)
        rcases hdigits : Nat.toDigits 10 (value / 10) with _ | ⟨first, digits⟩
        · exact absurd hdigits Nat.toDigits_ne_nil
        · rwa [hdigits] at htenth
  rcases Nat.eq_zero_or_pos value with rfl | hvalue
  · rfl
  · unfold leadingZero
    split
    · next heq => exact absurd (by rw [heq]; rfl) (hhead value hvalue)
    · rfl

/-- A number that is written is read back. -/
theorem readNumber_toDigits (value : UInt64) {rest : List Char} (hrest : Follows rest) :
    readNumber (Nat.toDigits 10 value.toNat ++ rest) = some (.unsigned value, rest) := by
  have hall : ∀ digit ∈ Nat.toDigits 10 value.toNat, digit.isDigit = true :=
    fun _ hmem ↦ Nat.isDigit_of_mem_toDigits (by decide) (by decide) hmem
  have hsign : readSign (Nat.toDigits 10 value.toNat ++ rest) =
      (false, Nat.toDigits 10 value.toNat ++ rest) := by
    rcases hdigits : Nat.toDigits 10 value.toNat with _ | ⟨first, digits⟩
    · exact absurd hdigits Nat.toDigits_ne_nil
    · rw [hdigits] at hall
      unfold readSign
      split
      · next heq =>
        obtain ⟨rfl, -⟩ := List.cons.inj heq
        exact absurd (hall _ (.head _)) (by decide)
      · rfl
  have hfraction : readFraction rest = some (false, rest) := by
    unfold readFraction
    split
    · next tail => exact absurd rfl (hrest '.' rfl).2.1
    · rfl
  have hexponent : readExponent rest = some (false, rest) := by
    rcases rest with _ | ⟨character, rest⟩
    · rfl
    · obtain ⟨-, -, hlower, hupper⟩ := hrest character rfl
      rw [readExponent, if_neg (not_or.mpr ⟨hlower, hupper⟩)]
  have hnumber : numberOf false false (Nat.toDigits 10 value.toNat) = .unsigned value := by
    rw [numberOf, digitsValue_of_isDigit hall, Nat.ofDigitChars_ten_toDigits]
    show (if value.toNat < 2 ^ 64 then _ else _) = _
    rw [if_pos value.toNat_lt, UInt64.ofNat_toNat]
  rw [readNumber, hsign]
  show (readDigits _).bind _ = _
  rw [readDigits_append Nat.toDigits_ne_nil hall hrest, Option.bind_some,
    if_neg (by rw [leadingZero_toDigits]; decide)]
  show (readFraction rest).bind _ = _
  rw [hfraction, Option.bind_some]
  show (readExponent rest).bind _ = _
  rw [hexponent, Option.bind_some]
  exact congrArg (fun number ↦ some (number, rest)) hnumber

/-! ### Arrays and objects -/

section Pieces

variable {α : Type} {read : Reader α} {layout : Layout}

/-- A piece of a text from which a value is read, behind spaces and before what does not go on with
a number. -/
structure Reads (read : Reader α) (piece : List Char) (value : α) : Prop where
  starts : ∃ first others, piece = first :: others ∧ isSpace first = false ∧
    first ≠ ']' ∧ first ≠ '}'
  reads : ∀ {spaces rest}, (∀ space ∈ spaces, isSpace space = true) → Follows rest →
    read (spaces ++ (piece ++ rest)) = some (value, rest)

theorem Reads.ne_nil {piece : List Char} {value : α} (hpiece : Reads read piece value) :
    piece ≠ [] := by
  obtain ⟨first, others, rfl, -⟩ := hpiece.starts
  exact List.cons_ne_nil first others

theorem isSpace_of_mem_lineBreak {space : Char} (hspace : space ∈ layout.lineBreak) :
    isSpace space = true := by
  cases layout with
  | compact => cases hspace
  | pretty level =>
    rcases List.mem_cons.mp hspace with rfl | hspace
    · rfl
    · rw [(List.mem_replicate.mp hspace).2]
      rfl

theorem isSpace_of_mem_behindColon {space : Char} (hspace : space ∈ layout.behindColon) :
    isSpace space = true := by
  cases layout with
  | compact => cases hspace
  | pretty level =>
    rw [List.mem_singleton.mp hspace]
    rfl

theorem follows_lineBreak {closing : Char} (hclosing : closing = ']' ∨ closing = '}')
    (rest : List Char) : Follows (layout.lineBreak ++ closing :: rest) := by
  cases layout with
  | compact => rcases hclosing with rfl | rfl <;> exact follows_cons rest (by decide)
  | pretty level => exact follows_cons _ (by decide)

theorem skipSpaces_closing {closing : Char} (hclosing : closing = ']' ∨ closing = '}')
    (rest : List Char) : skipSpaces (layout.lineBreak ++ closing :: rest) = closing :: rest := by
  rw [skipSpaces_of_spaces fun _ ↦ isSpace_of_mem_lineBreak, skipSpaces_cons]
  rcases hclosing with rfl | rfl <;> rfl

/-- The text behind the first of some pieces between two brackets. -/
def behindFirst (layout : Layout) (closing : Char) (pieces : List (List Char))
    (rest : List Char) : List Char :=
  (pieces.flatMap fun piece ↦ ',' :: (layout.inner.lineBreak ++ piece)) ++
    (layout.lineBreak ++ closing :: rest)

theorem behindFirst_cons (closing : Char) (piece : List Char) (pieces : List (List Char))
    (rest : List Char) :
    behindFirst layout closing (piece :: pieces) rest =
      ',' :: (layout.inner.lineBreak ++ (piece ++ behindFirst layout closing pieces rest)) := by
  rw [behindFirst, List.flatMap_cons]
  simp only [List.cons_append, List.append_assoc]
  rfl

theorem follows_behindFirst {closing : Char} (hclosing : closing = ']' ∨ closing = '}')
    (pieces : List (List Char)) (rest : List Char) :
    Follows (behindFirst layout closing pieces rest) := by
  cases pieces with
  | nil => exact follows_lineBreak hclosing rest
  | cons piece pieces =>
    rw [behindFirst_cons]
    exact follows_cons _ (by decide)

/-- The items behind the first one are read up to the closing bracket. -/
theorem readLoop_behindFirst {closing : Char} (hclosing : closing = ']' ∨ closing = '}')
    {pieces : List (List Char)} {values : List α}
    (hpieces : List.Forall₂ (Reads read) pieces values)
    {fuel : ℕ} (hfuel : pieces.length < fuel) (rest : List Char) :
    readLoop closing read false fuel (behindFirst layout closing pieces rest) =
      some (values, rest) := by
  induction hpieces generalizing fuel with
  | nil =>
    obtain ⟨fuel, rfl⟩ := Nat.exists_eq_add_of_le' (Nat.one_le_of_lt hfuel)
    rw [readLoop, behindFirst, List.flatMap_nil, List.nil_append, skipSpaces_closing hclosing]
    exact if_pos rfl
  | @cons piece value pieces values hpiece hpieces ih =>
    obtain ⟨fuel, rfl⟩ := Nat.exists_eq_add_of_le' (Nat.one_le_of_lt hfuel)
    have hcomma : ',' ≠ closing := by
      rintro rfl
      exact absurd hclosing (by decide)
    rw [readLoop, behindFirst_cons, skipSpaces_cons rfl]
    dsimp only
    rw [if_neg hcomma, if_neg Bool.false_ne_true, if_pos rfl,
      hpiece.reads (fun _ ↦ isSpace_of_mem_lineBreak) (follows_behindFirst hclosing pieces rest),
      Option.bind_some]
    exact readAs_eq_some_iff.mpr ⟨values, ih (by rw [List.length_cons] at hfuel; omega), rfl⟩

/-- What is between two brackets is read up to the closing one, with the length of the text as the
fuel. -/
theorem readLoop_bracketed {opening closing : Char} (hclosing : closing = ']' ∨ closing = '}')
    {pieces : List (List Char)} {values : List α}
    (hpieces : List.Forall₂ (Reads read) pieces values)
    (rest : List Char) :
    ∃ input, bracketed layout opening closing pieces ++ rest = opening :: input ∧
      readLoop closing read true (input.length + 1) input = some (values, rest) := by
  cases hpieces with
  | nil =>
    refine ⟨closing :: rest, rfl, ?_⟩
    rw [readLoop, skipSpaces_cons (by rcases hclosing with rfl | rfl <;> rfl)]
    exact if_pos rfl
  | @cons piece value pieces values hpiece hpieces =>
    refine ⟨layout.inner.lineBreak ++ (piece ++ behindFirst layout closing pieces rest), ?_, ?_⟩
    · rw [bracketed, behindFirst]
      simp only [List.cons_append, List.append_assoc, List.nil_append]
    have hread := @Reads.reads _ _ _ _ hpiece [] _ (by rintro _ ⟨⟩)
      (@follows_behindFirst layout closing hclosing pieces rest)
    have hpositive : 0 < piece.length := List.length_pos_iff.mpr hpiece.ne_nil
    have hlength : pieces.length ≤ (behindFirst layout closing pieces rest).length := by
      clear hpieces hread
      induction pieces with
      | nil => exact Nat.zero_le _
      | cons piece pieces ih =>
        rw [behindFirst_cons]
        simp only [List.length_cons, List.length_append]
        omega
    obtain ⟨first, others, rfl, hspace, hfirst⟩ := hpiece.starts
    have hclosed : first ≠ closing := by
      rintro rfl
      exact hclosing.elim hfirst.1 hfirst.2
    rw [readLoop, skipSpaces_of_spaces (fun _ ↦ isSpace_of_mem_lineBreak), List.cons_append,
      skipSpaces_cons hspace]
    dsimp only
    rw [if_neg hclosed, if_pos rfl]
    rw [List.nil_append, List.cons_append] at hread
    rw [hread, Option.bind_some]
    refine readAs_eq_some_iff.mpr ⟨values, readLoop_behindFirst hclosing hpieces ?_ rest, rfl⟩
    simp only [List.length_append, List.length_cons]
    omega

end Pieces

/-- A member is read when its value is. -/
theorem reads_member {read : Reader Json} {piece : List Char} {value : Json}
    (hpiece : Reads read piece value) (layout : Layout) (name : String) :
    Reads (readMember read) (quote name ++ ':' :: (layout.behindColon ++ piece))
      (some name, value) where
  starts := ⟨'"', _, rfl, rfl, by decide⟩
  reads {spaces rest} hspaces hrest := by
    have htext : quote name ++ ':' :: (layout.behindColon ++ piece) ++ rest =
        '"' :: (name.toList.flatMap escapeChar ++
          '"' :: (':' :: (layout.behindColon ++ (piece ++ rest)))) := by
      rw [quote]
      simp only [List.cons_append, List.append_assoc, List.nil_append]
    unfold readMember
    rw [skipSpaces_of_spaces hspaces, htext, skipSpaces_cons rfl]
    show (readUnits _).bind _ = _
    rw [readUnits_flatMap, Option.bind_some]
    dsimp only
    rw [skipSpaces_cons rfl]
    refine readAs_eq_some_iff.mpr
      ⟨value, hpiece.reads (fun _ ↦ isSpace_of_mem_behindColon) hrest, ?_⟩
    rw [stringOf_map]

/-! ### Syntax trees -/

/-- The syntax trees that are written, with arrays and objects at most so deep. -/
inductive Written : ℕ → Json → Prop where
  | null (depth : ℕ) : Written depth .null
  | bool (depth : ℕ) (value : Bool) : Written depth (.bool value)
  | unsigned (depth : ℕ) (value : UInt64) : Written depth (.unsigned value)
  | string (depth : ℕ) (text : String) : Written depth (.string (some text))
  | array {depth : ℕ} {items : List Json} (hitems : ∀ item ∈ items, Written depth item) :
    Written (depth + 1) (.array items)
  | object {depth : ℕ} {members : List (Option String × Json)}
    (hnames : ∀ member ∈ members, member.1.isSome = true)
    (hvalues : ∀ member ∈ members, Written depth member.2) :
    Written (depth + 1) (.object members)

/-- A structure is written when its values are. -/
theorem written_structObject {depth : ℕ} {names : List String} {values : List Json}
    (hvalues : ∀ value ∈ values, Written depth value) :
    Written (depth + 1) (structObject names values) := by
  refine .object (fun member hmember ↦ ?_) fun member hmember ↦ ?_
  · exact List.all_eq_true.mp (all_isSome_zip names values) member hmember
  · exact hvalues _ (List.of_mem_zip hmember).2

/-- An array of strings is written. -/
theorem written_strings (names : List String) (depth : ℕ) :
    Written (depth + 1) (.array (names.map fun name ↦ .string (some name))) := by
  refine .array fun item hitem ↦ ?_
  obtain ⟨name, -, rfl⟩ := List.mem_map.mp hitem
  exact .string depth name

theorem writeItems_eq_map (layout : Layout) (items : List Json) :
    writeItems layout items = items.map (write layout) := by
  induction items with
  | nil => rfl
  | cons item items ih => rw [writeItems, ih, List.map_cons]

theorem writeMembers_eq_map (layout : Layout) (members : List (Option String × Json)) :
    writeMembers layout members = members.map fun member ↦
      quote (member.1.getD "") ++ ':' :: (layout.behindColon ++ write layout member.2) := by
  induction members with
  | nil => rfl
  | cons member members ih =>
    obtain ⟨name, value⟩ := member
    rw [writeMembers, ih, List.map_cons]

/-- A scalar is read in the same way at every depth. -/
theorem reads_scalar {piece : List Char} {value : Json} {first : Char} {others : List Char}
    (hpiece : piece = first :: others) (hspace : isSpace first = false)
    (hfirst : first ∉ [']', '}', '[', '{'])
    (hread : ∀ rest, Follows rest → readScalar (piece ++ rest) = some (value, rest)) (depth : ℕ) :
    Reads (readValue depth) piece value where
  starts := ⟨first, others, hpiece, hspace, by rintro rfl; exact hfirst (by decide),
    by rintro rfl; exact hfirst (by decide)⟩
  reads {spaces rest} hspaces hrest := by
    have hscalar := hread rest hrest
    subst hpiece
    rw [List.cons_append] at hscalar ⊢
    have hskip : skipSpaces (spaces ++ first :: (others ++ rest)) = first :: (others ++ rest) := by
      rw [skipSpaces_of_spaces hspaces, skipSpaces_cons hspace]
    cases depth with
    | zero =>
      rw [readValue, readScalar, hskip]
      rwa [readScalar, skipSpaces_cons hspace] at hscalar
    | succ depth =>
      rw [readValue]
      dsimp only
      rw [hskip]
      dsimp only
      rw [if_neg (by rintro rfl; exact hfirst (by decide)),
        if_neg (by rintro rfl; exact hfirst (by decide))]
      exact hscalar

/-- Items are read when each of them is. -/
theorem forall₂_reads {α β : Type} {read : Reader α} {piece : β → List Char} {value : β → α}
    {items : List β} (hitems : ∀ item ∈ items, Reads read (piece item) (value item)) :
    List.Forall₂ (Reads read) (items.map piece) (items.map value) := by
  rw [List.forall₂_map_left_iff, List.forall₂_map_right_iff, List.forall₂_same]
  exact hitems

/-- Spaces before a value are read over. -/
theorem readValue_spaces (depth : ℕ) {spaces : List Char}
    (hspaces : ∀ space ∈ spaces, isSpace space = true) (input : List Char) :
    readValue depth (spaces ++ input) = readValue depth input := by
  cases depth <;> simp only [readValue, readScalar, skipSpaces_of_spaces hspaces]

/-- What is between two brackets is read as a value. -/
theorem reads_bracketed {α : Type} {read : Reader α} {depth : ℕ} {layout : Layout}
    {opening closing : Char} {make : List α → Json}
    (hspace : isSpace opening = false) (hfirst : opening ≠ ']' ∧ opening ≠ '}')
    (hclosing : closing = ']' ∨ closing = '}')
    (hread : ∀ input, readValue depth (opening :: input) =
      readAs make (readLoop closing read true (input.length + 1)) input)
    {pieces : List (List Char)} {values : List α}
    (hpieces : List.Forall₂ (Reads read) pieces values) :
    Reads (readValue depth) (bracketed layout opening closing pieces) (make values) where
  starts := by
    cases pieces with
    | nil => exact ⟨opening, _, rfl, hspace, hfirst⟩
    | cons piece pieces => exact ⟨opening, _, rfl, hspace, hfirst⟩
  reads {spaces rest} hspaces _ := by
    obtain ⟨input, htext, hinput⟩ := @readLoop_bracketed _ _ layout opening _ hclosing _ _ hpieces
      rest
    rw [htext, readValue_spaces depth hspaces, hread]
    exact readAs_eq_some_iff.mpr ⟨values, hinput, rfl⟩

/-- A syntax tree is read from its text. -/
theorem reads_write {depth : ℕ} {value : Json} (hvalue : Written depth value)
    (layout : Layout) : Reads (readValue depth) (write layout value) value := by
  induction hvalue generalizing layout with
  | null depth =>
    exact reads_scalar rfl rfl (by decide) (fun rest _ ↦ rfl) depth
  | bool depth value =>
    cases value with
    | true => exact reads_scalar rfl rfl (by decide) (fun rest _ ↦ rfl) depth
    | false => exact reads_scalar rfl rfl (by decide) (fun rest _ ↦ rfl) depth
  | unsigned depth value =>
    obtain ⟨first, others, hdigits⟩ :=
      List.exists_cons_of_ne_nil (@Nat.toDigits_ne_nil value.toNat 10)
    have hmem : first ∈ Nat.toDigits 10 value.toNat := hdigits ▸ List.mem_cons_self
    have hfirst : first.isDigit = true := Nat.isDigit_of_mem_toDigits (by decide) (by decide) hmem
    have hother : ∀ other : Char, other.isDigit = false → first ≠ other := by
      rintro _ hno rfl
      exact Bool.false_ne_true (hno.symm.trans hfirst)
    have hspace : isSpace first = false := by
      simp [isSpace, hother]
    refine reads_scalar hdigits hspace (by simp [hother]) (fun rest hrest ↦ ?_) depth
    have hnumber := readNumber_toDigits value hrest
    rw [hdigits, List.cons_append] at hnumber ⊢
    rw [readScalar, skipSpaces_cons hspace]
    dsimp only
    rwa [if_neg (hother _ rfl), if_neg (hother _ rfl), if_neg (hother _ rfl),
      if_neg (hother _ rfl)]
  | string depth text =>
    refine reads_scalar rfl rfl (by decide) (fun rest _ ↦ ?_) depth
    rw [List.cons_append, readScalar, skipSpaces_cons rfl]
    dsimp only
    rw [if_pos rfl, List.append_assoc, List.singleton_append]
    exact readAs_eq_some_iff.mpr ⟨_, readUnits_flatMap _ _, by rw [stringOf_map, Option.getD_some]⟩
  | @array depth items hitems ih =>
    have hpieces := forall₂_reads fun item hitem ↦ ih item hitem layout.inner
    rw [List.map_id'] at hpieces
    rw [write, writeItems_eq_map]
    exact reads_bracketed rfl (by decide) (.inl rfl) (fun input ↦ rfl) hpieces
  | @object depth members hnames hvalues ih =>
    have hpieces := forall₂_reads fun member hmember ↦
      reads_member (ih member hmember layout.inner) layout.inner (member.1.getD "")
    have hmembers : members.map (fun member ↦ (some (member.1.getD ""), member.2)) = members := by
      refine (List.map_congr_left fun member hmember ↦ ?_).trans (List.map_id' members)
      obtain ⟨name, hname⟩ := Option.isSome_iff_exists.mp (hnames member hmember)
      exact Prod.ext (by rw [hname, Option.getD_some]) rfl
    rw [hmembers] at hpieces
    rw [write, writeMembers_eq_map]
    exact reads_bracketed rfl (by decide) (.inr rfl) (fun input ↦ rfl) hpieces

theorem mem_of_isSpace {space : Char} (hspace : isSpace space = true) :
    space ∈ [' ', '\n', '\t', '\r'] := by
  rwa [isSpace, List.contains_iff_mem] at hspace

/-- A value is read from its text, with spaces behind it or not. -/
theorem readValue_write {value : Json} (hvalue : Written 127 value) (layout : Layout)
    {spaces : List Char} (hspaces : ∀ space ∈ spaces, isSpace space = true) :
    readValue 127 (write layout value ++ spaces) = some (value, spaces) := by
  have hfollows : Follows spaces := by
    have hall : ∀ space ∈ [' ', '\n', '\t', '\r'], space.isDigit = false ∧ space ≠ '.' ∧
        space ≠ 'e' ∧ space ≠ 'E' := by
      simp
    intro space hspace
    exact hall space (mem_of_isSpace (hspaces space (List.mem_of_mem_head? hspace)))
  exact @Reads.reads _ _ _ _ (reads_write hvalue layout) [] _ (by rintro _ ⟨⟩) hfollows

/-- A text that is written is read back, with spaces behind it or not. -/
theorem fromStr_write {value : Json} (hvalue : Written 127 value) (layout : Layout)
    {spaces : List Char} (hspaces : ∀ space ∈ spaces, isSpace space = true) :
    fromStr (String.ofList (write layout value ++ spaces)) = some value := by
  have hskip := skipSpaces_of_spaces hspaces []
  rw [List.append_nil] at hskip
  rw [fromStr, String.toList_ofList, readValue_write hvalue layout hspaces, Option.bind_some]
  exact if_pos hskip

theorem fromStr_toText {value : Json} (hvalue : Written 127 value) :
    fromStr (toText value) = some value := by
  have hread := @fromStr_write _ hvalue .compact [] (by rintro _ ⟨⟩)
  rwa [List.append_nil] at hread

theorem fromStr_toTextPretty {value : Json} (hvalue : Written 127 value) :
    fromStr (toTextPretty value) = some value := by
  have hread := @fromStr_write _ hvalue (.pretty 0) [] (by rintro _ ⟨⟩)
  rwa [List.append_nil] at hread

/-- An array or an object is written between brackets. -/
theorem write_eq_bracket {value : Json}
    (hbranch : (∃ items, value = .array items) ∨ ∃ members, value = .object members)
    (layout : Layout) :
    ∃ bracket text, write layout value = bracket :: text ∧ (bracket = '[' ∨ bracket = '{') := by
  have hbracketed : ∀ opening closing pieces, ∃ text,
      bracketed layout opening closing pieces = opening :: text := by
    intro opening closing pieces
    cases pieces with
    | nil => exact ⟨_, rfl⟩
    | cons piece pieces => exact ⟨_, rfl⟩
  rcases hbranch with ⟨items, rfl⟩ | ⟨members, rfl⟩
  · obtain ⟨text, htext⟩ := hbracketed '[' ']' (writeItems layout.inner items)
    exact ⟨'[', text, by rw [write, htext], .inl rfl⟩
  · obtain ⟨text, htext⟩ := hbracketed '{' '}' (writeMembers layout.inner members)
    exact ⟨'{', text, by rw [write, htext], .inr rfl⟩

/-- No part of the text of an array or an object is read that stops before its end. -/
theorem fromStr_front {value : Json} (hvalue : Written 127 value)
    (hbranch : (∃ items, value = .array items) ∨ ∃ members, value = .object members)
    (layout : Layout) {front : List Char} (hbegin : front <+: write layout value)
    (hne : front ≠ write layout value) : fromStr (String.ofList front) = none := by
  have hread := @readValue_write _ hvalue layout [] (by rintro _ ⟨⟩)
  obtain ⟨bracket, text, htext, hbracket⟩ := write_eq_bracket hbranch layout
  rw [List.append_nil] at hread
  rw [htext] at hread hbegin hne
  exact fromStr_eq_none_of_prefix hbracket hread hbegin hne

/-! ### Characters -/

/-- No character of a string is written as a zero. -/
theorem ne_zero_of_mem_escapeChar {character written : Char}
    (hwritten : written ∈ escapeChar character) : written ≠ '\x00' := by
  rintro rfl
  unfold escapeChar at hwritten
  split_ifs at hwritten with _ _ _ _ _ _ _ hcontrol
  · exact absurd hwritten (by decide)
  · exact absurd hwritten (by decide)
  · exact absurd hwritten (by decide)
  · exact absurd hwritten (by decide)
  · exact absurd hwritten (by decide)
  · exact absurd hwritten (by decide)
  · exact absurd hwritten (by decide)
  · have hall : ∀ value < 0x20, '\x00' ∉ ['\\', 'u', '0', '0', Nat.digitChar (value / 16),
        Nat.digitChar (value % 16)] := by
      decide
    exact hall character.toNat hcontrol hwritten
  · rw [List.mem_singleton] at hwritten
    exact hcontrol (hwritten ▸ by decide)

theorem ne_zero_of_mem_quote {text : String} {written : Char} (hwritten : written ∈ quote text) :
    written ≠ '\x00' := by
  rw [quote, List.mem_cons, List.mem_append, List.mem_singleton, List.mem_flatMap] at hwritten
  rcases hwritten with rfl | ⟨character, -, hwritten⟩ | rfl
  · decide
  · exact ne_zero_of_mem_escapeChar hwritten
  · decide

/-- A character between two brackets belongs to a piece or to the layout. -/
theorem mem_of_mem_bracketed {layout : Layout} {opening closing written : Char}
    {pieces : List (List Char)} (hwritten : written ∈ bracketed layout opening closing pieces) :
    written ∈ [opening, closing, ',', '\n', ' '] ∨ ∃ piece ∈ pieces, written ∈ piece := by
  have hbreak : ∀ layout : Layout, written ∈ layout.lineBreak →
      written ∈ [opening, closing, ',', '\n', ' '] := by
    intro layout hbreak
    cases layout with
    | compact => cases hbreak
    | pretty level =>
      rcases List.mem_cons.mp hbreak with rfl | hspace
      · simp
      · simp [(List.mem_replicate.mp hspace).2]
  cases pieces with
  | nil =>
    rw [bracketed] at hwritten
    exact .inl (List.mem_append_left [',', '\n', ' '] hwritten)
  | cons piece pieces =>
    simp only [bracketed, List.mem_cons, List.mem_append, List.mem_flatMap, List.not_mem_nil,
      or_false] at hwritten
    rcases hwritten with hopening |
      ((hinner | hpiece) | ⟨other, hother, hcomma | hinner | hpiece⟩) | houter | hclosing
    · simp [hopening]
    · exact .inl (hbreak _ hinner)
    · exact .inr ⟨piece, .head _, hpiece⟩
    · simp [hcomma]
    · exact .inl (hbreak _ hinner)
    · exact .inr ⟨other, .tail _ hother, hpiece⟩
    · exact .inl (hbreak _ houter)
    · simp [hclosing]

/-- No zero is written. -/
theorem ne_zero_of_mem_write {depth : ℕ} {value : Json} (hvalue : Written depth value)
    {layout : Layout} {written : Char} (hwritten : written ∈ write layout value) :
    written ≠ '\x00' := by
  have hlayout : ∀ opening ∈ ['[', '{'], ∀ closing ∈ [']', '}'], ∀ written ∈
      [opening, closing, ',', '\n', ' '], written ≠ '\x00' := by
    simp
  induction hvalue generalizing layout with
  | null depth =>
    have hall : ∀ written ∈ ['n', 'u', 'l', 'l'], written ≠ '\x00' := by simp
    exact hall written hwritten
  | bool depth value =>
    have hall : ∀ written ∈ ['t', 'r', 'u', 'e'] ++ ['f', 'a', 'l', 's', 'e'],
        written ≠ '\x00' := by
      simp
    refine hall written ?_
    cases value
    · exact List.mem_append_right _ hwritten
    · exact List.mem_append_left _ hwritten
  | unsigned depth value =>
    rintro rfl
    have hdigit := Nat.isDigit_of_mem_toDigits (by decide) (by decide) hwritten
    exact absurd hdigit (by decide)
  | string depth text => exact ne_zero_of_mem_quote hwritten
  | @array depth items hitems ih =>
    rw [write, writeItems_eq_map] at hwritten
    rcases mem_of_mem_bracketed hwritten with hmem | ⟨piece, hpiece, hmem⟩
    · exact hlayout '[' (by decide) ']' (by decide) written hmem
    · obtain ⟨item, hitem, rfl⟩ := List.mem_map.mp hpiece
      exact ih item hitem hmem
  | @object depth members hnames hvalues ih =>
    rw [write, writeMembers_eq_map] at hwritten
    rcases mem_of_mem_bracketed hwritten with hmem | ⟨piece, hpiece, hmem⟩
    · exact hlayout '{' (by decide) '}' (by decide) written hmem
    · obtain ⟨member, hmember, rfl⟩ := List.mem_map.mp hpiece
      rcases List.mem_append.mp hmem with hname | hrest
      · exact ne_zero_of_mem_quote hname
      rcases List.mem_cons.mp hrest with rfl | hrest
      · decide
      rcases List.mem_append.mp hrest with hcolon | hvalue
      · cases hlayout : layout.inner with
        | compact =>
          rw [hlayout] at hcolon
          cases hcolon
        | pretty level =>
          rw [hlayout] at hcolon
          rw [List.mem_singleton.mp hcolon]
          decide
      · exact ih member hmember hvalue

section Bytes

open Wire.Bincode

/-- A front of the bytes of spaces is the bytes of a front of the spaces. -/
theorem take_utf8_spaces {spaces : List Char} (hspaces : ∀ space ∈ spaces, isSpace space = true)
    (count : ℕ) :
    (utf8 (String.ofList spaces)).take count = utf8 (String.ofList (spaces.take count)) := by
  have hsize : ∀ space ∈ spaces, space.utf8Size = 1 := by
    have hall : ∀ space ∈ [' ', '\n', '\t', '\r'], space.utf8Size = 1 := by simp [Char.utf8Size]
    exact fun space hspace ↦ hall space (mem_of_isSpace (hspaces space hspace))
  rw [utf8_of_utf8Size_eq_one hsize, ← List.map_take, utf8_of_utf8Size_eq_one fun space hspace ↦
    hsize space (List.mem_of_mem_take hspace)]

/-- What is read from a front of the bytes of an array or an object, with spaces behind it or not:
nothing when the front stops before the closing bracket, and the value otherwise. -/
theorem fromStr_of_bytes {value : Json} (hvalue : Written 127 value)
    (hbranch : (∃ items, value = .array items) ∨ ∃ members, value = .object members)
    (layout : Layout) {spaces : List Char} (hspaces : ∀ space ∈ spaces, isSpace space = true)
    {front : List UInt8}
    (hbegin : front <+: utf8 (String.ofList (write layout value ++ spaces))) :
    (fromUtf8 front).bind fromStr =
      if (utf8 (String.ofList (write layout value))).length ≤ front.length then some value
      else none := by
  rw [String.ofList_append, utf8_append] at hbegin
  split_ifs with hlength
  · -- The front is the whole text and some of the spaces.
    obtain ⟨bytes, rfl⟩ := List.prefix_of_prefix_length_le (List.prefix_append _ _) hbegin hlength
    have hbytes := List.prefix_iff_eq_take.mp ((List.prefix_append_right_inj _).mp hbegin)
    rw [hbytes, take_utf8_spaces hspaces, ← utf8_append, ← String.ofList_append, fromUtf8_utf8,
      Option.bind_some]
    exact fromStr_write hvalue layout fun space hspace ↦ hspaces space (List.mem_of_mem_take hspace)
  · cases hfront : fromUtf8 front with
    | none => rfl
    | some text =>
      obtain rfl := fromUtf8_eq_some_iff.mp hfront
      have hshort : utf8 text <+: utf8 (String.ofList (write layout value)) :=
        List.prefix_of_prefix_length_le hbegin (List.prefix_append _ _)
          (Nat.le_of_lt (Nat.not_le.mp hlength))
      obtain ⟨bytes, hbytes⟩ := hshort
      obtain ⟨back, hback⟩ := exists_eq_append_of_utf8 hbytes
      have htext : write layout value = text.toList ++ back.toList := by
        rw [← String.toList_ofList (l := write layout value), hback, String.toList_append]
      rw [Option.bind_some, ← String.ofList_toList (s := text)]
      refine fromStr_front hvalue hbranch layout ⟨_, htext.symm⟩ fun hsame ↦ hlength ?_
      rw [← hsame, String.ofList_toList]

end Bytes

end SerdeJson
