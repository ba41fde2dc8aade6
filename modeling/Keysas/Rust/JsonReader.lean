import Mathlib.Data.List.DropRight
import Keysas.Rust.Numbers
import Keysas.Rust.SerdeJson

/-!
# Reading JSON texts

`fromStr` is the reader of serde_json: it makes the syntax tree of a text, in which objects and
arrays are at most 127 deep.

A reader takes a value from the front of a text. It is open-ended when it reads the same value when
more follows, provided that something has been left: a number may go on, and nothing else. A reader
is delimited when it reads the same value whatever follows. `delimited_readLoop` is the rule for the
items between two brackets, and `fromStr_eq_none_of_prefix` says that a part of the text of an array
or an object is not read.
-/

set_option autoImplicit false
set_option relaxedAutoImplicit false

namespace SerdeJson

open RustStd

/-! ### Readers -/

/-- What is read from the front of a text, with what is left of the text. -/
abbrev Reader (α : Type) := List Char → Option (α × List Char)

variable {α β : Type}

/-- What is left is a back of the text, and is read over when something has been left. -/
structure OpenEnded (read : Reader α) : Prop where
  suffix : ∀ {input value rest}, read input = some (value, rest) → rest <:+ input
  append : ∀ {input value rest}, read input = some (value, rest) → rest ≠ [] →
    ∀ more, read (input ++ more) = some (value, rest ++ more)

/-- What is left is a back of the text, and the same is read when more follows. -/
structure Delimited (read : Reader α) : Prop where
  suffix : ∀ {input value rest}, read input = some (value, rest) → rest <:+ input
  append : ∀ {input value rest}, read input = some (value, rest) →
    ∀ more, read (input ++ more) = some (value, rest ++ more)

theorem Delimited.openEnded {read : Reader α} (hread : Delimited read) : OpenEnded read :=
  ⟨hread.suffix, fun hfound _ ↦ hread.append hfound⟩

/-- A text is not empty when something is left of it. -/
theorem ne_nil_of_suffix {input rest : List Char} (hsuffix : rest <:+ input) (hrest : rest ≠ []) :
    input ≠ [] := by
  rintro rfl
  exact hrest (List.suffix_nil.mp hsuffix)

/-- A value that is read is converted. -/
def readAs (change : α → β) (read : Reader α) : Reader β :=
  fun input ↦ (read input).map fun found ↦ (change found.1, found.2)

theorem readAs_eq_some_iff {change : α → β} {read : Reader α} {input rest : List Char}
    {value : β} :
    readAs change read input = some (value, rest) ↔
      ∃ found, read input = some (found, rest) ∧ change found = value := by
  simp only [readAs, Option.map_eq_some_iff, Prod.mk.injEq, Prod.exists]
  constructor
  · rintro ⟨found, _, hread, hchange, rfl⟩
    exact ⟨found, hread, hchange⟩
  · rintro ⟨found, hread, hchange⟩
    exact ⟨found, rest, hread, hchange, rfl⟩

theorem Delimited.readAs {read : Reader α} (hread : Delimited read) (change : α → β) :
    Delimited (readAs change read) where
  suffix hfound := by
    obtain ⟨_, hfound, -⟩ := readAs_eq_some_iff.mp hfound
    exact hread.suffix hfound
  append hfound more := by
    obtain ⟨_, hfound, hchange⟩ := readAs_eq_some_iff.mp hfound
    exact readAs_eq_some_iff.mpr ⟨_, hread.append hfound more, hchange⟩

/-! ### Spaces -/

/-- The characters between the parts of a text. -/
def isSpace (character : Char) : Bool :=
  [' ', '\n', '\t', '\r'].contains character

/-- `parse_whitespace`. -/
def skipSpaces (input : List Char) : List Char :=
  input.dropWhile isSpace

theorem skipSpaces_suffix (input : List Char) : skipSpaces input <:+ input :=
  List.dropWhile_suffix isSpace

/-- Spaces are skipped in the same way when more follows, when something stands behind them. -/
theorem skipSpaces_append {input : List Char} (hrest : skipSpaces input ≠ [])
    (more : List Char) : skipSpaces (input ++ more) = skipSpaces input ++ more := by
  rw [skipSpaces, List.dropWhile_append, if_neg]
  · rfl
  · rwa [List.isEmpty_iff]

/-- Nothing is skipped before another character. -/
theorem skipSpaces_cons {character : Char} (hcharacter : isSpace character = false)
    (rest : List Char) : skipSpaces (character :: rest) = character :: rest := by
  rw [skipSpaces, List.dropWhile_cons, hcharacter]
  rfl

theorem skipSpaces_of_spaces {spaces : List Char} (hspaces : ∀ space ∈ spaces, isSpace space)
    (rest : List Char) : skipSpaces (spaces ++ rest) = skipSpaces rest :=
  List.dropWhile_append_of_pos hspaces

/-! ### Strings -/

/-- A part of a string between its quotes. -/
inductive StringUnit where
  | character (character : Char)
  /-- The number of a `\u` escape. -/
  | code (value : ℕ)
  deriving DecidableEq

/-- The value of a hexadecimal digit. -/
def hexDigit (character : Char) : Option ℕ :=
  if '0' ≤ character ∧ character ≤ '9' then some (character.toNat - 48)
  else if 'a' ≤ character ∧ character ≤ 'f' then some (character.toNat - 87)
  else if 'A' ≤ character ∧ character ≤ 'F' then some (character.toNat - 55)
  else none

/-- `decode_hex_escape`. -/
def hexCode (first second third fourth : Char) : Option ℕ := do
  let first ← hexDigit first
  let second ← hexDigit second
  let third ← hexDigit third
  let fourth ← hexDigit fourth
  return ((first * 16 + second) * 16 + third) * 16 + fourth

/-- The character of an escape with one letter. -/
def shortEscape : Char → Option Char
  | '"' => some '"'
  | '\\' => some '\\'
  | '/' => some '/'
  | 'b' => some '\x08'
  | 'f' => some '\x0c'
  | 'n' => some '\n'
  | 'r' => some '\r'
  | 't' => some '\t'
  | _ => none

/-- A unit before those that are read behind it. -/
def before (unit : StringUnit) (found : List StringUnit × List Char) :
    List StringUnit × List Char :=
  (unit :: found.1, found.2)

/-- The parts of a string up to its closing quote, which is read over. -/
def readUnits : Reader (List StringUnit)
  | [] => none
  | character :: rest =>
    if character = '"' then some ([], rest)
    else if character = '\\' then
      match rest with
      | 'u' :: first :: second :: third :: fourth :: rest =>
        (hexCode first second third fourth).bind fun value ↦
          (readUnits rest).map (before (.code value))
      | escaped :: rest =>
        (shortEscape escaped).bind fun meant ↦ (readUnits rest).map (before (.character meant))
      | [] => none
    else if character.toNat < 0x20 then none
    else (readUnits rest).map (before (.character character))

/-- The numbers of the first halves of pairs. -/
def isLeading (value : ℕ) : Bool :=
  0xD800 ≤ value && value ≤ 0xDBFF

/-- The numbers of the second halves of pairs. -/
def isTrailing (value : ℕ) : Bool :=
  0xDC00 ≤ value && value ≤ 0xDFFF

/-- The characters of a string, unless an escape is no character. -/
def decodeUnits : List StringUnit → Option (List Char)
  | [] => some []
  | .character character :: rest => (decodeUnits rest).map (character :: ·)
  | .code value :: rest =>
    if isLeading value then
      match rest with
      | .code low :: rest =>
        if isTrailing low then
          (decodeUnits rest).map
            (Char.ofNat (0x10000 + (value - 0xD800) * 0x400 + (low - 0xDC00)) :: ·)
        else none
      | _ => none
    else if isTrailing value then none
    else (decodeUnits rest).map (Char.ofNat value :: ·)

/-- The text of a string. -/
def stringOf (units : List StringUnit) : Option String :=
  (decodeUnits units).map String.ofList

theorem readUnits_quote (rest : List Char) : readUnits ('"' :: rest) = some ([], rest) := by
  rw [readUnits.eq_def]
  exact if_pos rfl

theorem readUnits_unicode (first second third fourth : Char) (rest : List Char) :
    readUnits ('\\' :: 'u' :: first :: second :: third :: fourth :: rest) =
      (hexCode first second third fourth).bind fun value ↦
        (readUnits rest).map (before (.code value)) := by
  rw [readUnits.eq_def]
  dsimp only
  rw [if_neg (by decide), if_pos rfl]
  rfl

theorem readUnits_escape {escaped meant : Char} (hmeant : shortEscape escaped = some meant)
    (rest : List Char) :
    readUnits ('\\' :: escaped :: rest) = (readUnits rest).map (before (.character meant)) := by
  rw [readUnits, if_neg (by decide), if_pos rfl, hmeant, Option.bind_some]
  -- The letter of a numeric escape is no escape of its own.
  rintro _ _ _ _ _ rfl
  cases hmeant

theorem readUnits_character {character : Char} (hquote : character ≠ '"')
    (hbackslash : character ≠ '\\') (hcontrol : ¬ character.toNat < 0x20) (rest : List Char) :
    readUnits (character :: rest) = (readUnits rest).map (before (.character character)) := by
  rw [readUnits.eq_def]
  dsimp only
  rw [if_neg hquote, if_neg hbackslash, if_neg hcontrol]

theorem map_before_eq_some_iff {unit : StringUnit} {found : Option (List StringUnit × List Char)}
    {units : List StringUnit} {rest : List Char} :
    found.map (before unit) = some (units, rest) ↔
      ∃ others, found = some (others, rest) ∧ units = unit :: others := by
  simp only [before, Option.map_eq_some_iff, Prod.mk.injEq, Prod.exists]
  constructor
  · rintro ⟨others, _, hfound, hunits, rfl⟩
    exact ⟨others, hfound, hunits.symm⟩
  · rintro ⟨others, hfound, hunits⟩
    exact ⟨others, rest, hfound, hunits.symm, rfl⟩

/-- A string ends at its closing quote, whatever follows. -/
theorem delimited_readUnits : Delimited readUnits := by
  have hboth : ∀ input value rest, readUnits input = some (value, rest) →
      rest <:+ input ∧ ∀ more, readUnits (input ++ more) = some (value, rest ++ more) := by
    intro input
    fun_induction readUnits input with
    | case1 => rintro _ _ ⟨⟩
    | case2 rest =>
      rintro _ _ ⟨⟩
      exact ⟨List.suffix_cons _ _, fun more ↦ readUnits_quote (rest ++ more)⟩
    | case3 first second third fourth tail hquote ih =>
      intro units rest hread
      obtain ⟨value, hvalue, hread⟩ := Option.bind_eq_some_iff.mp hread
      obtain ⟨others, htail, rfl⟩ := map_before_eq_some_iff.mp hread
      obtain ⟨hsuffix, happend⟩ := ih others rest htail
      refine ⟨hsuffix.trans (List.suffix_append [_, _, _, _, _, _] tail), fun more ↦ ?_⟩
      show readUnits (_ :: _ :: _ :: _ :: _ :: _ :: (tail ++ more)) = _
      rw [readUnits_unicode, hvalue, Option.bind_some, happend more]
      rfl
    | case4 escaped tail hquote hother ih =>
      intro units rest hread
      obtain ⟨meant, hmeant, hread⟩ := Option.bind_eq_some_iff.mp hread
      obtain ⟨others, htail, rfl⟩ := map_before_eq_some_iff.mp hread
      obtain ⟨hsuffix, happend⟩ := ih others rest htail
      refine ⟨hsuffix.trans (List.suffix_append [_, _] tail), fun more ↦ ?_⟩
      show readUnits (_ :: _ :: (tail ++ more)) = _
      rw [readUnits_escape hmeant, happend more]
      rfl
    | case5 => rintro _ _ ⟨⟩
    | case6 => rintro _ _ ⟨⟩
    | case7 character tail hquote hbackslash hcontrol ih =>
      intro units rest hread
      obtain ⟨others, htail, rfl⟩ := map_before_eq_some_iff.mp hread
      obtain ⟨hsuffix, happend⟩ := ih others rest htail
      refine ⟨hsuffix.trans (List.suffix_cons _ tail), fun more ↦ ?_⟩
      show readUnits (_ :: (tail ++ more)) = _
      rw [readUnits_character hquote hbackslash hcontrol, happend more]
      rfl
  exact ⟨fun hfound ↦ (hboth _ _ _ hfound).1, fun hfound ↦ (hboth _ _ _ hfound).2⟩

/-! ### Numbers -/

/-- At least one decimal digit. -/
def readDigits : Reader (List Char) := fun input ↦
  if input.takeWhile Char.isDigit = [] then none
  else some (input.takeWhile Char.isDigit, input.dropWhile Char.isDigit)

/-- A point and the digits behind it, when there is a point. -/
def readFraction : Reader Bool
  | '.' :: rest => (readDigits rest).map fun found ↦ (true, found.2)
  | input => some (false, input)

/-- A sign, when there is one. -/
def skipSign : List Char → List Char
  | '+' :: rest => rest
  | '-' :: rest => rest
  | input => input

/-- An exponent, when there is one. -/
def readExponent : Reader Bool
  | [] => some (false, [])
  | character :: rest =>
    if character = 'e' ∨ character = 'E' then
      (readDigits (skipSign rest)).map fun found ↦ (true, found.2)
    else some (false, character :: rest)

/-- A number that is not negative and fits 64 bits, and any other number. The range of a number with
a point or an exponent is not looked at. -/
def numberOf (negative real : Bool) (digits : List Char) : Json :=
  if negative || real then .otherNumber
  else
    match digitsValue digits with
    | some value => if value < 2 ^ 64 then .unsigned (UInt64.ofNat value) else .otherNumber
    | none => .otherNumber

/-- The digits of a number that begins with a zero and goes on. -/
def leadingZero : List Char → Bool
  | '0' :: _ :: _ => true
  | _ => false

/-- The minus sign of a number, and what is behind it. -/
def readSign : List Char → Bool × List Char
  | '-' :: rest => (true, rest)
  | input => (false, input)

/-- A number behind its sign. -/
def readUnsigned (negative : Bool) : Reader Json := fun input ↦ do
  let digits ← readDigits input
  if leadingZero digits.1 then none
  else
    let fraction ← readFraction digits.2
    let exponent ← readExponent fraction.2
    some (numberOf negative (fraction.1 || exponent.1) digits.1, exponent.2)

/-- `parse_integer`, behind a minus sign when there is one. -/
def readNumber : Reader Json := fun input ↦
  readUnsigned (readSign input).1 (readSign input).2

theorem openEnded_readDigits : OpenEnded readDigits where
  suffix hfound := by
    rw [readDigits] at hfound
    split_ifs at hfound
    obtain ⟨rfl, rfl⟩ := Prod.mk.inj (Option.some.inj hfound)
    exact List.dropWhile_suffix _
  append {input value rest} hfound hrest more := by
    rw [readDigits] at hfound ⊢
    split_ifs at hfound with hdigits
    obtain ⟨rfl, rfl⟩ := Prod.mk.inj (Option.some.inj hfound)
    have hdrop : (input ++ more).dropWhile Char.isDigit =
        input.dropWhile Char.isDigit ++ more := by
      rw [List.dropWhile_append, if_neg (by rwa [List.isEmpty_iff])]
    have htake : (input ++ more).takeWhile Char.isDigit = input.takeWhile Char.isDigit := by
      refine @List.append_cancel_right _ _ (input.dropWhile Char.isDigit ++ more) _ ?_
      rw [← hdrop, List.takeWhile_append_dropWhile, hdrop, ← List.append_assoc,
        List.takeWhile_append_dropWhile]
    rw [htake, hdrop, if_neg hdigits]

theorem openEnded_readFraction : OpenEnded readFraction := by
  have hboth : ∀ input value rest, readFraction input = some (value, rest) →
      rest <:+ input ∧ (rest ≠ [] → ∀ more,
        readFraction (input ++ more) = some (value, rest ++ more)) := by
    intro input value rest hread
    unfold readFraction at hread
    split at hread
    · next tail =>
      obtain ⟨⟨digits, left⟩, hdigits, hpair⟩ := Option.map_eq_some_iff.mp hread
      obtain ⟨rfl, rfl⟩ := Prod.mk.inj hpair
      refine ⟨(openEnded_readDigits.suffix hdigits).trans (List.suffix_cons _ _),
        fun hrest more ↦ ?_⟩
      show (readDigits (tail ++ more)).map _ = _
      rw [openEnded_readDigits.append hdigits hrest more]
      rfl
    · next hpoint =>
      obtain ⟨rfl, rfl⟩ := Prod.mk.inj (Option.some.inj hread)
      refine ⟨List.suffix_rfl, fun hrest more ↦ ?_⟩
      obtain ⟨character, tail, rfl⟩ := List.exists_cons_of_ne_nil hrest
      have hcharacter : character ≠ '.' := fun hsame ↦ hpoint tail (by rw [hsame])
      rw [List.cons_append]
      unfold readFraction
      split
      · next heq => exact absurd (List.cons.inj heq).1 hcharacter
      · rfl
  exact ⟨fun hfound ↦ (hboth _ _ _ hfound).1, fun hfound ↦ (hboth _ _ _ hfound).2⟩

theorem skipSign_suffix (input : List Char) : skipSign input <:+ input := by
  unfold skipSign
  split
  · exact List.suffix_cons _ _
  · exact List.suffix_cons _ _
  · exact List.suffix_rfl

theorem skipSign_append {input : List Char} (hinput : skipSign input ≠ []) (more : List Char) :
    skipSign (input ++ more) = skipSign input ++ more := by
  rcases input with _ | ⟨character, rest⟩
  · exact absurd rfl hinput
  · rw [List.cons_append]
    by_cases hplus : character = '+'
    · subst hplus
      rfl
    · by_cases hminus : character = '-'
      · subst hminus
        rfl
      · have hself : ∀ tail, skipSign (character :: tail) = character :: tail := by
          intro tail
          unfold skipSign
          split
          · next heq => exact absurd (List.cons.inj heq).1 hplus
          · next heq => exact absurd (List.cons.inj heq).1 hminus
          · rfl
        rw [hself, hself, List.cons_append]

theorem openEnded_readExponent : OpenEnded readExponent := by
  have hboth : ∀ input value rest, readExponent input = some (value, rest) →
      rest <:+ input ∧ (rest ≠ [] → ∀ more,
        readExponent (input ++ more) = some (value, rest ++ more)) := by
    intro input value rest hread
    rcases input with _ | ⟨character, tail⟩
    · obtain ⟨rfl, rfl⟩ := Prod.mk.inj (Option.some.inj hread)
      exact ⟨List.suffix_rfl, fun hrest ↦ absurd rfl hrest⟩
    rw [readExponent] at hread
    split_ifs at hread with hexponent
    · obtain ⟨⟨digits, left⟩, hdigits, hpair⟩ := Option.map_eq_some_iff.mp hread
      obtain ⟨rfl, rfl⟩ := Prod.mk.inj hpair
      have hsuffix := openEnded_readDigits.suffix hdigits
      refine ⟨(hsuffix.trans (skipSign_suffix tail)).trans (List.suffix_cons _ _),
        fun hrest more ↦ ?_⟩
      rw [List.cons_append, readExponent, if_pos hexponent,
        skipSign_append (ne_nil_of_suffix hsuffix hrest),
        openEnded_readDigits.append hdigits hrest more]
      rfl
    · obtain ⟨rfl, rfl⟩ := Prod.mk.inj (Option.some.inj hread)
      refine ⟨List.suffix_rfl, fun _ more ↦ ?_⟩
      rw [List.cons_append, readExponent, if_neg hexponent]
  exact ⟨fun hfound ↦ (hboth _ _ _ hfound).1, fun hfound ↦ (hboth _ _ _ hfound).2⟩

theorem openEnded_readUnsigned (negative : Bool) : OpenEnded (readUnsigned negative) := by
  have hboth : ∀ input value rest, readUnsigned negative input = some (value, rest) →
      rest <:+ input ∧ (rest ≠ [] → ∀ more,
        readUnsigned negative (input ++ more) = some (value, rest ++ more)) := by
    intro input value rest hread
    obtain ⟨⟨digits, behind⟩, hdigits, hread⟩ := Option.bind_eq_some_iff.mp hread
    dsimp only at hread
    split_ifs at hread with hzero
    obtain ⟨⟨fraction, left⟩, hfraction, hread⟩ := Option.bind_eq_some_iff.mp hread
    obtain ⟨⟨exponent, last⟩, hexponent, hread⟩ := Option.bind_eq_some_iff.mp hread
    obtain ⟨rfl, rfl⟩ := Prod.mk.inj (Option.some.inj hread)
    have hlast := openEnded_readExponent.suffix hexponent
    have hleft := openEnded_readFraction.suffix hfraction
    refine ⟨(hlast.trans hleft).trans (openEnded_readDigits.suffix hdigits), fun hrest more ↦ ?_⟩
    have hleftNe := ne_nil_of_suffix hlast hrest
    have hbehindNe := ne_nil_of_suffix hleft hleftNe
    show (readDigits (input ++ more)).bind _ = _
    rw [openEnded_readDigits.append hdigits hbehindNe more, Option.bind_some, if_neg hzero]
    show (readFraction (behind ++ more)).bind _ = _
    rw [openEnded_readFraction.append hfraction hleftNe more, Option.bind_some]
    show (readExponent (left ++ more)).bind _ = _
    rw [openEnded_readExponent.append hexponent hrest more, Option.bind_some]
  exact ⟨fun hfound ↦ (hboth _ _ _ hfound).1, fun hfound ↦ (hboth _ _ _ hfound).2⟩

theorem openEnded_readNumber : OpenEnded readNumber := by
  have hsign : ∀ input more, input ≠ [] →
      readSign (input ++ more) = ((readSign input).1, (readSign input).2 ++ more) := by
    intro input more hinput
    obtain ⟨character, tail, rfl⟩ := List.exists_cons_of_ne_nil hinput
    rw [List.cons_append]
    by_cases hminus : character = '-'
    · subst hminus
      rfl
    · have hself : ∀ tail, readSign (character :: tail) = (false, character :: tail) := by
        intro tail
        unfold readSign
        split
        · next heq => exact absurd (List.cons.inj heq).1 hminus
        · rfl
      rw [hself, hself, List.cons_append]
  have hsuffix : ∀ input, (readSign input).2 <:+ input := by
    intro input
    unfold readSign
    split
    · exact List.suffix_cons _ _
    · exact List.suffix_rfl
  refine ⟨fun {input value rest} hread ↦ ?_, fun {input value rest} hread hrest more ↦ ?_⟩
  · exact ((openEnded_readUnsigned _).suffix hread).trans (hsuffix input)
  · have hinput := ne_nil_of_suffix
      (((openEnded_readUnsigned _).suffix hread).trans (hsuffix input)) hrest
    rw [readNumber, hsign input more hinput]
    exact (openEnded_readUnsigned _).append hread hrest more

/-! ### Arrays and objects -/

/-- The items up to a closing bracket, which is read over. Commas stand between them. Each item
takes a character at least, so that the fuel can be the length of the text. -/
def readLoop (close : Char) (item : Reader α) (first : Bool) : ℕ → Reader (List α)
  | 0, _ => none
  | fuel + 1, input =>
    match skipSpaces input with
    | [] => none
    | character :: rest =>
      if character = close then some ([], rest)
      else if first then
        (item (character :: rest)).bind fun found ↦
          readAs (found.1 :: ·) (readLoop close item false fuel) found.2
      else if character = ',' then
        (item rest).bind fun found ↦
          readAs (found.1 :: ·) (readLoop close item false fuel) found.2
      else none

/-- The name and the value of a member of an object. -/
def readMember (value : Reader Json) : Reader (Option String × Json) := fun input ↦
  match skipSpaces input with
  | '"' :: rest =>
    (readUnits rest).bind fun key ↦
      match skipSpaces key.2 with
      | ':' :: rest => readAs (fun found ↦ (stringOf key.1, found)) value rest
      | _ => none
  | _ => none

/-- A word of the language. -/
def readWord (word : List Char) (value : Json) : Reader Json := fun input ↦
  if word <+: input then some (value, input.drop word.length) else none

/-- A value that is neither an array nor an object. -/
def readScalar : Reader Json := fun input ↦
  match skipSpaces input with
  | [] => none
  | character :: rest =>
    if character = '"' then readAs (fun units ↦ .string (stringOf units)) readUnits rest
    else if character = 'n' then readWord "ull".toList .null rest
    else if character = 't' then readWord "rue".toList (.bool true) rest
    else if character = 'f' then readWord "alse".toList (.bool false) rest
    else readNumber (character :: rest)

/-- `parse_value`, for a value in which arrays and objects are at most so deep. -/
def readValue : ℕ → Reader Json
  | 0 => readScalar
  | depth + 1 => fun input ↦
    match skipSpaces input with
    | [] => none
    | character :: rest =>
      if character = '[' then
        readAs .array (readLoop ']' (readValue depth) true (rest.length + 1)) rest
      else if character = '{' then
        readAs .object (readLoop '}' (readMember (readValue depth)) true (rest.length + 1)) rest
      else readScalar (character :: rest)

/-- `serde_json::from_str`: nothing but spaces stands behind the value. -/
def fromStr (text : String) : Option Json :=
  (readValue 127 text.toList).bind fun found ↦
    if skipSpaces found.2 = [] then some found.1 else none

/-- Items are read up to their closing bracket, whatever follows, and with whatever more fuel.
Assumes: the reader of the items is open-ended. -/
theorem readLoop_append {close : Char} {item : Reader α} (hitem : OpenEnded item) {first : Bool}
    {fuel : ℕ} {input rest : List Char} {values : List α}
    (hread : readLoop close item first fuel input = some (values, rest)) :
    rest <:+ input ∧ rest ≠ input ∧ ∀ more larger, fuel ≤ larger →
      readLoop close item first larger (input ++ more) = some (values, rest ++ more) := by
  induction fuel generalizing first input values with
  | zero => cases hread
  | succ fuel ih =>
    rw [readLoop] at hread
    have hspaces := skipSpaces_suffix input
    rcases hinput : skipSpaces input with _ | ⟨character, tail⟩
    · rw [hinput] at hread
      cases hread
    rw [hinput] at hread hspaces
    dsimp only at hread
    have hmore : ∀ more, skipSpaces (input ++ more) = character :: (tail ++ more) := by
      intro more
      rw [skipSpaces_append (by rw [hinput]; exact List.cons_ne_nil _ _), hinput, List.cons_append]
    have htail : tail <:+ input := (List.suffix_cons _ tail).trans hspaces
    have hshort : tail.length < input.length :=
      Nat.lt_of_lt_of_le (Nat.lt_succ_self _) hspaces.length_le
    -- An item and the items behind it, once it is known where the item begins.
    have hstep : ∀ start, start <:+ input →
        (item start).bind (fun found ↦
          readAs (found.1 :: ·) (readLoop close item false fuel) found.2) = some (values, rest) →
        rest <:+ input ∧ rest.length < start.length ∧ ∀ more larger, fuel ≤ larger →
          (item (start ++ more)).bind (fun found ↦
            readAs (found.1 :: ·) (readLoop close item false larger) found.2) =
              some (values, rest ++ more) := by
      intro start hstart hfound
      obtain ⟨⟨value, behind⟩, hvalue, hfound⟩ := Option.bind_eq_some_iff.mp hfound
      obtain ⟨others, hothers, rfl⟩ := readAs_eq_some_iff.mp hfound
      obtain ⟨hsuffix, hne, happend⟩ := ih hothers
      have hbehind := hitem.suffix hvalue
      have hbehindNe : behind ≠ [] := by
        rintro rfl
        exact hne (List.suffix_nil.mp hsuffix)
      have hlength : rest.length < behind.length :=
        Nat.lt_of_le_of_ne hsuffix.length_le fun hsame ↦ hne (hsuffix.eq_of_length hsame)
      refine ⟨(hsuffix.trans hbehind).trans hstart, hlength.trans_le hbehind.length_le,
        fun more larger hlarger ↦ ?_⟩
      rw [hitem.append hvalue hbehindNe more, Option.bind_some]
      exact readAs_eq_some_iff.mpr ⟨others, happend more larger hlarger, rfl⟩
    have hless : ∀ {start : List Char}, start <:+ input → rest.length < start.length →
        rest ≠ input := by
      rintro start hstart hlength rfl
      exact absurd hstart.length_le (Nat.not_le.mpr hlength)
    split_ifs at hread with hclose hfirst hcomma
    · obtain ⟨rfl, rfl⟩ := Prod.mk.inj (Option.some.inj hread)
      refine ⟨htail, fun hsame ↦ absurd (congrArg List.length hsame) hshort.ne,
        fun more larger hlarger ↦ ?_⟩
      obtain ⟨larger, rfl⟩ := Nat.exists_eq_add_of_le' (Nat.one_le_of_lt hlarger)
      rw [readLoop, hmore]
      exact if_pos hclose
    · obtain ⟨hsuffix, hlength, happend⟩ := hstep _ hspaces hread
      refine ⟨hsuffix, hless hspaces hlength, fun more larger hlarger ↦ ?_⟩
      obtain ⟨larger, rfl⟩ := Nat.exists_eq_add_of_le' (Nat.one_le_of_lt hlarger)
      rw [readLoop, hmore]
      dsimp only
      rw [if_neg hclose, if_pos hfirst]
      exact happend more larger (Nat.le_of_succ_le_succ hlarger)
    · obtain ⟨hsuffix, hlength, happend⟩ := hstep _ htail hread
      refine ⟨hsuffix, hless htail hlength, fun more larger hlarger ↦ ?_⟩
      obtain ⟨larger, rfl⟩ := Nat.exists_eq_add_of_le' (Nat.one_le_of_lt hlarger)
      rw [readLoop, hmore]
      dsimp only
      rw [if_neg hclose, if_neg hfirst, if_pos hcomma]
      exact happend more larger (Nat.le_of_succ_le_succ hlarger)

/-- An array or an object ends at its closing bracket, whatever follows. Assumes: the reader of the
items is open-ended. -/
theorem delimited_readLoop {close : Char} {item : Reader α} (hitem : OpenEnded item) :
    Delimited fun input ↦ readLoop close item true (input.length + 1) input where
  suffix hread := (readLoop_append hitem hread).1
  append hread more := by
    refine (readLoop_append hitem hread).2.2 more _ ?_
    rw [List.length_append]
    omega

theorem OpenEnded.readAs {read : Reader α} (hread : OpenEnded read) (change : α → β) :
    OpenEnded (readAs change read) where
  suffix hfound := by
    obtain ⟨_, hfound, -⟩ := readAs_eq_some_iff.mp hfound
    exact hread.suffix hfound
  append hfound hrest more := by
    obtain ⟨_, hfound, hchange⟩ := readAs_eq_some_iff.mp hfound
    exact readAs_eq_some_iff.mpr ⟨_, hread.append hfound hrest more, hchange⟩

/-- A member is open-ended like its value. -/
theorem openEnded_readMember {value : Reader Json} (hvalue : OpenEnded value) :
    OpenEnded (readMember value) := by
  have hboth : ∀ input found rest, readMember value input = some (found, rest) →
      rest <:+ input ∧ (rest ≠ [] → ∀ more,
        readMember value (input ++ more) = some (found, rest ++ more)) := by
    intro input found rest hread
    unfold readMember at hread
    have hspaces := skipSpaces_suffix input
    split at hread
    · next tail hquote =>
      obtain ⟨⟨units, behind⟩, hunits, hread⟩ := Option.bind_eq_some_iff.mp hread
      have hunitsSuffix := delimited_readUnits.suffix hunits
      have hbehindSpaces := skipSpaces_suffix behind
      dsimp only at hread
      split at hread
      · next last hcolon =>
        rw [hquote] at hspaces
        rw [hcolon] at hbehindSpaces
        have hlast : last <:+ input := ((List.suffix_cons _ last).trans hbehindSpaces).trans
          (hunitsSuffix.trans ((List.suffix_cons _ tail).trans hspaces))
        refine ⟨((hvalue.readAs _).suffix hread).trans hlast, fun hrest more ↦ ?_⟩
        have hquoteMore : skipSpaces (input ++ more) = '"' :: (tail ++ more) := by
          rw [skipSpaces_append (by rw [hquote]; exact List.cons_ne_nil _ _), hquote,
            List.cons_append]
        have hcolonMore : skipSpaces (behind ++ more) = ':' :: (last ++ more) := by
          rw [skipSpaces_append (by rw [hcolon]; exact List.cons_ne_nil _ _), hcolon,
            List.cons_append]
        unfold readMember
        rw [hquoteMore]
        show (readUnits (tail ++ more)).bind _ = _
        rw [delimited_readUnits.append hunits more, Option.bind_some, hcolonMore]
        exact (hvalue.readAs _).append hread hrest more
      · cases hread
    · cases hread
  exact ⟨fun hfound ↦ (hboth _ _ _ hfound).1, fun hfound ↦ (hboth _ _ _ hfound).2⟩

theorem delimited_readWord (word : List Char) (value : Json) :
    Delimited (readWord word value) where
  suffix hfound := by
    rw [readWord] at hfound
    split_ifs at hfound
    obtain ⟨-, rfl⟩ := Prod.mk.inj (Option.some.inj hfound)
    exact List.drop_suffix _ _
  append {input found rest} hfound more := by
    rw [readWord] at hfound ⊢
    split_ifs at hfound with hword
    obtain ⟨rfl, rfl⟩ := Prod.mk.inj (Option.some.inj hfound)
    rw [if_pos (hword.trans (List.prefix_append _ _)),
      List.drop_append_of_le_length hword.length_le]

/-- A reader that skips spaces and goes on by the first character is open-ended when it is so for
each character. -/
theorem openEnded_of_spaces {read : Reader α} {next : Char → Reader α}
    (hread : ∀ input, read input =
      match skipSpaces input with
      | [] => none
      | character :: rest => next character (character :: rest))
    (hnext : ∀ character, OpenEnded (next character)) : OpenEnded read where
  suffix {input value rest} hfound := by
    rw [hread] at hfound
    have hspaces := skipSpaces_suffix input
    rcases hskipped : skipSpaces input with _ | ⟨character, tail⟩
    · rw [hskipped] at hfound
      cases hfound
    · rw [hskipped] at hfound hspaces
      exact ((hnext character).suffix hfound).trans hspaces
  append {input value rest} hfound hrest more := by
    rw [hread] at hfound ⊢
    rcases hskipped : skipSpaces input with _ | ⟨character, tail⟩
    · rw [hskipped] at hfound
      cases hfound
    · rw [hskipped] at hfound
      rw [skipSpaces_append (by rw [hskipped]; exact List.cons_ne_nil _ _), hskipped]
      exact (hnext character).append hfound hrest more

/-- A reader that leaves out the first character. -/
theorem OpenEnded.behind {read : Reader α} (hread : OpenEnded read) :
    OpenEnded fun input ↦ read input.tail where
  suffix hfound := (hread.suffix hfound).trans (List.tail_suffix _)
  append {input value rest} hfound hrest more := by
    rcases input with _ | ⟨character, tail⟩
    · exact absurd (List.suffix_nil.mp (hread.suffix hfound)) hrest
    · exact hread.append hfound hrest more

theorem openEnded_readScalar : OpenEnded readScalar := by
  refine @openEnded_of_spaces _ _ (fun character input ↦
    if character = '"' then readAs (fun units ↦ .string (stringOf units)) readUnits input.tail
    else if character = 'n' then readWord "ull".toList .null input.tail
    else if character = 't' then readWord "rue".toList (.bool true) input.tail
    else if character = 'f' then readWord "alse".toList (.bool false) input.tail
    else readNumber input) (fun input ↦ rfl) fun character ↦ ?_
  split_ifs
  · exact (delimited_readUnits.readAs _).openEnded.behind
  · exact (delimited_readWord _ _).openEnded.behind
  · exact (delimited_readWord _ _).openEnded.behind
  · exact (delimited_readWord _ _).openEnded.behind
  · exact openEnded_readNumber

/-- Where a value ends that does not end the text is not moved by what follows. -/
theorem openEnded_readValue (depth : ℕ) : OpenEnded (readValue depth) := by
  induction depth with
  | zero => exact openEnded_readScalar
  | succ depth ih =>
    refine @openEnded_of_spaces _ _ (fun character input ↦
      if character = '[' then
        readAs .array (fun rest ↦ readLoop ']' (readValue depth) true (rest.length + 1) rest)
          input.tail
      else if character = '{' then
        readAs .object
          (fun rest ↦ readLoop '}' (readMember (readValue depth)) true (rest.length + 1) rest)
          input.tail
      else readScalar input) (fun input ↦ rfl) fun character ↦ ?_
    split_ifs
    · exact ((delimited_readLoop ih).readAs _).openEnded.behind
    · exact ((delimited_readLoop (openEnded_readMember ih)).readAs _).openEnded.behind
    · exact openEnded_readScalar

/-- An array or an object ends at its closing bracket, whatever follows. -/
theorem readValue_bracket_append {depth : ℕ} {bracket : Char}
    (hbracket : bracket = '[' ∨ bracket = '{') {input rest : List Char} {value : Json}
    (hread : readValue depth (bracket :: input) = some (value, rest)) (more : List Char) :
    readValue depth (bracket :: (input ++ more)) = some (value, rest ++ more) := by
  cases depth with
  | zero => rcases hbracket with rfl | rfl <;> cases hread
  | succ depth =>
    have hitem := openEnded_readValue depth
    rcases hbracket with rfl | rfl
    · exact @Delimited.append _ _ ((delimited_readLoop hitem).readAs Json.array) input value rest
        hread more
    · exact @Delimited.append _ _
        ((delimited_readLoop (openEnded_readMember hitem)).readAs Json.object) input value rest
        hread more

/-- No part of the text of an array or an object is read that stops before its end. -/
theorem fromStr_eq_none_of_prefix {bracket : Char} (hbracket : bracket = '[' ∨ bracket = '{')
    {text : List Char} {value : Json}
    (hread : readValue 127 (bracket :: text) = some (value, [])) {front : List Char}
    (hbegin : front <+: bracket :: text) (hne : front ≠ bracket :: text) :
    fromStr (String.ofList front) = none := by
  by_contra hsome
  obtain ⟨other, hother⟩ := Option.ne_none_iff_exists'.mp hsome
  obtain ⟨⟨found, rest⟩, hfront, -⟩ := Option.bind_eq_some_iff.mp hother
  rw [String.toList_ofList] at hfront
  obtain ⟨back, hback⟩ := hbegin
  have hbackNe : back ≠ [] := by
    rintro rfl
    exact hne (by rw [← hback, List.append_nil])
  rcases front with _ | ⟨first, front⟩
  · cases hfront
  · rw [List.cons_append] at hback
    obtain ⟨rfl, rfl⟩ := List.cons.inj hback
    have hlonger := readValue_bracket_append hbracket hfront back
    rw [hread] at hlonger
    have hnil := (Prod.mk.inj (Option.some.inj hlonger)).2
    exact hbackNe (List.append_eq_nil_iff.mp hnil.symm).2

end SerdeJson
