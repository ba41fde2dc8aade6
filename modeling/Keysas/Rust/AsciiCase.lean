import Keysas.Rust.Text

/-!
# Bytes without regard to letter case

A scanner of bytes looks for words in any letter case. `OccursIn` says that a word occurs in a run
of bytes when the capital ASCII letters of both are read as small ones, and `windows` is the method
of slices by which a scanner finds it, see `any_windows_iff`.

A scanner of texts looks for a word in the lowercase of the text. `contains_toLowercase` says that
it finds what occurs in the bytes of the text, when the word is ASCII: the bytes of a character
beyond ASCII are none of its letters, so that the word stands in the text as it does in its bytes
(`infix_toList_of_infix_utf8`).
-/

set_option autoImplicit false
set_option relaxedAutoImplicit false

namespace RustStd

open Wire.Bincode

/-! ### Letter case -/

/-- `u8::to_ascii_lowercase`. -/
def asciiLower (byte : UInt8) : UInt8 :=
  if 0x41 ≤ byte && byte ≤ 0x5A then byte + 0x20 else byte

/-- `[u8]::eq_ignore_ascii_case`. -/
def eqIgnoreAsciiCase (first second : List UInt8) : Bool :=
  first.map asciiLower == second.map asciiLower

/-- A word occurs in a run of bytes in any letter case. -/
def OccursIn (word bytes : List UInt8) : Prop :=
  word.map asciiLower <:+: bytes.map asciiLower

instance decidableOccursIn (word bytes : List UInt8) : Decidable (OccursIn word bytes) :=
  inferInstanceAs (Decidable (word.map asciiLower <:+: bytes.map asciiLower))

/-- All bytes of a run are ASCII. -/
def IsAscii (bytes : List UInt8) : Prop :=
  ∀ byte ∈ bytes, byte.toNat < 128

instance decidableIsAscii (bytes : List UInt8) : Decidable (IsAscii bytes) :=
  List.decidableBAll (fun byte : UInt8 ↦ byte.toNat < 128) bytes

/-- A word that occurs in a part of a run occurs in the run. -/
theorem OccursIn.of_infix {word part bytes : List UInt8} (hoccurs : OccursIn word part)
    (hpart : part <:+: bytes) : OccursIn word bytes :=
  hoccurs.trans (hpart.map asciiLower)

/-- A word occurs where a part of the run is the word up to letter case. -/
theorem occursIn_iff {word bytes : List UInt8} :
    OccursIn word bytes ↔ ∃ part, part <:+: bytes ∧ eqIgnoreAsciiCase part word = true := by
  constructor
  · rintro ⟨front, back, hjoined⟩
    obtain ⟨left, rest, rfl, hleft, hrest⟩ := List.map_eq_append_iff.mp hjoined.symm
    obtain ⟨before, part, rfl, -, hpart⟩ := List.map_eq_append_iff.mp hleft
    exact ⟨part, ⟨before, rest, rfl⟩, beq_iff_eq.mpr hpart⟩
  · rintro ⟨part, hpart, hequal⟩
    rw [OccursIn, ← beq_iff_eq.mp hequal]
    exact hpart.map asciiLower

theorem toNat_asciiLower_lt_iff (byte : UInt8) :
    (asciiLower byte).toNat < 128 ↔ byte.toNat < 128 := by
  rw [asciiLower]
  split_ifs with hcapital
  · rw [Bool.and_eq_true, decide_eq_true_iff, decide_eq_true_iff, UInt8.le_iff_toNat_le,
      UInt8.le_iff_toNat_le] at hcapital
    have hsmall : byte.toNat ≤ 90 := hcapital.2
    have hsum : (byte + 0x20).toNat = (byte.toNat + 32) % 2 ^ 8 := UInt8.toNat_add byte 0x20
    omega
  · exact Iff.rfl

/-- What is an ASCII word up to letter case is ASCII. -/
theorem isAscii_of_map_asciiLower {part word : List UInt8}
    (hlower : part.map asciiLower = word.map asciiLower) (hascii : IsAscii word) :
    IsAscii part := by
  intro byte hbyte
  have hmem : asciiLower byte ∈ word.map asciiLower := by
    rw [← hlower]
    exact List.mem_map_of_mem hbyte
  obtain ⟨letter, hletter, hsame⟩ := List.mem_map.mp hmem
  rw [← toNat_asciiLower_lt_iff, ← hsame, toNat_asciiLower_lt_iff]
  exact hascii letter hletter

/-! ### Windows -/

/-- `slice::windows`. -/
def windows {α : Type} (size : ℕ) (items : List α) : List (List α) :=
  (List.range (items.length + 1 - size)).map fun start ↦ (items.drop start).take size

theorem mem_windows_iff {α : Type} {size : ℕ} {items window : List α} (hsize : 0 < size) :
    window ∈ windows size items ↔ window <:+: items ∧ window.length = size := by
  rw [windows, List.mem_map]
  constructor
  · rintro ⟨start, hstart, rfl⟩
    rw [List.mem_range] at hstart
    refine ⟨(List.take_prefix _ _).isInfix.trans (List.drop_suffix _ _).isInfix, ?_⟩
    rw [List.length_take, List.length_drop]
    omega
  · rintro ⟨⟨front, back, rfl⟩, rfl⟩
    refine ⟨front.length, ?_, ?_⟩
    · rw [List.mem_range]
      simp only [List.length_append]
      omega
    · rw [List.append_assoc, List.drop_left, List.take_left]

/-- A scan of the windows of the length of a word finds the word in any letter case. Assumes: the
word is not empty. -/
theorem any_windows_iff {word bytes : List UInt8} (hword : word ≠ []) :
    (windows word.length bytes).any (fun window ↦ eqIgnoreAsciiCase window word) = true ↔
      OccursIn word bytes := by
  rw [List.any_eq_true, occursIn_iff]
  constructor
  · rintro ⟨window, hwindow, hequal⟩
    exact ⟨window, ((mem_windows_iff (List.length_pos_iff.mpr hword)).mp hwindow).1, hequal⟩
  · rintro ⟨part, hpart, hequal⟩
    have hlength : part.length = word.length := by
      simpa using congrArg List.length (beq_iff_eq.mp hequal)
    exact ⟨part, (mem_windows_iff (List.length_pos_iff.mpr hword)).mpr ⟨hpart, hlength⟩, hequal⟩

/-! ### ASCII texts -/

/-- A byte as a character. -/
def asciiChar (byte : UInt8) : Char :=
  Char.ofNat byte.toNat

/-- The text of a run of ASCII bytes. -/
def asciiText (bytes : List UInt8) : String :=
  String.ofList (bytes.map asciiChar)

@[simp] theorem asciiText_nil : asciiText [] = "" := rfl

theorem asciiText_append (first second : List UInt8) :
    asciiText (first ++ second) = asciiText first ++ asciiText second := by
  rw [asciiText, List.map_append, String.ofList_append, asciiText, asciiText]

@[simp] theorem toNat_asciiChar (byte : UInt8) : (asciiChar byte).toNat = byte.toNat := by
  have hvalid : byte.toNat.isValidChar := .inl (byte.toNat_lt.trans (by decide))
  rw [asciiChar, Char.ofNat, dif_pos hvalid]
  rfl

theorem asciiChar_injective : Function.Injective asciiChar := by
  intro first second hsame
  have hvalue := congrArg Char.toNat hsame
  rw [toNat_asciiChar, toNat_asciiChar] at hvalue
  exact UInt8.toNat_inj.mp hvalue

theorem toList_asciiText (bytes : List UInt8) :
    (asciiText bytes).toList = bytes.map asciiChar :=
  String.toList_ofList

/-- A run of ASCII bytes occurs in another one as its text does in the text of the other. -/
theorem contains_asciiText_iff {bytes word : List UInt8} :
    contains (asciiText bytes) (asciiText word) = true ↔ word <:+: bytes := by
  rw [contains, decide_eq_true_iff, toList_asciiText, toList_asciiText]
  constructor
  · rintro ⟨front, back, hjoined⟩
    obtain ⟨left, rest, rfl, hleft, hrest⟩ := List.map_eq_append_iff.mp hjoined.symm
    obtain ⟨before, part, rfl, -, hpart⟩ := List.map_eq_append_iff.mp hleft
    obtain rfl := List.map_injective_iff.mpr asciiChar_injective hpart
    exact ⟨before, rest, rfl⟩
  · exact fun hword ↦ hword.map asciiChar

/-- The lowercase of the character of a byte is that of the byte. -/
theorem toLower_asciiChar (byte : UInt8) :
    (asciiChar byte).toLower = asciiChar (asciiLower byte) := by
  have hvalue : (asciiChar byte).val.toNat = byte.toNat := toNat_asciiChar byte
  have hcapital : (asciiChar byte).val ≥ 'A'.val ∧ (asciiChar byte).val ≤ 'Z'.val ↔
      0x41 ≤ byte.toNat ∧ byte.toNat ≤ 0x5A := by
    rw [ge_iff_le, UInt32.le_iff_toNat_le, UInt32.le_iff_toNat_le, hvalue]
    rfl
  have hlower : (0x41 ≤ byte && byte ≤ 0x5A) = true ↔ 0x41 ≤ byte.toNat ∧ byte.toNat ≤ 0x5A := by
    rw [Bool.and_eq_true, decide_eq_true_iff, decide_eq_true_iff, UInt8.le_iff_toNat_le,
      UInt8.le_iff_toNat_le]
    rfl
  apply Char.toNat_inj.mp
  rw [toNat_asciiChar, asciiLower]
  by_cases hrange : 0x41 ≤ byte.toNat ∧ byte.toNat ≤ 0x5A
  · have hlowered : (asciiChar byte).toLower.val = (asciiChar byte).val + 32 :=
      congrArg Char.val (dif_pos (hcapital.mpr hrange))
    rw [if_pos (hlower.mpr hrange)]
    show (asciiChar byte).toLower.val.toNat = (byte + 32).toNat
    rw [hlowered, UInt32.toNat_add, UInt8.toNat_add, hvalue]
    show (byte.toNat + 32) % 2 ^ 32 = (byte.toNat + 32) % 2 ^ 8
    omega
  · have hlowered : (asciiChar byte).toLower = asciiChar byte :=
      dif_neg (hcapital.not.mpr hrange)
    rw [if_neg (hlower.not.mpr hrange), hlowered, toNat_asciiChar]

/-- The lowercase of a text that begins with an ASCII word begins with that of the word. -/
theorem lowercaseFrom_append (tables : UnicodeTables) (before back : List Char)
    {word : List UInt8} (hascii : IsAscii word) :
    lowercaseFrom tables before (word.map asciiChar ++ back) =
      (word.map asciiLower).map asciiChar ++
        lowercaseFrom tables ((word.map asciiChar).reverse ++ before) back := by
  induction word generalizing before with
  | nil => rfl
  | cons byte word ih =>
    have hsmall : (asciiChar byte).toNat < 128 := by
      rw [toNat_asciiChar]
      exact hascii byte (.head _)
    have hsigma : asciiChar byte ≠ 'Σ' := by
      intro hsame
      rw [hsame] at hsmall
      exact absurd hsmall (by decide)
    rw [List.map_cons, List.cons_append, lowercaseFrom, if_neg hsigma,
      tables.lowercase_ascii _ hsmall, toLower_asciiChar,
      ih _ fun other hother ↦ hascii other (.tail _ hother), List.reverse_cons, List.append_assoc]
    rfl

/-- The lowercase of an ASCII text is that of its bytes. -/
theorem toLowercase_asciiText (tables : UnicodeTables) {bytes : List UInt8}
    (hascii : IsAscii bytes) :
    toLowercase tables (asciiText bytes) = asciiText (bytes.map asciiLower) := by
  have hlower := lowercaseFrom_append tables [] [] hascii
  rw [List.append_nil, lowercaseFrom, List.append_nil] at hlower
  rw [toLowercase, toList_asciiText, hlower, asciiText]

/-! ### The bytes of a text -/

/-- A character is one ASCII byte, or all of its bytes are beyond ASCII. -/
theorem utf8EncodeChar_cases (character : Char) :
    (∃ byte : UInt8, byte.toNat < 128 ∧ String.utf8EncodeChar character = [byte] ∧
      asciiChar byte = character) ∨
    ∀ byte ∈ String.utf8EncodeChar character, 128 ≤ byte.toNat := by
  have hvalid : character.val.toNat < 0x110000 := by
    have hrange : character.val.toNat < 0xD800 ∨
        0xDFFF < character.val.toNat ∧ character.val.toNat < 0x110000 := character.valid
    omega
  rw [String.utf8EncodeChar]
  split_ifs with hone htwo hthree
  · left
    have hbyte : (UInt8.ofNat character.val.toNat).toNat = character.val.toNat := by
      rw [UInt8.toNat_ofNat']
      omega
    refine ⟨_, by omega, rfl, Char.toNat_inj.mp ?_⟩
    rw [toNat_asciiChar, hbyte]
    rfl
  · right
    simp only [List.mem_cons, List.not_mem_nil, or_false, forall_eq_or_imp, forall_eq,
      UInt8.toNat_ofNat']
    omega
  · right
    simp only [List.mem_cons, List.not_mem_nil, or_false, forall_eq_or_imp, forall_eq,
      UInt8.toNat_ofNat']
    omega
  · right
    simp only [List.mem_cons, List.not_mem_nil, or_false, forall_eq_or_imp, forall_eq,
      UInt8.toNat_ofNat']
    omega

/-- A character that is the text of an ASCII byte has that byte. -/
theorem utf8EncodeChar_asciiChar {byte : UInt8} (hascii : byte.toNat < 128) :
    String.utf8EncodeChar (asciiChar byte) = [byte] := by
  have hvalue : (asciiChar byte).val.toNat = byte.toNat := toNat_asciiChar byte
  rw [String.utf8EncodeChar, if_pos (by omega), hvalue, UInt8.ofNat_toNat]

theorem utf8_asciiText {bytes : List UInt8} (hascii : IsAscii bytes) :
    utf8 (asciiText bytes) = bytes := by
  rw [utf8_eq_flatMap, toList_asciiText]
  induction bytes with
  | nil => rfl
  | cons byte bytes ih =>
    rw [List.map_cons, List.flatMap_cons, utf8EncodeChar_asciiChar (hascii byte (.head _)),
      ih fun other hother ↦ hascii other (.tail _ hother), List.singleton_append]

/-- Characters whose bytes begin with an ASCII word begin with the word. -/
theorem exists_eq_append_of_flatMap {characters : List Char} {word rest : List UInt8}
    (hbytes : characters.flatMap String.utf8EncodeChar = word ++ rest) (hascii : IsAscii word) :
    ∃ back, characters = word.map asciiChar ++ back ∧
      back.flatMap String.utf8EncodeChar = rest := by
  induction word generalizing characters with
  | nil => exact ⟨characters, rfl, hbytes⟩
  | cons byte word ih =>
    cases characters with
    | nil => cases hbytes
    | cons character characters =>
      have hsmall := hascii byte (.head _)
      rw [List.flatMap_cons] at hbytes
      rcases utf8EncodeChar_cases character with ⟨first, -, hencode, hchar⟩ | hlarge
      · rw [hencode] at hbytes
        obtain ⟨rfl, hrest⟩ := List.cons.inj hbytes
        obtain ⟨back, rfl, hback⟩ := ih hrest fun other hother ↦ hascii other (.tail _ hother)
        exact ⟨back, by rw [List.map_cons, hchar, List.cons_append], hback⟩
      · obtain ⟨first, others, hencode⟩ := List.exists_cons_of_ne_nil
          (List.ne_nil_of_length_pos (by
            rw [String.length_utf8EncodeChar]; exact character.utf8Size_pos))
        rw [hencode] at hbytes hlarge
        obtain ⟨rfl, -⟩ := List.cons.inj hbytes
        exact absurd (hlarge first (.head _)) (Nat.not_le_of_lt hsmall)

/-- An ASCII word in the bytes of characters stands between two parts of these. Assumes: the word is
not empty. -/
theorem exists_eq_append_of_flatMap_infix {characters : List Char} {before word rest : List UInt8}
    (hbytes : characters.flatMap String.utf8EncodeChar = before ++ (word ++ rest))
    (hascii : IsAscii word) (hword : word ≠ []) :
    ∃ front back, characters = front ++ (word.map asciiChar ++ back) := by
  induction characters generalizing before with
  | nil =>
    have hempty := List.append_eq_nil_iff.mp hbytes.symm
    exact absurd (List.append_eq_nil_iff.mp hempty.2).1 hword
  | cons character characters ih =>
    rcases List.append_eq_append_iff.mp hbytes with
      ⟨others, rfl, hrest⟩ | ⟨others, hencode, hrest⟩
    · obtain ⟨front, back, rfl⟩ := ih hrest
      exact ⟨character :: front, back, rfl⟩
    · cases others with
      | nil =>
        obtain ⟨front, back, rfl⟩ := @ih [] hrest.symm
        exact ⟨character :: front, back, rfl⟩
      | cons byte others =>
        -- The word begins with a byte of this character, which is ASCII and thus its only byte.
        obtain ⟨letter, word, rfl⟩ := List.exists_cons_of_ne_nil hword
        obtain ⟨rfl, -⟩ := List.cons.inj hrest
        rcases utf8EncodeChar_cases character with ⟨first, -, hsingle, -⟩ | hlarge
        · rw [hencode] at hsingle
          have hbefore : before = [] := by
            have hlength := congrArg List.length hsingle
            rw [List.length_append, List.length_cons, List.length_singleton] at hlength
            exact List.length_eq_zero_iff.mp (by omega)
          rw [hbefore, List.nil_append] at hbytes
          obtain ⟨back, hcharacters, -⟩ := exists_eq_append_of_flatMap hbytes hascii
          exact ⟨[], back, hcharacters⟩
        · have hmem : letter ∈ String.utf8EncodeChar character := by
            rw [hencode]
            exact List.mem_append_right _ (.head _)
          exact absurd (hlarge letter hmem) (Nat.not_le_of_lt (hascii letter (.head _)))

/-- An ASCII word with which the bytes of a text begin stands at the front of the text. -/
theorem prefix_toList_of_prefix_utf8 {text : String} {word : List UInt8}
    (hword : word <+: utf8 text) (hascii : IsAscii word) :
    word.map asciiChar <+: text.toList := by
  obtain ⟨rest, hrest⟩ := hword
  rw [utf8_eq_flatMap] at hrest
  obtain ⟨back, hback, -⟩ := exists_eq_append_of_flatMap hrest.symm hascii
  exact ⟨back, hback.symm⟩

/-- An ASCII word that occurs in the bytes of a text stands in the text. -/
theorem infix_toList_of_infix_utf8 {text : String} {word : List UInt8}
    (hword : word <:+: utf8 text) (hascii : IsAscii word) :
    word.map asciiChar <:+: text.toList := by
  rcases List.eq_nil_or_concat word with rfl | ⟨_, _, rfl⟩
  · exact List.nil_infix
  · obtain ⟨before, rest, hjoined⟩ := hword
    rw [utf8_eq_flatMap, List.append_assoc] at hjoined
    obtain ⟨front, back, hfront⟩ :=
      exists_eq_append_of_flatMap_infix hjoined.symm hascii (by simp)
    exact ⟨front, back, by rw [hfront, List.append_assoc]⟩

/-- A text whose bytes are ASCII is the text of its bytes. -/
theorem asciiText_utf8 {text : String} (hascii : IsAscii (utf8 text)) :
    asciiText (utf8 text) = text := by
  have hbytes : text.toList.flatMap String.utf8EncodeChar = utf8 text ++ [] := by
    rw [List.append_nil, utf8_eq_flatMap]
  obtain ⟨back, hback, hrest⟩ := exists_eq_append_of_flatMap hbytes hascii
  have hnone : back = [] := by
    cases back with
    | nil => rfl
    | cons character back =>
      have hlength := congrArg List.length hrest
      have hsize := character.utf8Size_pos
      rw [List.flatMap_cons, List.length_append, String.length_utf8EncodeChar,
        List.length_nil] at hlength
      omega
  rw [hnone, List.append_nil] at hback
  rw [asciiText, ← hback, String.ofList_toList]

/-! ### Lowercase texts -/

/-- The lowercase of a text has that of an ASCII word that stands in the text. -/
theorem contains_toLowercase (tables : UnicodeTables) {text : String} {word : List UInt8}
    (hword : word.map asciiChar <:+: text.toList) (hascii : IsAscii word) :
    contains (toLowercase tables text) (asciiText (word.map asciiLower)) = true := by
  obtain ⟨front, back, htext⟩ := hword
  obtain ⟨lowered, hlowered⟩ :=
    exists_lowercaseFrom_append tables [] front (word.map asciiChar ++ back)
  rw [contains, decide_eq_true_iff, toLowercase, String.toList_ofList, ← htext, List.append_assoc,
    hlowered, lowercaseFrom_append tables _ _ hascii, toList_asciiText, ← List.append_assoc]
  exact List.infix_append _ _ _

/-- A scanner of the lowercase of a text finds an ASCII word that occurs in its bytes in any letter
case. -/
theorem contains_toLowercase_of_occursIn (tables : UnicodeTables) {text word : String}
    (hoccurs : OccursIn (utf8 word) (utf8 text)) (hascii : IsAscii (utf8 word)) :
    contains (toLowercase tables text) (toLowercase tables word) = true := by
  obtain ⟨part, hpart, hequal⟩ := occursIn_iff.mp hoccurs
  have hlower : part.map asciiLower = (utf8 word).map asciiLower := beq_iff_eq.mp hequal
  have hword := toLowercase_asciiText tables hascii
  rw [asciiText_utf8 hascii] at hword
  rw [hword, ← hlower]
  have hpartAscii := isAscii_of_map_asciiLower hlower hascii
  exact contains_toLowercase tables (infix_toList_of_infix_utf8 hpart hpartAscii) hpartAscii

/-- The lowercase of a text begins with that of an ASCII word with which the text begins. -/
theorem startsWith_toLowercase (tables : UnicodeTables) {text : String} {word : List UInt8}
    (hword : word.map asciiChar <+: text.toList) (hascii : IsAscii word) :
    startsWith (toLowercase tables text) (asciiText (word.map asciiLower)) = true := by
  obtain ⟨back, hback⟩ := hword
  rw [startsWith, decide_eq_true_iff, toLowercase, String.toList_ofList, ← hback,
    lowercaseFrom_append tables _ _ hascii, toList_asciiText]
  exact List.prefix_append _ _

end RustStd
