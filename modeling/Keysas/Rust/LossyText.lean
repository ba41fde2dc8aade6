import Keysas.Rust.Text

/-!
# The lossy conversion of a text

`OsString.toStringLossy` replaces what is not UTF-8. A platform string that was made from a text has
nothing to replace: `toStringLossy_ofText`. The proof takes the bytes of one character off the front
of the string, in the four lengths that the bytes of a character may have.
-/

set_option autoImplicit false
set_option relaxedAutoImplicit false

namespace RustStd

open Wire.Bincode

/-! ### Bytes -/

/-- A mask of the low bits of a byte leaves a remainder. -/
theorem toNat_and_mask (byte : UInt8) (bits : ℕ) {mask : UInt8}
    (hmask : mask.toNat = 2 ^ bits - 1) : (byte &&& mask).toNat = byte.toNat % 2 ^ bits := by
  rw [UInt8.toNat_and, hmask, Nat.and_two_pow_sub_one_eq_mod]

theorem isContinuation_iff (byte : UInt8) :
    isContinuation byte = true ↔ 0x80 ≤ byte.toNat ∧ byte.toNat ≤ 0xBF := by
  rw [isContinuation, Bool.and_eq_true, decide_eq_true_iff, decide_eq_true_iff,
    UInt8.le_iff_toNat_le, UInt8.le_iff_toNat_le]
  rfl

/-- A continuation byte may follow the leading byte of a character when the value is long enough for
its length, is no surrogate, and is not too large. -/
theorem isSecond_of_toNat {lead second : UInt8} (hlow : 0x80 ≤ second.toNat)
    (hhigh : second.toNat ≤ 0xBF) (hthree : lead.toNat = 0xE0 → 0xA0 ≤ second.toNat)
    (hsurrogate : lead.toNat = 0xED → second.toNat ≤ 0x9F)
    (hfour : lead.toNat = 0xF0 → 0x90 ≤ second.toNat)
    (hlarge : lead.toNat = 0xF4 → second.toNat ≤ 0x8F) : isSecond lead second = true := by
  rw [isSecond]
  split_ifs with he0 hed hf0 hf4
  · simp [UInt8.le_iff_toNat_le, hthree (congrArg UInt8.toNat he0), hhigh]
  · simp [UInt8.le_iff_toNat_le, hsurrogate (congrArg UInt8.toNat hed), hlow]
  · simp [UInt8.le_iff_toNat_le, hfour (congrArg UInt8.toNat hf0), hhigh]
  · simp [UInt8.le_iff_toNat_le, hlarge (congrArg UInt8.toNat hf4), hlow]
  · exact (isContinuation_iff second).mpr ⟨hlow, hhigh⟩

/-! ### One character -/

section Lengths

variable {value : ℕ} (rest : List UInt8)

/-- A character of one byte. -/
theorem lossyChars_one {lead : UInt8} (hlead : lead.toNat = value) (hvalue : value < 0x80) :
    lossyChars (lead :: rest) = Char.ofNat value :: lossyChars rest := by
  have hascii : lead < 0x80 := by
    rw [UInt8.lt_iff_toNat_lt, hlead]
    exact hvalue
  rw [lossyChars.eq_def]
  simp only [if_pos hascii, hlead]

/-- A character of two bytes. -/
theorem lossyChars_two {lead second : UInt8} (hlead : lead.toNat = 0xC0 + value / 64)
    (hsecond : second.toNat = 0x80 + value % 64) (hlow : 0x80 ≤ value) (hhigh : value < 0x800) :
    lossyChars (lead :: second :: rest) = Char.ofNat value :: lossyChars rest := by
  have hascii : ¬ lead < 0x80 := by
    rw [UInt8.lt_iff_toNat_lt, hlead]
    show ¬ _ < 128
    omega
  have htwo : 0xC2 ≤ lead ∧ lead ≤ 0xDF := by
    rw [UInt8.le_iff_toNat_le, UInt8.le_iff_toNat_le, hlead]
    show 194 ≤ _ ∧ _ ≤ 223
    omega
  have hcontinuation : isContinuation second = true := by
    rw [isContinuation_iff, hsecond]
    omega
  have hchar : charOf lead 0x1F [second] = Char.ofNat value := by
    rw [charOf, List.foldl_cons, List.foldl_nil, toNat_and_mask lead 5 rfl,
      toNat_and_mask second 6 rfl, hlead, hsecond]
    congr 1
    omega
  rw [lossyChars.eq_def]
  simp only [if_neg hascii, htwo, decide_true, Bool.and_self, if_true, hcontinuation, hchar]

/-- A character of three bytes. Assumes: it is no surrogate. -/
theorem lossyChars_three {lead second third : UInt8} (hlead : lead.toNat = 0xE0 + value / 4096)
    (hsecond : second.toNat = 0x80 + value / 64 % 64) (hthird : third.toNat = 0x80 + value % 64)
    (hlow : 0x800 ≤ value) (hhigh : value < 0x10000) (hvalid : value < 0xD800 ∨ 0xDFFF < value) :
    lossyChars (lead :: second :: third :: rest) = Char.ofNat value :: lossyChars rest := by
  have hascii : ¬ lead < 0x80 := by
    rw [UInt8.lt_iff_toNat_lt, hlead]
    show ¬ _ < 128
    omega
  have htwo : ¬ lead ≤ 0xDF := by
    rw [UInt8.le_iff_toNat_le, hlead]
    show ¬ _ ≤ 223
    omega
  have hthree : 0xE0 ≤ lead ∧ lead ≤ 0xEF := by
    rw [UInt8.le_iff_toNat_le, UInt8.le_iff_toNat_le, hlead]
    show 224 ≤ _ ∧ _ ≤ 239
    omega
  have hfollows : isSecond lead second = true := by
    apply isSecond_of_toNat <;> rw [hsecond] <;> omega
  have hcontinuation : isContinuation third = true := by
    rw [isContinuation_iff, hthird]
    omega
  have hchar : charOf lead 0x0F [second, third] = Char.ofNat value := by
    rw [charOf, List.foldl_cons, List.foldl_cons, List.foldl_nil, toNat_and_mask lead 4 rfl,
      toNat_and_mask second 6 rfl, toNat_and_mask third 6 rfl, hlead, hsecond, hthird]
    congr 1
    omega
  rw [lossyChars.eq_def]
  simp only [if_neg hascii, htwo, hthree, decide_true, decide_false, Bool.and_self, Bool.and_false,
    Bool.false_eq_true, if_true, if_false, hfollows, hcontinuation, hchar]

/-- A character of four bytes. -/
theorem lossyChars_four {lead second third fourth : UInt8}
    (hlead : lead.toNat = 0xF0 + value / 262144) (hsecond : second.toNat = 0x80 + value / 4096 % 64)
    (hthird : third.toNat = 0x80 + value / 64 % 64) (hfourth : fourth.toNat = 0x80 + value % 64)
    (hlow : 0x10000 ≤ value) (hhigh : value < 0x110000) :
    lossyChars (lead :: second :: third :: fourth :: rest) =
      Char.ofNat value :: lossyChars rest := by
  have hascii : ¬ lead < 0x80 := by
    rw [UInt8.lt_iff_toNat_lt, hlead]
    show ¬ _ < 128
    omega
  have htwo : ¬ lead ≤ 0xDF := by
    rw [UInt8.le_iff_toNat_le, hlead]
    show ¬ _ ≤ 223
    omega
  have hthree : ¬ lead ≤ 0xEF := by
    rw [UInt8.le_iff_toNat_le, hlead]
    show ¬ _ ≤ 239
    omega
  have hfour : 0xF0 ≤ lead ∧ lead ≤ 0xF4 := by
    rw [UInt8.le_iff_toNat_le, UInt8.le_iff_toNat_le, hlead]
    show 240 ≤ _ ∧ _ ≤ 244
    omega
  have hfollows : isSecond lead second = true := by
    apply isSecond_of_toNat <;> rw [hsecond] <;> omega
  have hthirdFollows : isContinuation third = true := by
    rw [isContinuation_iff, hthird]
    omega
  have hfourthFollows : isContinuation fourth = true := by
    rw [isContinuation_iff, hfourth]
    omega
  have hchar : charOf lead 0x07 [second, third, fourth] = Char.ofNat value := by
    rw [charOf, List.foldl_cons, List.foldl_cons, List.foldl_cons, List.foldl_nil,
      toNat_and_mask lead 3 rfl, toNat_and_mask second 6 rfl, toNat_and_mask third 6 rfl,
      toNat_and_mask fourth 6 rfl, hlead, hsecond, hthird, hfourth]
    congr 1
    omega
  rw [lossyChars.eq_def]
  simp only [if_neg hascii, htwo, hthree, hfour, decide_true, decide_false, Bool.and_self,
    Bool.and_false, Bool.false_eq_true, if_true, if_false, hfollows, hthirdFollows,
    hfourthFollows, hchar]

end Lengths

/-- The bytes of a character are read as the character. -/
theorem lossyChars_utf8EncodeChar (character : Char) (rest : List UInt8) :
    lossyChars (String.utf8EncodeChar character ++ rest) = character :: lossyChars rest := by
  have hchar : Char.ofNat character.val.toNat :: lossyChars rest = character :: lossyChars rest :=
    congrArg (· :: lossyChars rest) (Char.ofNat_toNat character)
  have hvalid : character.val.toNat < 0xD800 ∨
      0xDFFF < character.val.toNat ∧ character.val.toNat < 0x110000 := character.valid
  rw [String.utf8EncodeChar]
  split_ifs with hone htwo hthree
  · refine (lossyChars_one rest ?_ ?_).trans hchar
    · rw [UInt8.toNat_ofNat']
      omega
    · omega
  · refine (lossyChars_two rest ?_ ?_ ?_ ?_).trans hchar
    · rw [UInt8.toNat_ofNat']
      omega
    · rw [UInt8.toNat_ofNat']
      omega
    · omega
    · omega
  · refine (lossyChars_three rest ?_ ?_ ?_ ?_ ?_ ?_).trans hchar
    · rw [UInt8.toNat_ofNat']
      omega
    · rw [UInt8.toNat_ofNat']
      omega
    · rw [UInt8.toNat_ofNat']
      omega
    · omega
    · omega
    · omega
  · refine (lossyChars_four rest ?_ ?_ ?_ ?_ ?_ ?_).trans hchar
    · rw [UInt8.toNat_ofNat']
      omega
    · rw [UInt8.toNat_ofNat']
      omega
    · rw [UInt8.toNat_ofNat']
      omega
    · rw [UInt8.toNat_ofNat']
      omega
    · omega
    · omega

/-! ### Texts -/

/-- A platform string made from a text is read as the text. -/
theorem toStringLossy_ofText (text : String) : (OsString.ofText text).toStringLossy = text := by
  have hchars : ∀ characters : List Char,
      lossyChars (characters.flatMap String.utf8EncodeChar) = characters := by
    intro characters
    induction characters with
    | nil => rfl
    | cons first rest ih => rw [List.flatMap_cons, lossyChars_utf8EncodeChar, ih]
  rw [OsString.toStringLossy, OsString.ofText, utf8_eq_flatMap, hchars, String.ofList_toList]

end RustStd
