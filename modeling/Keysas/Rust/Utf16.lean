import Mathlib.Data.List.Basic
import Mathlib.Tactic.Common

/-!
# UTF-16

`encodeUtf16` is the encoding of a text in units of 16 bits. A character beyond the first plane
becomes a pair of surrogates, and a run of units is well formed when its surrogates stand in such
pairs only. `wellFormedUtf16_encodeUtf16` says that an encoding is well formed.
-/

set_option autoImplicit false
set_option relaxedAutoImplicit false

namespace RustStd

/-! ### Encoding -/

/-- The units of one character. -/
def encodeUtf16Char (char : Char) : List UInt16 :=
  if char.toNat < 0x10000 then [UInt16.ofNat char.toNat]
  else
    [UInt16.ofNat (0xD800 + (char.toNat - 0x10000) / 0x400),
      UInt16.ofNat (0xDC00 + (char.toNat - 0x10000) % 0x400)]

/-- `str::encode_utf16`. -/
def encodeUtf16 (text : String) : List UInt16 :=
  text.toList.flatMap encodeUtf16Char

@[simp] theorem encodeUtf16_ofList_nil : encodeUtf16 (String.ofList []) = [] := by
  simp [encodeUtf16]

@[simp] theorem encodeUtf16_ofList_cons (char : Char) (chars : List Char) :
    encodeUtf16 (String.ofList (char :: chars)) =
      encodeUtf16Char char ++ encodeUtf16 (String.ofList chars) := by
  simp [encodeUtf16]

/-! ### Surrogates -/

/-- The unit is the first half of a pair. -/
def isLeadingSurrogate (unit : UInt16) : Bool :=
  0xD800 ≤ unit && unit < 0xDC00

/-- The unit is the second half of a pair. -/
def isTrailingSurrogate (unit : UInt16) : Bool :=
  0xDC00 ≤ unit && unit ≤ 0xDFFF

/-- The surrogates of a run of units stand in pairs. -/
def wellFormedUtf16 : List UInt16 → Bool
  | [] => true
  | [unit] => !isLeadingSurrogate unit && !isTrailingSurrogate unit
  | unit :: next :: rest =>
    if isLeadingSurrogate unit then isTrailingSurrogate next && wellFormedUtf16 rest
    else !isTrailingSurrogate unit && wellFormedUtf16 (next :: rest)

/-- A unit that is no surrogate does not change whether a run is well formed. -/
theorem wellFormedUtf16_cons {unit : UInt16} (hleading : isLeadingSurrogate unit = false)
    (htrailing : isTrailingSurrogate unit = false) (rest : List UInt16) :
    wellFormedUtf16 (unit :: rest) = wellFormedUtf16 rest := by
  cases rest with
  | nil => simp [wellFormedUtf16, hleading, htrailing]
  | cons next rest => simp [wellFormedUtf16, hleading, htrailing]

theorem toNat_lt_of_char (char : Char) :
    char.toNat < 0xD800 ∨ 0xDFFF < char.toNat ∧ char.toNat < 0x110000 :=
  char.valid

/-- The encoding of a character does not change whether a run is well formed. -/
theorem wellFormedUtf16_encodeUtf16Char_append (char : Char) (rest : List UInt16) :
    wellFormedUtf16 (encodeUtf16Char char ++ rest) = wellFormedUtf16 rest := by
  have hvalid := toNat_lt_of_char char
  rw [encodeUtf16Char]
  split_ifs with hplane
  · refine wellFormedUtf16_cons ?_ ?_ rest
    · simp [isLeadingSurrogate, UInt16.le_iff_toNat_le, UInt16.lt_iff_toNat_lt]
      omega
    · simp [isTrailingSurrogate, UInt16.le_iff_toNat_le]
      omega
  · have hleading : isLeadingSurrogate
        (UInt16.ofNat (0xD800 + (char.toNat - 0x10000) / 0x400)) = true := by
      simp [isLeadingSurrogate, UInt16.le_iff_toNat_le, UInt16.lt_iff_toNat_lt]
      omega
    have htrailing : isTrailingSurrogate
        (UInt16.ofNat (0xDC00 + (char.toNat - 0x10000) % 0x400)) = true := by
      simp [isTrailingSurrogate, UInt16.le_iff_toNat_le]
      omega
    rw [List.cons_append, List.singleton_append, wellFormedUtf16, if_pos hleading, htrailing,
      Bool.true_and]

/-- An encoding is well formed. -/
theorem wellFormedUtf16_encodeUtf16 (text : String) : wellFormedUtf16 (encodeUtf16 text) := by
  rw [encodeUtf16]
  induction text.toList with
  | nil => rfl
  | cons char chars ih =>
    rw [List.flatMap_cons, wellFormedUtf16_encodeUtf16Char_append]
    exact ih

end RustStd
