import Mathlib.Algebra.Ring.Nat
import Mathlib.Data.List.Basic
import Mathlib.Tactic.Common

/-!
# Numbers in texts

`parseU32` reads a number of 32 bits from a text: decimal digits behind an optional plus sign, with
a value that fits. `parseU32_repr` says that it reads back what is written in decimal digits.
-/

set_option autoImplicit false
set_option relaxedAutoImplicit false

namespace RustStd

/-- The value of decimal digits, when there are only such. -/
def digitsValue (characters : List Char) : Option ℕ :=
  characters.foldlM (fun value character ↦
    if character.isDigit then some (10 * value + (character.toNat - '0'.toNat)) else none) 0

/-- `str::parse::<u32>`. -/
def parseU32 (text : String) : Option UInt32 :=
  let digits :=
    match text.toList with
    | '+' :: rest => rest
    | characters => characters
  if digits = [] then none
  else
    (digitsValue digits).bind fun value ↦
      if value < 2 ^ 32 then some (UInt32.ofNat value) else none

example : parseU32 "+365" = some 365 ∧ parseU32 "" = none ∧ parseU32 "+" = none ∧
    parseU32 "3 5" = none ∧ parseU32 "4294967296" = none := by
  decide

/-- Digits have the value that they write. -/
theorem digitsValue_of_isDigit {characters : List Char}
    (hdigits : ∀ character ∈ characters, character.isDigit = true) :
    digitsValue characters = some (Nat.ofDigitChars 10 characters 0) := by
  have hfold : ∀ start : ℕ, characters.foldlM (fun value character ↦
      if character.isDigit then some (10 * value + (character.toNat - '0'.toNat)) else none) start =
        some (Nat.ofDigitChars 10 characters start) := by
    induction characters with
    | nil => exact fun start ↦ rfl
    | cons character rest ih =>
      intro start
      have hrest := ih fun other hother ↦ hdigits other (.tail _ hother)
      rw [List.foldlM_cons, if_pos (hdigits character (.head _)), Nat.ofDigitChars_cons]
      exact hrest _
  exact hfold 0

/-- A number of 32 bits is read back from its decimal digits. -/
theorem parseU32_repr (value : UInt32) : parseU32 value.toNat.repr = some value := by
  have hdigits : ∀ character ∈ Nat.toDigits 10 value.toNat, character.isDigit = true :=
    fun _ hmem ↦ Nat.isDigit_of_mem_toDigits (by decide) (by decide) hmem
  have hsign : (match Nat.toDigits 10 value.toNat with
      | '+' :: rest => rest
      | characters => characters) = Nat.toDigits 10 value.toNat := by
    split
    · rename_i rest hplus
      rw [hplus] at hdigits
      exact absurd (hdigits '+' (.head _)) (by decide)
    · rfl
  have hfits : value.toNat < 2 ^ 32 := value.toNat_lt
  rw [parseU32, Nat.toList_repr, hsign, if_neg Nat.toDigits_ne_nil, digitsValue_of_isDigit hdigits,
    Nat.ofDigitChars_ten_toDigits, Option.bind_some, if_pos hfits, UInt32.ofNat_toNat]

end RustStd
