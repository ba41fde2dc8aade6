import Keysas.Rust.Text

/-!
# Computations that may fault

An index or the range of a slice that lies outside ends a Rust program. A sum or a product of
`usize` that does not fit does so where overflow is checked, and is wrong where it is not.
`usizeAdd`, `usizeMul`, `index` and `slice` are these operations with their faults, and each has one
rule that says when there is none. A loop or a recursion that is given too few steps ends with the
fault `unfinished`.
-/

set_option autoImplicit false
set_option relaxedAutoImplicit false

namespace RustStd

/-- How a computation goes wrong. -/
inductive Fault where
  | overflow
  | outOfRange
  | unfinished
  deriving DecidableEq

/-- The sum of two numbers of the type `usize` of 64 bits. -/
def usizeAdd (first second : ℕ) : Except Fault ℕ :=
  if first + second < 2 ^ 64 then .ok (first + second) else .error .overflow

/-- The product of two numbers of the type `usize` of 64 bits. -/
def usizeMul (first second : ℕ) : Except Fault ℕ :=
  if first * second < 2 ^ 64 then .ok (first * second) else .error .overflow

variable {α : Type}

/-- The item at a position of a slice. -/
def index (items : List α) (position : ℕ) : Except Fault α :=
  match items[position]? with
  | none => .error .outOfRange
  | some item => .ok item

/-- The part of a slice from a position up to another. -/
def slice (items : List α) (first last : ℕ) : Except Fault (List α) :=
  if first ≤ last ∧ last ≤ items.length then .ok ((items.drop first).take (last - first))
  else .error .outOfRange

theorem usizeAdd_of_lt {first second : ℕ} (hfits : first + second < 2 ^ 64) :
    usizeAdd first second = .ok (first + second) :=
  if_pos hfits

theorem usizeMul_of_lt {first second : ℕ} (hfits : first * second < 2 ^ 64) :
    usizeMul first second = .ok (first * second) :=
  if_pos hfits

theorem index_of_getElem? {items : List α} {position : ℕ} {item : α}
    (hitem : items[position]? = some item) : index items position = .ok item := by
  simp only [index, hitem]

/-- An index inside a slice gives what stands there, whatever would stand outside. -/
theorem index_of_lt {items : List α} {position : ℕ} (hposition : position < items.length)
    (fallback : α) : index items position = .ok (items.getD position fallback) := by
  have hitem : items[position]? = some (items.getD position fallback) := by
    rw [List.getD_eq_getElem?_getD, List.getElem?_eq_getElem hposition, Option.getD_some]
  exact index_of_getElem? hitem

theorem slice_of_le {items : List α} {first last : ℕ} (hfirst : first ≤ last)
    (hlast : last ≤ items.length) :
    slice items first last = .ok ((items.drop first).take (last - first)) :=
  if_pos ⟨hfirst, hlast⟩

/-- The part of a slice up to its end. -/
theorem slice_length {items : List α} {first : ℕ} (hfirst : first ≤ items.length) :
    slice items first items.length = .ok (items.drop first) := by
  rw [slice_of_le hfirst (Nat.le_refl _), List.take_of_length_le]
  rw [List.length_drop]

end RustStd
