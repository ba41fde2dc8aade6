import Mathlib.Data.List.Basic
import Mathlib.Tactic.Common

/-!
# Readers

A reader delivers a content from its front to its end. How many bytes one call of `Read::read`
delivers is up to the reader: at least one and at most as many as the buffer has room for, until the
content is exhausted. `Reader content` is any choice within these bounds, so that what holds of
every reader holds however the content is cut into chunks.

`prefix_read_iff` says which texts a chunk starts with: those that the content starts with at that
position, as far as the chunk reaches.
-/

set_option autoImplicit false
set_option relaxedAutoImplicit false

namespace RustStd

variable {α : Type}

/-- A reader that delivers a content. -/
structure Reader (content : List α) where
  /-- How many elements a call delivers from a position into a buffer of a length. -/
  chunk : ℕ → ℕ → ℕ
  chunk_le_requested : ∀ position requested, chunk position requested ≤ requested
  chunk_le_left : ∀ position requested, chunk position requested ≤ content.length - position
  chunk_pos : ∀ {position requested}, position < content.length → 0 < requested →
    0 < chunk position requested

variable {content : List α}

/-- `read` at a position into a buffer of a length. -/
def Reader.read (reader : Reader content) (position requested : ℕ) : List α :=
  (content.drop position).take (reader.chunk position requested)

/-- A chunk starts with what the content has at its position, as far as the chunk reaches. -/
theorem Reader.prefix_read_iff (reader : Reader content) {position requested : ℕ}
    {front : List α} :
    front <+: reader.read position requested ↔
      front <+: content.drop position ∧ front.length ≤ reader.chunk position requested :=
  List.prefix_take_iff

/-! ### Two extremes -/

/-- The reader that delivers as much as fits into the buffer. -/
def Reader.greedy (content : List α) : Reader content where
  chunk position requested := min requested (content.length - position)
  chunk_le_requested := by omega
  chunk_le_left := by omega
  chunk_pos := by omega

/-- The reader that delivers one element at a time. -/
def Reader.single (content : List α) : Reader content where
  chunk position requested := min 1 (min requested (content.length - position))
  chunk_le_requested := by omega
  chunk_le_left := by omega
  chunk_pos := by omega

end RustStd
