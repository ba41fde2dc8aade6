import Mathlib.Data.List.Infix

/-!
# Disjoint occurrences

`OccursTimes needle count text` says that a text has a number of occurrences of a word of which no
two overlap. `firstIndex` is the position of the first occurrence. Whoever takes the first
occurrence and goes on behind it loses none: `OccursTimes.drop` is this step.
-/

set_option autoImplicit false
set_option relaxedAutoImplicit false

namespace RustStd

section Occurrences

variable {α : Type} {needle text : List α} {count : ℕ}

/-- The text has a number of occurrences of the word that do not overlap. -/
inductive OccursTimes (needle : List α) : ℕ → List α → Prop where
  | zero (text : List α) : OccursTimes needle 0 text
  | behind (gap : List α) {count : ℕ} {rest : List α} :
    OccursTimes needle count rest → OccursTimes needle (count + 1) (gap ++ needle ++ rest)

theorem OccursTimes.prepend (front : List α) (hoccurs : OccursTimes needle count text) :
    OccursTimes needle count (front ++ text) := by
  cases hoccurs with
  | zero => exact .zero _
  | @behind gap count rest hrest =>
    have hsplit : front ++ (gap ++ needle ++ rest) = front ++ gap ++ needle ++ rest := by
      simp only [List.append_assoc]
    rw [hsplit]
    exact .behind (front ++ gap) hrest

/-- The position is that of the first occurrence of the word. -/
def IsFirst (needle text : List α) (position : ℕ) : Prop :=
  needle <+: text.drop position ∧
    ∀ gap rest, text = gap ++ needle ++ rest → position ≤ gap.length

theorem IsFirst.split {position : ℕ} (hfirst : IsFirst needle text position) :
    text.take position ++ needle ++ text.drop (position + needle.length) = text := by
  obtain ⟨rest, hrest⟩ := hfirst.1
  have hdrop : text.drop (position + needle.length) = rest := by
    rw [← List.drop_drop, ← hrest, List.drop_left]
  rw [hdrop, List.append_assoc, hrest, List.take_append_drop]

theorem IsFirst.length_le {position : ℕ} (hfirst : IsFirst needle text position) :
    position + needle.length ≤ text.length := by
  have hle := hfirst.2 _ _ hfirst.split.symm
  have hlength := congrArg List.length hfirst.split
  rw [List.length_take] at hle
  rw [List.length_append, List.length_append, List.length_take, List.length_drop] at hlength
  omega

/-- Behind the first occurrence there is at most one occurrence less. -/
theorem OccursTimes.drop {position : ℕ} (hfirst : IsFirst needle text position)
    (hoccurs : OccursTimes needle (count + 1) text) :
    OccursTimes needle count (text.drop (position + needle.length)) := by
  cases hoccurs with
  | @behind gap _ rest hrest =>
    have hle := hfirst.2 gap rest rfl
    rw [List.drop_append_of_le_length (by rw [List.length_append]; omega)]
    exact hrest.prepend _

theorem occursTimes_succ_iff {position : ℕ} (hfirst : IsFirst needle text position) :
    OccursTimes needle (count + 1) text ↔
      OccursTimes needle count (text.drop (position + needle.length)) := by
  refine ⟨OccursTimes.drop hfirst, fun hoccurs ↦ ?_⟩
  rw [← hfirst.split]
  exact .behind _ hoccurs

theorem not_occursTimes_succ (hpart : ¬ needle <:+: text) :
    ¬ OccursTimes needle (count + 1) text := by
  rintro ⟨⟩
  exact hpart ⟨_, _, rfl⟩

theorem occursTimes_one_iff : OccursTimes needle 1 text ↔ needle <:+: text := by
  constructor
  · rintro ⟨⟩
    exact ⟨_, _, rfl⟩
  · rintro ⟨gap, rest, rfl⟩
    exact .behind gap (.zero rest)

end Occurrences

end RustStd
