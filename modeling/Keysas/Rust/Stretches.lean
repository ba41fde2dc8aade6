import Mathlib.Data.List.Infix
import Mathlib.Tactic.Common

/-!
# Stretches

A list cut at the items that do not satisfy a predicate: `stretches` are the pieces between them,
of which some may be empty. A part of the list whose items all satisfy the predicate lies in one of
the stretches (`exists_stretch_of_infix`), and every stretch is such a part
(`infix_of_mem_stretches`).
-/

set_option autoImplicit false
set_option relaxedAutoImplicit false

namespace RustStd

variable {α : Type}

/-- The pieces of a list between the items that do not satisfy a predicate, the first one behind
items that were read already. -/
def stretches (keep : α → Bool) (current : List α) : List α → List (List α)
  | [] => [current]
  | item :: items =>
    if keep item then stretches keep (current ++ [item]) items
    else current :: stretches keep [] items

/-- What does not have an item stands on one side of it. -/
theorem infix_append_cons {part front back : List α} {item : α} (hitem : item ∉ part)
    (hpart : part <:+: front ++ item :: back) : part <:+: front ∨ part <:+: back := by
  obtain ⟨before, after, hjoined⟩ := hpart
  rcases List.append_eq_append_iff.mp hjoined with ⟨rest, hfront, -⟩ | ⟨rest, hpart, hrest⟩
  · exact .inl ⟨before, rest, hfront.symm⟩
  cases rest with
  | nil => exact .inl ⟨before, [], by rw [List.append_nil, hpart, List.append_nil]⟩
  | cons first rest =>
    obtain ⟨rfl, hback⟩ := List.cons.inj hrest
    rcases List.append_eq_append_iff.mp hpart with ⟨left, -, hleft⟩ | ⟨left, -, hleft⟩
    · exact absurd (hleft ▸ List.mem_append_right left (.head _)) hitem
    · cases left with
      | nil =>
        rw [List.nil_append] at hleft
        rw [← hleft] at hitem
        exact absurd (.head _) hitem
      | cons other left =>
        obtain ⟨-, hrest⟩ := List.cons.inj hleft
        exact .inr ⟨left, after, by rw [hback, hrest]; rfl⟩

variable {keep : α → Bool}

theorem stretches_ne_nil (current items : List α) : stretches keep current items ≠ [] := by
  induction items generalizing current with
  | nil => exact List.cons_ne_nil _ _
  | cons item items ih =>
    rw [stretches]
    split_ifs
    · exact ih _
    · exact List.cons_ne_nil _ _

/-- A stretch is a part of the list, and all its items satisfy the predicate. Assumes: so do those
that were read already. -/
theorem infix_of_mem_stretches {current items stretch : List α}
    (hcurrent : ∀ item ∈ current, keep item = true)
    (hmem : stretch ∈ stretches keep current items) :
    stretch <:+: current ++ items ∧ ∀ item ∈ stretch, keep item = true := by
  induction items generalizing current with
  | nil =>
    rw [stretches, List.mem_singleton] at hmem
    rw [hmem]
    exact ⟨(List.prefix_append _ _).isInfix, hcurrent⟩
  | cons item items ih =>
    rw [stretches] at hmem
    split_ifs at hmem with hkeep
    · have hlonger : ∀ other ∈ current ++ [item], keep other = true := by
        intro other hother
        rcases List.mem_append.mp hother with hold | hnew
        · exact hcurrent other hold
        · rw [List.mem_singleton.mp hnew]
          exact hkeep
      obtain ⟨hlies, hall⟩ := ih hlonger hmem
      rw [List.append_assoc, List.singleton_append] at hlies
      exact ⟨hlies, hall⟩
    · rcases List.mem_cons.mp hmem with rfl | hrest
      · exact ⟨(List.prefix_append _ _).isInfix, hcurrent⟩
      · obtain ⟨hlies, hall⟩ := ih (fun other hother ↦ absurd hother List.not_mem_nil) hrest
        rw [List.nil_append] at hlies
        refine ⟨hlies.trans ?_, hall⟩
        exact (List.suffix_cons item items).isInfix.trans (List.suffix_append _ _).isInfix

/-- A part of the list whose items all satisfy the predicate lies in a stretch. -/
theorem exists_stretch_of_infix {current items part : List α}
    (hpart : part <:+: current ++ items) (hall : ∀ item ∈ part, keep item = true) :
    ∃ stretch ∈ stretches keep current items, part <:+: stretch := by
  induction items generalizing current with
  | nil =>
    rw [List.append_nil] at hpart
    exact ⟨current, List.mem_singleton_self current, hpart⟩
  | cons item items ih =>
    rw [stretches]
    split_ifs with hkeep
    · rw [← List.singleton_append, ← List.append_assoc] at hpart
      exact ih hpart
    · have hitem : item ∉ part := fun hmem ↦ hkeep (hall item hmem)
      rcases infix_append_cons hitem hpart with hfront | hback
      · exact ⟨current, .head _, hfront⟩
      · obtain ⟨stretch, hmem, hlies⟩ := ih (List.nil_append items ▸ hback)
        exact ⟨stretch, .tail _ hmem, hlies⟩

end RustStd
