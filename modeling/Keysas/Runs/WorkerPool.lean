import Mathlib.Algebra.BigOperators.Group.List.Basic
import Mathlib.Algebra.Ring.Nat
import Mathlib.Data.List.Basic
import Mathlib.Tactic.Common

/-!
# Pools of workers

A pool is a list of workers that only grows at its end, so that the number of a worker does not
change. Between two steps of a system one worker changes, or one is added.

`EachWorker property pool` says that a property of a number and a worker holds throughout the pool.
`EachWorker.set` and `EachWorker.push` are the rules by which it survives a step: only the worker
that changed, or the new one, has to be looked at, and the others when the property has changed.
-/

set_option autoImplicit false
set_option relaxedAutoImplicit false

namespace Runs

variable {ω : Type*}

/-- The property holds of every worker together with its number. -/
def EachWorker (property : ℕ → ω → Prop) (pool : List ω) : Prop :=
  ∀ index worker, pool[index]? = some worker → property index worker

theorem eachWorker_nil (property : ℕ → ω → Prop) : EachWorker property [] := by
  intro index worker hworker
  cases hworker

theorem EachWorker.mono {property weaker : ℕ → ω → Prop} {pool : List ω}
    (heach : EachWorker property pool)
    (hweaker : ∀ index worker, pool[index]? = some worker → property index worker →
      weaker index worker) :
    EachWorker weaker pool :=
  fun index worker hworker ↦ hweaker index worker hworker (heach index worker hworker)

/-- The number of a changed worker has the new worker, every other number what it had. -/
theorem getElem?_set_eq_some_iff {pool : List ω} {changed index : ℕ} {before after worker : ω}
    (hbefore : pool[changed]? = some before) :
    (pool.set changed after)[index]? = some worker ↔
      (index = changed ∧ worker = after) ∨ (index ≠ changed ∧ pool[index]? = some worker) := by
  obtain ⟨hlength, -⟩ := List.getElem?_eq_some_iff.mp hbefore
  by_cases hindex : index = changed
  · subst hindex
    simp [hlength, eq_comm]
  · simp [List.getElem?_set_ne (Ne.symm hindex), hindex]

/-- After one worker has changed, only that one has to be looked at, when the property survives at
the others. -/
theorem EachWorker.set {property next : ℕ → ω → Prop} {pool : List ω} {changed : ℕ}
    {before after : ω} (heach : EachWorker property pool) (hbefore : pool[changed]? = some before)
    (hafter : next changed after)
    (hothers : ∀ index worker, index ≠ changed → pool[index]? = some worker →
      property index worker → next index worker) :
    EachWorker next (pool.set changed after) := by
  intro index worker hworker
  rcases (getElem?_set_eq_some_iff hbefore).mp hworker with ⟨rfl, rfl⟩ | ⟨hindex, hworker⟩
  · exact hafter
  · exact hothers index worker hindex hworker (heach index worker hworker)

/-- After a worker has been added, only the new one has to be looked at. -/
theorem EachWorker.push {property : ℕ → ω → Prop} {pool : List ω} {added : ω}
    (heach : EachWorker property pool) (hadded : property pool.length added) :
    EachWorker property (pool ++ [added]) := by
  intro index worker hworker
  rcases Nat.lt_trichotomy index pool.length with hlength | rfl | hlength
  · rw [List.getElem?_append_left hlength] at hworker
    exact heach index worker hworker
  · rw [List.getElem?_concat_length] at hworker
    exact Option.some.inj hworker ▸ hadded
  · rw [List.getElem?_eq_none (by simp; omega)] at hworker
    cases hworker

/-- A change of a worker that keeps what is looked at of it keeps the list of that. -/
theorem map_set_of_eq {α : Type*} {pool : List ω} {changed : ℕ} {before after : ω} {view : ω → α}
    (hbefore : pool[changed]? = some before) (hview : view after = view before) :
    (pool.set changed after).map view = pool.map view := by
  rw [List.map_set, hview]
  apply List.ext_getElem?
  intro index
  by_cases hindex : changed = index
  · subst hindex
    rw [List.getElem?_map, hbefore]
    obtain ⟨hlength, -⟩ := List.getElem?_eq_some_iff.mp hbefore
    simp [hlength]
  · rw [List.getElem?_set_ne hindex]

/-- When a changed worker has less to do, the pool has less to do. -/
theorem sum_map_set_lt {pool : List ω} {changed : ℕ} {before after : ω} {weight : ω → ℕ}
    (hbefore : pool[changed]? = some before) (hweight : weight after < weight before) :
    ((pool.set changed after).map weight).sum < (pool.map weight).sum := by
  induction pool generalizing changed with
  | nil => cases hbefore
  | cons worker pool ih =>
    cases changed with
    | zero =>
      obtain rfl : worker = before := Option.some.inj hbefore
      rw [List.set_cons_zero, List.map_cons, List.map_cons, List.sum_cons, List.sum_cons]
      exact Nat.add_lt_add_right hweight _
    | succ changed =>
      rw [List.set_cons_succ, List.map_cons, List.map_cons, List.sum_cons, List.sum_cons]
      exact Nat.add_lt_add_left (ih hbefore) _

end Runs
