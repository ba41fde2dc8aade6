import Mathlib.Data.List.Basic
import Mathlib.Tactic.Common

/-!
# Balanced acquisitions and releases

A trace of acquisitions and releases of things of some kinds is balanced when nothing is released
that is not held, and nothing is held at the end. `heldAfter` counts what is held of one kind along
a trace, with no result after a release of nothing.
-/

set_option autoImplicit false
set_option relaxedAutoImplicit false

namespace Runs

/-- What a program does with the things that it holds. -/
inductive Hold (κ : Type) where
  | acquire (kind : κ)
  | release (kind : κ)
  deriving DecidableEq

variable {κ : Type} [DecidableEq κ]

/-- How many things of a kind are held after an action. Nothing cannot be released. -/
def Hold.count (kind : κ) (held : ℕ) : Hold κ → Option ℕ
  | .acquire other => some (if other = kind then held + 1 else held)
  | .release other =>
    if other = kind then (if held = 0 then none else some (held - 1)) else some held

/-- How many things of a kind are held after a trace, from a number that is held before. -/
def heldAfter (kind : κ) (held : ℕ) (trace : List (Hold κ)) : Option ℕ :=
  trace.foldlM (fun held action ↦ action.count kind held) held

theorem heldAfter_nil (kind : κ) (held : ℕ) : heldAfter kind held [] = some held := rfl

theorem heldAfter_cons (kind : κ) (held : ℕ) (action : Hold κ) (trace : List (Hold κ)) :
    heldAfter kind held (action :: trace) =
      (action.count kind held).bind fun reached ↦ heldAfter kind reached trace := rfl

/-- A trace goes on from what is held after its first part. -/
theorem heldAfter_append (kind : κ) (held : ℕ) (first second : List (Hold κ)) :
    heldAfter kind held (first ++ second) =
      (heldAfter kind held first).bind fun reached ↦ heldAfter kind reached second :=
  List.foldlM_append

/-- Everything that was acquired has been released, and nothing else. -/
def Balanced (trace : List (Hold κ)) : Prop :=
  ∀ kind, heldAfter kind 0 trace = some 0

theorem balanced_nil : Balanced ([] : List (Hold κ)) :=
  fun _ ↦ rfl

/-- Balanced traces one after another are balanced. -/
theorem Balanced.append {first second : List (Hold κ)} (hfirst : Balanced first)
    (hsecond : Balanced second) : Balanced (first ++ second) := by
  intro kind
  rw [heldAfter_append, hfirst kind]
  exact hsecond kind

theorem heldAfter_map_acquire (kind : κ) (held : ℕ) (things : List κ) :
    heldAfter kind held (things.map .acquire) = some (held + things.count kind) := by
  induction things generalizing held with
  | nil => rfl
  | cons thing things ih =>
    rw [List.map_cons, heldAfter_cons, Hold.count, Option.bind_some, ih, List.count_cons]
    by_cases hkind : thing = kind
    · simp [hkind, Nat.add_comm, Nat.add_left_comm]
    · simp [hkind]

theorem heldAfter_map_release (kind : κ) (held : ℕ) (things : List κ) :
    heldAfter kind (held + things.count kind) (things.map .release) = some held := by
  induction things with
  | nil => rfl
  | cons thing things ih =>
    rw [List.map_cons, heldAfter_cons, Hold.count, List.count_cons]
    by_cases hkind : thing = kind
    · simpa [hkind, ← Nat.add_assoc] using ih
    · simpa [hkind] using ih

/-- Things that are first all acquired and then all released. -/
theorem balanced_acquire_release (things : List κ) :
    Balanced (things.map .acquire ++ things.map .release) := by
  intro kind
  rw [heldAfter_append, heldAfter_map_acquire, Option.bind_some]
  exact heldAfter_map_release kind 0 things

end Runs
