import Keysas.Runs.TracedProgram
import Mathlib.Logic.Function.Basic

/-!
# Ownership of memory

A program acquires things, each with a capacity, touches a thing at an index, and releases things.
`Holdings` is what is held at a moment, with the capacities. A trace is safe when nothing is
acquired that is held, nothing is touched or released that is not, and nothing is touched beyond
its capacity: `holdingsAfter` has a result exactly then, which is what is held at the end.

`Respects` says of a program that it is safe and ends in a postcondition on its value, its state and
what it then holds. Its rules take a program apart, one statement at a time. `allocate` is a source
of things with new names, `Fresh` what is known about the names that were not given away yet.
-/

set_option autoImplicit false
set_option relaxedAutoImplicit false

namespace Runs

/-- What a program does with its things. -/
inductive Access (κ : Type) where
  | acquire (thing : κ) (capacity : ℕ)
  | touch (thing : κ) (index : ℕ)
  | release (thing : κ)
  deriving DecidableEq

/-- What is held, with the capacities. -/
abbrev Holdings (κ : Type) :=
  κ → Option ℕ

section Traces

variable {κ : Type} [DecidableEq κ]

/-- What is held after one access, when it is safe. -/
def Access.apply (held : Holdings κ) : Access κ → Option (Holdings κ)
  | .acquire thing capacity =>
    if held thing = none then some (Function.update held thing (some capacity)) else none
  | .touch thing index =>
    if (held thing).any (index < ·) then some held else none
  | .release thing =>
    if (held thing).isSome then some (Function.update held thing none) else none

/-- What is held after a trace, when it is safe. -/
def holdingsAfter (held : Holdings κ) (trace : List (Access κ)) : Option (Holdings κ) :=
  trace.foldlM Access.apply held

theorem holdingsAfter_append (held : Holdings κ) (first second : List (Access κ)) :
    holdingsAfter held (first ++ second) =
      (holdingsAfter held first).bind fun reached ↦ holdingsAfter reached second :=
  List.foldlM_append

end Traces

/-! ### Programs -/

section Programs

variable {κ σ ρ α β : Type} [DecidableEq κ]

/-- The program is safe from what is held, does not return early, and ends in the postcondition. -/
def Respects (program : Program (Access κ) σ ρ α) (start : σ) (held : Holdings κ)
    (post : α → σ → Holdings κ → Prop) : Prop :=
  ∃ value after, (program.run start).value = .ok value ∧
    holdingsAfter held (program.run start).trace = some after ∧
    post value (program.run start).state after

variable {start : σ} {held : Holdings κ}

theorem Respects.mono {program : Program (Access κ) σ ρ α} {post weaker : α → σ → Holdings κ → Prop}
    (hrespects : Respects program start held post)
    (hweaker : ∀ value reached after, post value reached after → weaker value reached after) :
    Respects program start held weaker := by
  obtain ⟨value, after, hvalue, hafter, hpost⟩ := hrespects
  exact ⟨value, after, hvalue, hafter, hweaker _ _ _ hpost⟩

theorem respects_pure {value : α} {post : α → σ → Holdings κ → Prop}
    (hpost : post value start held) :
    Respects (pure value : Program (Access κ) σ ρ α) start held post :=
  ⟨value, held, rfl, rfl, hpost⟩

/-- A sequence ends where its second part ends from each end of its first part. -/
theorem Respects.bind {first : Program (Access κ) σ ρ α} {second : α → Program (Access κ) σ ρ β}
    {middle : α → σ → Holdings κ → Prop} {post : β → σ → Holdings κ → Prop}
    (hfirst : Respects first start held middle)
    (hsecond : ∀ value reached after, middle value reached after →
      Respects (second value) reached after post) :
    Respects (first >>= second) start held post := by
  obtain ⟨value, reached, hvalue, hreached, hmiddle⟩ := hfirst
  obtain ⟨result, after, hresult, hafter, hpost⟩ := hsecond _ _ _ hmiddle
  rcases hrun : first.run start with ⟨trace, state, outcome⟩
  rw [hrun] at hvalue hreached hresult hafter hpost
  obtain rfl : outcome = .ok value := hvalue
  have hbind : (first >>= second).run start = ((second value).run state).after trace := by
    rw [Program.run_bind, hrun]
  refine ⟨result, after, by rw [hbind]; exact hresult, ?_, by rw [hbind]; exact hpost⟩
  rw [hbind, Ending.trace_after, holdingsAfter_append, hreached]
  exact hafter

theorem respects_get_bind {second : σ → Program (Access κ) σ ρ β} {post : β → σ → Holdings κ → Prop}
    (hsecond : Respects (second start) start held post) :
    Respects (Program.get >>= second) start held post :=
  hsecond

theorem respects_touch {thing : κ} {index capacity : ℕ} (hheld : held thing = some capacity)
    (hindex : index < capacity) :
    Respects (Program.emit (.touch thing index) : Program (Access κ) σ ρ Unit) start held
      fun _ reached after ↦ reached = start ∧ after = held :=
  ⟨(), held, rfl, by simp [holdingsAfter, Access.apply, hheld, hindex], rfl, rfl⟩

theorem respects_release {thing : κ} {capacity : ℕ} (hheld : held thing = some capacity) :
    Respects (Program.emit (.release thing) : Program (Access κ) σ ρ Unit) start held
      fun _ reached after ↦ reached = start ∧ after = Function.update held thing none :=
  ⟨(), _, rfl, by simp [holdingsAfter, Access.apply, hheld], rfl, rfl⟩

theorem respects_touch_bind {thing : κ} {index capacity : ℕ}
    {second : Unit → Program (Access κ) σ ρ β} {post : β → σ → Holdings κ → Prop}
    (hheld : held thing = some capacity) (hindex : index < capacity)
    (hsecond : Respects (second ()) start held post) :
    Respects (Program.emit (.touch thing index) >>= second) start held post := by
  refine (respects_touch hheld hindex).bind ?_
  rintro _ _ _ ⟨rfl, rfl⟩
  exact hsecond

theorem respects_release_bind {thing : κ} {capacity : ℕ}
    {second : Unit → Program (Access κ) σ ρ β} {post : β → σ → Holdings κ → Prop}
    (hheld : held thing = some capacity)
    (hsecond : Respects (second ()) start (Function.update held thing none) post) :
    Respects (Program.emit (.release thing) >>= second) start held post := by
  refine (respects_release hheld).bind ?_
  rintro _ _ _ ⟨rfl, rfl⟩
  exact hsecond

end Programs

/-! ### New names -/

section Names

variable {κ ρ : Type}

/-- Ask for a new thing of a kind. The state counts the calls. -/
def allocate (grants : ℕ → Bool) (kind : κ) (capacity : ℕ) :
    Program (Access (κ × ℕ)) ℕ ρ (Option (κ × ℕ)) := do
  let call ← Program.get
  Program.modify (· + 1)
  if grants call then
    Program.emit (.acquire (kind, call) capacity)
    return some (kind, call)
  else
    return none

/-- No thing has a name that was not given away yet. -/
def Fresh (held : Holdings (κ × ℕ)) (call : ℕ) : Prop :=
  ∀ kind later, call ≤ later → held (kind, later) = none

theorem Fresh.mono {held : Holdings (κ × ℕ)} {call later : ℕ} (hfresh : Fresh held call)
    (hlater : call ≤ later) : Fresh held later :=
  fun kind other hother ↦ hfresh kind other (Nat.le_trans hlater hother)

variable [DecidableEq κ]

theorem Fresh.update {held : Holdings (κ × ℕ)} {call : ℕ} (hfresh : Fresh held call) (kind : κ)
    (capacity : ℕ) : Fresh (Function.update held (kind, call) (some capacity)) (call + 1) := by
  intro other later hlater
  rw [Function.update_of_ne (fun heq ↦ absurd (congrArg Prod.snd heq) (by dsimp only; omega))]
  exact hfresh other later (by omega)

/-- What is held keeps its capacity when a new thing is acquired. -/
theorem Fresh.update_of_held {held : Holdings (κ × ℕ)} {call : ℕ} (hfresh : Fresh held call)
    {thing : κ × ℕ} {capacity : ℕ} (hheld : held thing = some capacity) (kind : κ)
    (other : Option ℕ) : Function.update held (kind, call) other thing = some capacity := by
  rw [Function.update_of_ne ?_, hheld]
  rintro rfl
  rw [hfresh kind call (Nat.le_refl call)] at hheld
  exact nomatch hheld

/-- A new thing that is released again. -/
theorem Fresh.restore {held : Holdings (κ × ℕ)} {call : ℕ} (hfresh : Fresh held call) (kind : κ)
    (capacity : Option ℕ) :
    Function.update (Function.update held (kind, call) capacity) (kind, call) none = held := by
  rw [Function.update_idem, Function.update_eq_self_iff]
  exact (hfresh kind call (Nat.le_refl call)).symm

/-- A new thing is held, or there is none. -/
theorem respects_allocate {grants : ℕ → Bool} {kind : κ} {capacity start : ℕ}
    {held : Holdings (κ × ℕ)} (hfresh : Fresh held start) :
    Respects (allocate grants kind capacity : Program (Access (κ × ℕ)) ℕ ρ _) start held
      fun value reached after ↦ reached = start + 1 ∧
        (value = none ∧ after = held ∨ value = some (kind, start) ∧
          after = Function.update held (kind, start) (some capacity)) := by
  unfold Respects allocate
  simp only [Program.run_get_bind, Program.run_modify_bind, Program.run_ite]
  split_ifs with hgrants
  · refine ⟨some (kind, start), _, rfl, ?_, rfl, .inr ⟨rfl, rfl⟩⟩
    simp [holdingsAfter, Access.apply, hfresh kind start (Nat.le_refl start)]
  · exact ⟨none, held, rfl, rfl, rfl, .inl ⟨rfl, rfl⟩⟩

theorem respects_allocate_bind {β : Type} {grants : ℕ → Bool} {kind : κ} {capacity start : ℕ}
    {held : Holdings (κ × ℕ)} (hfresh : Fresh held start)
    {second : Option (κ × ℕ) → Program (Access (κ × ℕ)) ℕ ρ β}
    {post : β → ℕ → Holdings (κ × ℕ) → Prop}
    (hnone : Respects (second none) (start + 1) held post)
    (hsome : Respects (second (some (kind, start))) (start + 1)
      (Function.update held (kind, start) (some capacity)) post) :
    Respects (allocate grants kind capacity >>= second) start held post := by
  refine (respects_allocate hfresh).bind ?_
  rintro _ _ _ ⟨rfl, ⟨rfl, rfl⟩ | ⟨rfl, rfl⟩⟩
  · exact hnone
  · exact hsome

/-- The program leaves what is held as it was, and only makes calls. -/
def Neutral {α : Type} (program : Program (Access (κ × ℕ)) ℕ ρ α) (start : ℕ)
    (held : Holdings (κ × ℕ)) (post : α → Prop) : Prop :=
  Respects program start held fun value reached after ↦
    after = held ∧ start ≤ reached ∧ post value

/-- A neutral program is one for whoever has made calls before it, too. -/
theorem Neutral.later {α : Type} {program : Program (Access (κ × ℕ)) ℕ ρ α} {start later : ℕ}
    {held : Holdings (κ × ℕ)} {post : α → Prop} (hneutral : Neutral program later held post)
    (hlater : start ≤ later) :
    Respects program later held fun value reached after ↦
      after = held ∧ start ≤ reached ∧ post value := by
  refine hneutral.mono ?_
  rintro value reached _ ⟨rfl, hreached, hpost⟩
  exact ⟨rfl, Nat.le_trans hlater hreached, hpost⟩

end Names

end Runs
