import Mathlib.Data.List.Basic
import Mathlib.Tactic.Common

/-!
# Runs with a history

A machine is a total step function that turns a state and an input into the next state and an
output. A run is what has happened so far: the list of inputs with the outputs they gave, oldest
first, and the state reached. Each step of a run satisfies a guard, which may speak about the whole
history, the state before the step and the input, so that one inductive type covers the runs of a
program, the runs under an assumption on every step, and the interleavings of a protocol whose steps
are enabled in some states only.

`Run.invariant` is the induction rule: what holds of the start and is kept by one step holds in
every state reached, together with its history. `Run.split` finds the state in which an entry of
the history was made, and `Run.forall_entries` lifts a property of one step to every entry.
`execute` computes the run of a list of inputs, and `run_execute` says that it is one when every
input is admitted. `forall_prefix_iff_admits` says that a property survives every step of a list of
inputs exactly when each input meets the condition of one step;
`forall_prefix_iff_admits_of_invariant` does so for a property that an invariant implies, and
`forall_prefix_iff_admits_of_assumed` for inputs that are known to meet another guard.
-/

set_option autoImplicit false
set_option relaxedAutoImplicit false

namespace Runs

variable {σ ι ο : Type*}

/-- The runs of a step function from `start` whose steps satisfy `guard`. -/
inductive Run (step : σ → ι → σ × ο) (guard : List (ι × ο) → σ → ι → Prop) (start : σ) :
    List (ι × ο) → σ → Prop
  /-- Nothing has happened. -/
  | nil : Run step guard start [] start
  /-- One more admitted input. -/
  | next {history : List (ι × ο)} {state : σ} (input : ι)
      (before : Run step guard start history state)
      (admitted : guard history state input) :
      Run step guard start (history ++ [(input, (step state input).2)]) (step state input).1

section Rules

variable {step : σ → ι → σ × ο} {guard : List (ι × ο) → σ → ι → Prop} {start : σ}

/-- What holds at the start and is kept by every admitted step holds of every run. -/
theorem Run.invariant {invariant : List (ι × ο) → σ → Prop} (hstart : invariant [] start)
    (hstep : ∀ history state input, Run step guard start history state → invariant history state →
      guard history state input →
        invariant (history ++ [(input, (step state input).2)]) (step state input).1)
    {history : List (ι × ο)} {state : σ} (hrun : Run step guard start history state) :
    invariant history state := by
  induction hrun with
  | nil => exact hstart
  | next input before admitted ih => exact hstep _ _ input before ih admitted

/-- A property of states alone that holds at the start and is kept by every admitted step from a
state that is reached holds in every state reached. -/
theorem Run.holds_reached {property : σ → Prop} (hstart : property start)
    (hstep : ∀ history state input, Run step guard start history state → property state →
      guard history state input → property (step state input).1)
    {history : List (ι × ο)} {state : σ} (hrun : Run step guard start history state) :
    property state :=
  Run.invariant hstart hstep hrun

/-- As `Run.holds_reached`, for a step that does not need to know that its state is reached. -/
theorem Run.holds {property : σ → Prop} (hstart : property start)
    (hstep : ∀ history state input, property state → guard history state input →
      property (step state input).1)
    {history : List (ι × ο)} {state : σ} (hrun : Run step guard start history state) :
    property state :=
  hrun.holds_reached hstart fun history state input _ ↦ hstep history state input

/-- A run under a guard is a run under every weaker one. -/
theorem Run.weaken {weaker : List (ι × ο) → σ → ι → Prop}
    (hguard : ∀ history state input, guard history state input → weaker history state input)
    {history : List (ι × ο)} {state : σ} (hrun : Run step guard start history state) :
    Run step weaker start history state := by
  induction hrun with
  | nil => exact .nil
  | next input before admitted ih => exact .next input ih (hguard _ _ input admitted)

/-- Every entry of a history was made from the state that the run had reached with what stands
before it. -/
theorem Run.split {history : List (ι × ο)} {state : σ}
    (hrun : Run step guard start history state) {front back : List (ι × ο)} {entry : ι × ο}
    (hhistory : history = front ++ entry :: back) :
    ∃ reached, Run step guard start front reached ∧ guard front reached entry.1 ∧
      entry.2 = (step reached entry.1).2 := by
  induction hrun generalizing back with
  | nil => simp at hhistory
  | @next history state input before admitted ih =>
    rcases List.eq_nil_or_concat back with rfl | ⟨others, last, rfl⟩
    · obtain ⟨rfl, rfl⟩ := List.append_inj' hhistory rfl |>.imp_right List.singleton_inj.mp
      exact ⟨state, before, admitted, rfl⟩
    · have happended : history ++ [(input, (step state input).2)] =
          (front ++ entry :: others) ++ [last] := by simpa using hhistory
      exact ih (List.append_inj' happended rfl).1

/-- What every admitted step gives holds of every entry of every history. -/
theorem Run.forall_entries {property : ι → ο → Prop}
    (hstep : ∀ history state input, Run step guard start history state →
      guard history state input → property input (step state input).2)
    {history : List (ι × ο)} {state : σ} (hrun : Run step guard start history state) :
    ∀ entry ∈ history, property entry.1 entry.2 := by
  intro entry hentry
  obtain ⟨front, back, hhistory⟩ := List.append_of_mem hentry
  obtain ⟨reached, hreached, hguard, houtput⟩ := hrun.split hhistory
  rw [houtput]
  exact hstep front reached entry.1 hreached hguard

end Rules

/-! ### Executing a list of inputs -/

/-- The history and the last state of a list of inputs. -/
def execute (step : σ → ι → σ × ο) : σ → List ι → List (ι × ο) × σ
  | state, [] => ([], state)
  | state, input :: inputs =>
    let after := execute step (step state input).1 inputs
    ((input, (step state input).2) :: after.1, after.2)

/-- A history of an execution has the inputs of the list. -/
theorem map_fst_execute (step : σ → ι → σ × ο) (state : σ) (inputs : List ι) :
    (execute step state inputs).1.map Prod.fst = inputs := by
  induction inputs generalizing state with
  | nil => rfl
  | cons input inputs ih => rw [execute, List.map_cons, ih]

/-- Every input of the list is admitted when its turn comes. -/
def Admits (step : σ → ι → σ × ο) (guard : List (ι × ο) → σ → ι → Prop) :
    List (ι × ο) → σ → List ι → Prop
  | _, _, [] => True
  | history, state, input :: inputs =>
    guard history state input ∧
      Admits step guard (history ++ [(input, (step state input).2)]) (step state input).1 inputs

instance decidableAdmits (step : σ → ι → σ × ο) (guard : List (ι × ο) → σ → ι → Prop)
    [∀ history state input, Decidable (guard history state input)] :
    ∀ history state inputs, Decidable (Admits step guard history state inputs)
  | _, _, [] => .isTrue trivial
  | history, state, input :: inputs =>
    have := decidableAdmits step guard (history ++ [(input, (step state input).2)])
      (step state input).1 inputs
    inferInstanceAs (Decidable (_ ∧ _))

/-- A guard that always holds admits every list of inputs. -/
theorem admits_of_forall {step : σ → ι → σ × ο} {guard : List (ι × ο) → σ → ι → Prop}
    (hguard : ∀ history state input, guard history state input) (history : List (ι × ο))
    (state : σ) (inputs : List ι) : Admits step guard history state inputs := by
  induction inputs generalizing history state with
  | nil => trivial
  | cons input inputs ih => exact ⟨hguard _ _ _, ih _ _⟩

/-- Executing admitted inputs after a run prolongs it. -/
theorem Run.extend {step : σ → ι → σ × ο} {guard : List (ι × ο) → σ → ι → Prop} {start : σ}
    {inputs : List ι} {history : List (ι × ο)} {state : σ}
    (hrun : Run step guard start history state) (hadmits : Admits step guard history state inputs) :
    Run step guard start (history ++ (execute step state inputs).1)
      (execute step state inputs).2 := by
  induction inputs generalizing history state with
  | nil => simpa [execute] using hrun
  | cons input inputs ih =>
    have hnext := ih (hrun.next input hadmits.1) hadmits.2
    rw [List.append_assoc, List.singleton_append] at hnext
    exact hnext

/-- A list of admitted inputs executes to a run. -/
theorem run_execute {step : σ → ι → σ × ο} {guard : List (ι × ο) → σ → ι → Prop} {start : σ}
    (inputs : List ι) (hadmits : Admits step guard [] start inputs) :
    Run step guard start (execute step start inputs).1 (execute step start inputs).2 :=
  Run.extend .nil hadmits

/-- The inputs of two lists, one after the other. -/
theorem execute_append (step : σ → ι → σ × ο) (state : σ) (first second : List ι) :
    execute step state (first ++ second) =
      ((execute step state first).1 ++ (execute step (execute step state first).2 second).1,
        (execute step (execute step state first).2 second).2) := by
  induction first generalizing state with
  | nil => rfl
  | cons input inputs ih => simp only [List.cons_append, execute, ih]

/-- Two lists of inputs are admitted one after the other. -/
theorem admits_append {step : σ → ι → σ × ο} {guard : List (ι × ο) → σ → ι → Prop}
    {history : List (ι × ο)} {state : σ} {first second : List ι} :
    Admits step guard history state (first ++ second) ↔
      Admits step guard history state first ∧
        Admits step guard (history ++ (execute step state first).1)
          (execute step state first).2 second := by
  induction first generalizing history state with
  | nil => simp [Admits, execute]
  | cons input inputs ih =>
    simp only [List.cons_append, Admits, execute, ih, and_assoc, List.append_assoc,
      List.nil_append]

/-- A property holds along a list of inputs exactly when each of them is admitted, for a guard that
says of one step whether it holds after it. Assumes: the inputs meet a guard under which this is so,
and an invariant that implies the property holds at the start and is kept by admitted steps. -/
theorem forall_prefix_iff_admits_of_assumed {step : σ → ι → σ × ο}
    {assumed guard : List (ι × ο) → σ → ι → Prop} {invariant property : σ → Prop}
    (hinvariant : ∀ state, invariant state → property state)
    (hstep : ∀ history state input, assumed history state input → invariant state →
      (property (step state input).1 ↔ guard history state input))
    (hkeeps : ∀ history state input, assumed history state input → invariant state →
      guard history state input → invariant (step state input).1)
    {inputs : List ι} {history : List (ι × ο)} {state : σ}
    (hassumed : Admits step assumed history state inputs) (hstart : invariant state) :
    (∀ front, front <+: inputs → property (execute step state front).2) ↔
      Admits step guard history state inputs := by
  induction inputs generalizing history state with
  | nil =>
    refine ⟨fun _ ↦ trivial, fun _ front hfront ↦ ?_⟩
    rw [List.prefix_nil.mp hfront]
    exact hinvariant state hstart
  | cons input inputs ih =>
    have hnext := fun hguard ↦ ih hassumed.2 (hkeeps history state input hassumed.1 hstart hguard)
    constructor
    · intro hholds
      have hone : property (step state input).1 := hholds [input] (by simp)
      have hguard := (hstep history state input hassumed.1 hstart).mp hone
      refine ⟨hguard, (hnext hguard).mp fun front hfront ↦ ?_⟩
      exact hholds (input :: front) (List.cons_prefix_cons.mpr ⟨rfl, hfront⟩)
    · rintro ⟨hguard, hadmits⟩ front hfront
      cases front with
      | nil => exact hinvariant state hstart
      | cons first front =>
        obtain ⟨rfl, hrest⟩ := List.cons_prefix_cons.mp hfront
        exact (hnext hguard).mpr hadmits front hrest

/-- As `forall_prefix_iff_admits_of_assumed`, for a guard that speaks about every step. -/
theorem forall_prefix_iff_admits_of_invariant {step : σ → ι → σ × ο}
    {guard : List (ι × ο) → σ → ι → Prop} {invariant property : σ → Prop}
    (hinvariant : ∀ state, invariant state → property state)
    (hstep : ∀ history state input, invariant state →
      (property (step state input).1 ↔ guard history state input))
    (hkeeps : ∀ history state input, invariant state → guard history state input →
      invariant (step state input).1)
    {inputs : List ι} {history : List (ι × ο)} {state : σ} (hstart : invariant state) :
    (∀ front, front <+: inputs → property (execute step state front).2) ↔
      Admits step guard history state inputs := by
  have hassumed : Admits step (fun _ _ _ ↦ True) history state inputs :=
    admits_of_forall (fun _ _ _ ↦ trivial) history state inputs
  exact forall_prefix_iff_admits_of_assumed hinvariant
    (fun history state input _ ↦ hstep history state input)
    (fun history state input _ ↦ hkeeps history state input) hassumed hstart

/-- What holds of a state is kept along a list of inputs exactly when each of them is admitted, for
a guard that says of one step whether it is kept. Assumes: it holds at the start. -/
theorem forall_prefix_iff_admits {step : σ → ι → σ × ο} {guard : List (ι × ο) → σ → ι → Prop}
    {property : σ → Prop}
    (hstep : ∀ history state input, property state →
      (property (step state input).1 ↔ guard history state input))
    {inputs : List ι} {history : List (ι × ο)} {state : σ} (hstart : property state) :
    (∀ front, front <+: inputs → property (execute step state front).2) ↔
      Admits step guard history state inputs :=
  forall_prefix_iff_admits_of_invariant (fun _ hstate ↦ hstate) hstep
    (fun history state input hstate ↦ (hstep history state input hstate).mpr) hstart

end Runs
