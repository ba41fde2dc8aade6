import Mathlib.Data.List.Basic
import Mathlib.Tactic.Common

/-!
# Programs with early return and a trace

A program changes a state, leaves a trace of what it did to its surroundings, and either ends with a
value or returns an error early. Neither the state nor the trace is undone by an early return. This
is the shape of a function whose statements end in the `?` operator.

`Program` is a monad, so that such a function is written as it stands in a `do` block. `run_bind`
says what a sequence of two programs does, and the equations after it execute a block symbolically,
one statement at a time. `Establishes` is partial correctness: its rules take a postcondition
backwards through a block, one statement at a time. `Ends` says that a program does not return
early, `Reaches` that it ends in a postcondition, which its rules turn into a condition on the
start, and `Leaves` speaks about early returns, too. `Keeps` carries an invariant of the state
through a program. `Emits` bounds what a program puts in its trace, also when it returns early, by
rules of the same form.
-/

set_option autoImplicit false
set_option relaxedAutoImplicit false

namespace Runs

/-- What a program leaves behind: its trace, the state, and its value or error. -/
structure Ending (ε σ ρ α : Type) where
  /-- What the program did to its surroundings, oldest first. -/
  trace : List ε
  /-- The state at the end. -/
  state : σ
  /-- The value, or the error with which the program returned early. -/
  value : Except ρ α

/-- A program over states `σ` whose trace has entries in `ε` and whose errors are in `ρ`. -/
structure Program (ε σ ρ α : Type) where
  /-- Run the program from a state. -/
  run : σ → Ending ε σ ρ α

/-- An ending after more has happened before it. -/
def Ending.after {ε σ ρ α : Type} (front : List ε) (ending : Ending ε σ ρ α) : Ending ε σ ρ α :=
  { ending with trace := front ++ ending.trace }

section After

variable {ε σ ρ α : Type} (front : List ε) (ending : Ending ε σ ρ α)

@[simp] theorem Ending.trace_after : (ending.after front).trace = front ++ ending.trace := rfl

@[simp] theorem Ending.state_after : (ending.after front).state = ending.state := rfl

@[simp] theorem Ending.value_after : (ending.after front).value = ending.value := rfl

end After

namespace Program

variable {ε σ ρ α β : Type}

/-- The second program runs on the value and the state of the first, unless that returned early. -/
protected def bind (first : Program ε σ ρ α) (second : α → Program ε σ ρ β) :
    Program ε σ ρ β where
  run state :=
    match first.run state with
    | ⟨front, reached, .error error⟩ => ⟨front, reached, .error error⟩
    | ⟨front, reached, .ok value⟩ => ((second value).run reached).after front

instance : Monad (Program ε σ ρ) where
  pure value := ⟨fun state ↦ ⟨[], state, .ok value⟩⟩
  bind := Program.bind

/-- The current state. -/
def get : Program ε σ ρ σ := ⟨fun state ↦ ⟨[], state, .ok state⟩⟩

/-- Change the state. -/
def modify (change : σ → σ) : Program ε σ ρ Unit := ⟨fun state ↦ ⟨[], change state, .ok ()⟩⟩

/-- Add one entry to the trace. -/
def emit (entry : ε) : Program ε σ ρ Unit := ⟨fun state ↦ ⟨[entry], state, .ok ()⟩⟩

/-- The value of a fallible expression, or an early return. -/
def ofExcept (value : Except ρ α) : Program ε σ ρ α := ⟨fun state ↦ ⟨[], state, value⟩⟩

/-- An early return unless the condition holds. -/
def require (condition : Bool) (error : ρ) : Program ε σ ρ Unit :=
  ofExcept (if condition then .ok () else .error error)

/-- After an early return the handler goes on, from the state that was reached. -/
def handle {ρ' : Type} (body : Program ε σ ρ α) (handler : ρ → Program ε σ ρ' α) :
    Program ε σ ρ' α where
  run state :=
    match body.run state with
    | ⟨front, reached, .error error⟩ => ((handler error).run reached).after front
    | ⟨front, reached, .ok value⟩ => ⟨front, reached, .ok value⟩

/-- The program with its error converted. -/
def mapError {ρ' : Type} (convert : ρ → ρ') (program : Program ε σ ρ α) : Program ε σ ρ' α where
  run state :=
    let ending := program.run state
    ⟨ending.trace, ending.state, ending.value.mapError convert⟩

/-! ### Symbolic execution -/

@[simp] theorem run_pure (value : α) (state : σ) :
    (pure value : Program ε σ ρ α).run state = ⟨[], state, .ok value⟩ := rfl

@[simp] theorem run_modify (change : σ → σ) (state : σ) :
    (modify change : Program ε σ ρ Unit).run state = ⟨[], change state, .ok ()⟩ := rfl

@[simp] theorem run_emit (entry : ε) (state : σ) :
    (emit entry : Program ε σ ρ Unit).run state = ⟨[entry], state, .ok ()⟩ := rfl

@[simp] theorem run_ofExcept (value : Except ρ α) (state : σ) :
    (ofExcept value : Program ε σ ρ α).run state = ⟨[], state, value⟩ := rfl

theorem run_require (condition : Bool) (error : ρ) (state : σ) :
    (require condition error : Program ε σ ρ Unit).run state =
      ⟨[], state, if condition then .ok () else .error error⟩ := rfl

@[simp] theorem run_ite (condition : Prop) [Decidable condition] (first second : Program ε σ ρ α)
    (state : σ) :
    (if condition then first else second).run state =
      if condition then first.run state else second.run state := by
  split_ifs <;> rfl

theorem run_mapError {ρ' : Type} (convert : ρ → ρ') (program : Program ε σ ρ α) (state : σ) :
    (program.mapError convert).run state =
      ⟨(program.run state).trace, (program.run state).state,
        (program.run state).value.mapError convert⟩ := rfl

/-- A sequence runs its second part after its first, unless that returned early. -/
theorem run_bind (first : Program ε σ ρ α) (second : α → Program ε σ ρ β) (state : σ) :
    (first >>= second).run state =
      match first.run state with
      | ⟨front, reached, .error error⟩ => ⟨front, reached, .error error⟩
      | ⟨front, reached, .ok value⟩ => ((second value).run reached).after front := rfl

/-- The trace of a sequence is that of its first part and then that of its second. -/
theorem trace_bind (first : Program ε σ ρ α) (second : α → Program ε σ ρ β) (state : σ) :
    ((first >>= second).run state).trace =
      (first.run state).trace ++
        match (first.run state).value with
        | .error _ => []
        | .ok value => ((second value).run (first.run state).state).trace := by
  rw [run_bind]
  rcases first.run state with ⟨front, reached, error | value⟩
  · simp
  · rfl

@[simp] theorem run_get_bind (second : σ → Program ε σ ρ β) (state : σ) :
    (get >>= second).run state = (second state).run state := rfl

@[simp] theorem run_modify_bind (change : σ → σ) (second : Unit → Program ε σ ρ β) (state : σ) :
    (modify change >>= second).run state = (second ()).run (change state) := rfl

@[simp] theorem run_emit_bind (entry : ε) (second : Unit → Program ε σ ρ β) (state : σ) :
    (emit entry >>= second).run state = ((second ()).run state).after [entry] := rfl

@[simp] theorem run_ofExcept_ok_bind (value : α) (second : α → Program ε σ ρ β) (state : σ) :
    (ofExcept (.ok value) >>= second).run state = (second value).run state := rfl

@[simp] theorem run_ofExcept_error_bind (error : ρ) (second : α → Program ε σ ρ β) (state : σ) :
    (ofExcept (.error error) >>= second).run state = ⟨[], state, .error error⟩ := rfl

@[simp] theorem run_require_bind (condition : Bool) (error : ρ)
    (second : Unit → Program ε σ ρ β) (state : σ) :
    (require condition error >>= second).run state =
      if condition then (second ()).run state else ⟨[], state, .error error⟩ := by
  cases condition <;> rfl

/-- A block may be cut into programs at any statement. -/
protected theorem bind_assoc {γ : Type} (first : Program ε σ ρ α) (second : α → Program ε σ ρ β)
    (third : β → Program ε σ ρ γ) :
    first >>= second >>= third = first >>= fun value ↦ second value >>= third := by
  refine congrArg Program.mk (funext fun state ↦ ?_)
  show ((first >>= second) >>= third).run state = (first >>= fun value ↦ second value >>= third).run
    state
  simp only [run_bind]
  rcases first.run state with ⟨front, reached, error | value⟩
  · rfl
  dsimp only
  rcases (second value).run reached with ⟨middle, after, error | inner⟩
  · rfl
  · show Ending.after (front ++ middle) _ = Ending.after front (Ending.after middle _)
    rw [Ending.after, Ending.after, Ending.after, List.append_assoc]

protected theorem pure_bind (value : α) (second : α → Program ε σ ρ β) :
    pure value >>= second = second value := rfl

/-! ### Postconditions -/

/-- A program that does not return early ends with a trace, a state and a value that satisfy the
postcondition. -/
def Establishes (program : Program ε σ ρ α) (start : σ) (post : List ε → σ → α → Prop) : Prop :=
  ∀ value, (program.run start).value = .ok value →
    post (program.run start).trace (program.run start).state value

theorem Establishes.mono {program : Program ε σ ρ α} {start : σ}
    {post weaker : List ε → σ → α → Prop} (hpost : Establishes program start post)
    (hweaker : ∀ trace reached value, post trace reached value → weaker trace reached value) :
    Establishes program start weaker :=
  fun value hvalue ↦ hweaker _ _ _ (hpost value hvalue)

variable {start : σ} {post : List ε → σ → β → Prop}

@[simp] theorem establishes_pure_iff {value : β} :
    Establishes (pure value : Program ε σ ρ β) start post ↔ post [] start value := by
  simp [Establishes]

@[simp] theorem establishes_emit_iff {entry : ε} {post : List ε → σ → Unit → Prop} :
    Establishes (emit entry : Program ε σ ρ Unit) start post ↔ post [entry] start () := by
  constructor
  · exact fun hpost ↦ hpost () rfl
  · exact fun hpost _ _ ↦ hpost

@[simp] theorem establishes_modify_iff {change : σ → σ} {post : List ε → σ → Unit → Prop} :
    Establishes (modify change : Program ε σ ρ Unit) start post ↔ post [] (change start) () := by
  constructor
  · exact fun hpost ↦ hpost () rfl
  · exact fun hpost _ _ ↦ hpost

@[simp] theorem establishes_get_bind_iff {second : σ → Program ε σ ρ β} :
    Establishes (get >>= second) start post ↔ Establishes (second start) start post := by
  simp [Establishes]

@[simp] theorem establishes_modify_bind_iff {change : σ → σ} {second : Unit → Program ε σ ρ β} :
    Establishes (modify change >>= second) start post ↔
      Establishes (second ()) (change start) post := by
  simp [Establishes]

@[simp] theorem establishes_emit_bind_iff {entry : ε} {second : Unit → Program ε σ ρ β} :
    Establishes (emit entry >>= second) start post ↔
      Establishes (second ()) start fun trace ↦ post (entry :: trace) := by
  simp [Establishes]

@[simp] theorem establishes_require_bind_iff {condition : Bool} {error : ρ}
    {second : Unit → Program ε σ ρ β} :
    Establishes (require condition error >>= second) start post ↔
      (condition = true → Establishes (second ()) start post) := by
  cases condition <;> simp [Establishes]

@[simp] theorem establishes_require_iff {condition : Bool} {error : ρ}
    {post : List ε → σ → Unit → Prop} :
    Establishes (require condition error : Program ε σ ρ Unit) start post ↔
      (condition = true → post [] start ()) := by
  cases condition with
  | false => simp [Establishes, require]
  | true =>
    constructor
    · exact fun hpost _ ↦ hpost () rfl
    · exact fun hpost _ _ ↦ hpost rfl

/-- A sequence establishes what its second part establishes from wherever the first part ends. -/
theorem establishes_bind {first : Program ε σ ρ α} {second : α → Program ε σ ρ β}
    (hfirst : Establishes first start fun front reached value ↦
      Establishes (second value) reached fun trace ↦ post (front ++ trace)) :
    Establishes (first >>= second) start post := by
  intro result hresult
  unfold Establishes at hfirst
  rw [run_bind] at hresult ⊢
  rcases hrun : first.run start with ⟨front, reached, error | value⟩
  · rw [hrun] at hresult
    cases hresult
  · rw [hrun] at hresult hfirst
    exact hfirst value rfl result hresult

@[simp] theorem establishes_ofExcept_bind_iff {result : Except ρ α}
    {second : α → Program ε σ ρ β} :
    Establishes (ofExcept result >>= second) start post ↔
      ∀ value, result = .ok value → Establishes (second value) start post := by
  cases result with
  | error error => simp [Establishes]
  | ok value => simp [Establishes]

theorem establishes_mapError_iff {ρ' : Type} {convert : ρ → ρ'} {program : Program ε σ ρ β} :
    Establishes (program.mapError convert) start post ↔ Establishes program start post := by
  unfold Establishes
  rw [run_mapError]
  refine forall_congr' fun value ↦ ?_
  rcases (program.run start).value with error | result
  · exact iff_of_true nofun nofun
  · simp [Except.mapError]

/-! ### Ending -/

/-- The program does not return early. -/
def Ends (program : Program ε σ ρ α) (start : σ) : Prop :=
  ∃ value, (program.run start).value = .ok value

@[simp] theorem ends_pure {value : β} : Ends (pure value : Program ε σ ρ β) start :=
  ⟨value, rfl⟩

@[simp] theorem ends_emit {entry : ε} : Ends (emit entry : Program ε σ ρ Unit) start :=
  ⟨(), rfl⟩

@[simp] theorem ends_modify {change : σ → σ} : Ends (modify change : Program ε σ ρ Unit) start :=
  ⟨(), rfl⟩

@[simp] theorem ends_require_iff {condition : Bool} {error : ρ} :
    Ends (require condition error : Program ε σ ρ Unit) start ↔ condition = true := by
  cases condition <;> simp [Ends, require]

@[simp] theorem ends_get_bind_iff {second : σ → Program ε σ ρ β} :
    Ends (get >>= second) start ↔ Ends (second start) start := by
  simp [Ends]

@[simp] theorem ends_modify_bind_iff {change : σ → σ} {second : Unit → Program ε σ ρ β} :
    Ends (modify change >>= second) start ↔ Ends (second ()) (change start) := by
  simp [Ends]

@[simp] theorem ends_emit_bind_iff {entry : ε} {second : Unit → Program ε σ ρ β} :
    Ends (emit entry >>= second) start ↔ Ends (second ()) start := by
  simp [Ends]

@[simp] theorem ends_require_bind_iff {condition : Bool} {error : ρ}
    {second : Unit → Program ε σ ρ β} :
    Ends (require condition error >>= second) start ↔
      condition = true ∧ Ends (second ()) start := by
  cases condition <;> simp [Ends]

@[simp] theorem ends_ofExcept_bind_iff {result : Except ρ α} {second : α → Program ε σ ρ β} :
    Ends (ofExcept result >>= second) start ↔
      ∃ value, result = .ok value ∧ Ends (second value) start := by
  cases result <;> simp [Ends]

/-- A sequence ends when its first part does and its second part does from there. -/
theorem ends_bind {first : Program ε σ ρ α} {second : α → Program ε σ ρ β}
    (hfirst : Ends first start)
    (hsecond : Establishes first start fun _ reached value ↦ Ends (second value) reached) :
    Ends (first >>= second) start := by
  unfold Ends at hfirst ⊢
  unfold Establishes at hsecond
  obtain ⟨value, hvalue⟩ := hfirst
  obtain ⟨result, hresult⟩ := hsecond value hvalue
  refine ⟨result, ?_⟩
  rw [run_bind]
  rcases hrun : first.run start with ⟨front, reached, error | inner⟩
  · rw [hrun] at hvalue
    cases hvalue
  · rw [hrun] at hvalue hresult
    obtain rfl := Except.ok.inj hvalue
    exact hresult

/-- A sequence ends exactly when its first part does and its second part does from there. -/
theorem ends_bind_iff {first : Program ε σ ρ α} {second : α → Program ε σ ρ β} :
    Ends (first >>= second) start ↔
      Ends first start ∧
        Establishes first start fun _ reached value ↦ Ends (second value) reached := by
  refine ⟨fun hends ↦ ?_, fun hboth ↦ ends_bind hboth.1 hboth.2⟩
  unfold Ends at hends ⊢
  unfold Establishes
  rw [run_bind] at hends
  rcases hrun : first.run start with ⟨front, reached, error | value⟩
  · rw [hrun] at hends
    simp at hends
  · rw [hrun] at hends
    refine ⟨⟨value, rfl⟩, ?_⟩
    rintro other hother
    obtain rfl := Except.ok.inj hother
    exact hends

theorem ends_mapError_iff {ρ' : Type} {convert : ρ → ρ'} {program : Program ε σ ρ α} :
    Ends (program.mapError convert) start ↔ Ends program start := by
  unfold Ends
  rw [run_mapError]
  rcases (program.run start).value with error | result
  · exact iff_of_false (by simp [Except.mapError]) (by simp)
  · simp [Except.mapError]

/-! ### Ending in a postcondition -/

/-- The program does not return early, and ends with a state and a value that satisfy the
postcondition. -/
def Reaches (program : Program ε σ ρ α) (start : σ) (post : σ → α → Prop) : Prop :=
  ∃ value, (program.run start).value = .ok value ∧ post (program.run start).state value

section Reaches

variable {post : σ → β → Prop}

@[simp] theorem reaches_pure_iff {value : β} :
    Reaches (pure value : Program ε σ ρ β) start post ↔ post start value := by
  simp [Reaches]

@[simp] theorem reaches_modify_iff {change : σ → σ} {post : σ → Unit → Prop} :
    Reaches (modify change : Program ε σ ρ Unit) start post ↔ post (change start) () := by
  constructor
  · rintro ⟨_, _, hpost⟩
    exact hpost
  · exact fun hpost ↦ ⟨(), rfl, hpost⟩

@[simp] theorem reaches_require_iff {condition : Bool} {error : ρ} {post : σ → Unit → Prop} :
    Reaches (require condition error : Program ε σ ρ Unit) start post ↔
      condition = true ∧ post start () := by
  cases condition with
  | false => simp [Reaches, require]
  | true =>
    constructor
    · rintro ⟨_, _, hpost⟩
      exact ⟨rfl, hpost⟩
    · exact fun hpost ↦ ⟨(), rfl, hpost.2⟩

@[simp] theorem reaches_ite_iff {condition : Prop} [Decidable condition]
    {first second : Program ε σ ρ β} :
    Reaches (if condition then first else second) start post ↔
      if condition then Reaches first start post else Reaches second start post := by
  split_ifs <;> rfl

/-- A sequence reaches what its second part reaches from where the first part ends. -/
theorem reaches_bind_iff {first : Program ε σ ρ α} {second : α → Program ε σ ρ β} :
    Reaches (first >>= second) start post ↔
      Reaches first start fun reached value ↦ Reaches (second value) reached post := by
  unfold Reaches
  rw [run_bind]
  rcases hrun : first.run start with ⟨front, reached, error | value⟩
  · simp
  · simp

@[simp] theorem reaches_get_bind_iff {second : σ → Program ε σ ρ β} :
    Reaches (get >>= second) start post ↔ Reaches (second start) start post := by
  simp [Reaches]

@[simp] theorem reaches_modify_bind_iff {change : σ → σ} {second : Unit → Program ε σ ρ β} :
    Reaches (modify change >>= second) start post ↔ Reaches (second ()) (change start) post := by
  simp [Reaches]

@[simp] theorem reaches_emit_bind_iff {entry : ε} {second : Unit → Program ε σ ρ β} :
    Reaches (emit entry >>= second) start post ↔ Reaches (second ()) start post := by
  simp [Reaches]

@[simp] theorem reaches_require_bind_iff {condition : Bool} {error : ρ}
    {second : Unit → Program ε σ ρ β} :
    Reaches (require condition error >>= second) start post ↔
      condition = true ∧ Reaches (second ()) start post := by
  cases condition <;> simp [Reaches]

@[simp] theorem reaches_ofExcept_bind_iff {result : Except ρ α} {second : α → Program ε σ ρ β} :
    Reaches (ofExcept result >>= second) start post ↔
      ∃ value, result = .ok value ∧ Reaches (second value) start post := by
  cases result <;> simp [Reaches]

theorem reaches_mapError_iff {ρ' : Type} {convert : ρ → ρ'} {program : Program ε σ ρ β} :
    Reaches (program.mapError convert) start post ↔ Reaches program start post := by
  unfold Reaches
  rw [run_mapError]
  rcases (program.run start).value with error | result
  · exact iff_of_false (by simp [Except.mapError]) (by simp)
  · simp [Except.mapError]

end Reaches

/-! ### What a program leaves -/

/-- The program ends with a state and a value or an error that satisfy the postcondition. -/
def Leaves (program : Program ε σ ρ α) (start : σ) (post : σ → Except ρ α → Prop) : Prop :=
  post (program.run start).state (program.run start).value

section Leaves

variable {post : σ → Except ρ β → Prop}

@[simp] theorem leaves_pure_iff {value : β} :
    Leaves (pure value : Program ε σ ρ β) start post ↔ post start (.ok value) :=
  Iff.rfl

@[simp] theorem leaves_modify_iff {change : σ → σ} {post : σ → Except ρ Unit → Prop} :
    Leaves (modify change : Program ε σ ρ Unit) start post ↔ post (change start) (.ok ()) :=
  Iff.rfl

@[simp] theorem leaves_ite_iff {condition : Prop} [Decidable condition]
    {first second : Program ε σ ρ β} :
    Leaves (if condition then first else second) start post ↔
      if condition then Leaves first start post else Leaves second start post := by
  split_ifs <;> rfl

@[simp] theorem leaves_get_bind_iff {second : σ → Program ε σ ρ β} :
    Leaves (get >>= second) start post ↔ Leaves (second start) start post :=
  Iff.rfl

@[simp] theorem leaves_modify_bind_iff {change : σ → σ} {second : Unit → Program ε σ ρ β} :
    Leaves (modify change >>= second) start post ↔ Leaves (second ()) (change start) post :=
  Iff.rfl

@[simp] theorem leaves_require_bind_iff {condition : Bool} {error : ρ}
    {second : Unit → Program ε σ ρ β} :
    Leaves (require condition error >>= second) start post ↔
      if condition then Leaves (second ()) start post else post start (.error error) := by
  cases condition <;> rfl

@[simp] theorem leaves_ofExcept_bind_iff {result : Except ρ α} {second : α → Program ε σ ρ β} :
    Leaves (ofExcept result >>= second) start post ↔
      match result with
      | .error error => post start (.error error)
      | .ok value => Leaves (second value) start post := by
  cases result <;> rfl

theorem leaves_mapError_iff {ρ' : Type} {convert : ρ → ρ'} {program : Program ε σ ρ β}
    {post : σ → Except ρ' β → Prop} :
    Leaves (program.mapError convert) start post ↔
      Leaves program start fun reached value ↦ post reached (value.mapError convert) := by
  rw [Leaves, run_mapError]
  rfl

/-- A sequence leaves what its first part leaves when that returns early, and else what its second
part leaves. -/
theorem leaves_bind_iff {first : Program ε σ ρ α} {second : α → Program ε σ ρ β} :
    Leaves (first >>= second) start post ↔
      Leaves first start fun reached value ↦
        match value with
        | .error error => post reached (.error error)
        | .ok value => Leaves (second value) reached post := by
  unfold Leaves
  rw [run_bind]
  rcases first.run start with ⟨front, reached, error | value⟩
  · rfl
  · rfl

end Leaves

/-! ### Invariants -/

/-- What holds of the state before the program holds of the state that it leaves, also when it
returns early. -/
def Keeps (program : Program ε σ ρ α) (invariant : σ → Prop) : Prop :=
  ∀ state, invariant state → invariant (program.run state).state

section Keeps

variable {invariant : σ → Prop}

theorem keeps_pure (value : β) : Keeps (pure value : Program ε σ ρ β) invariant :=
  fun _ hstate ↦ hstate

theorem keeps_emit (entry : ε) : Keeps (emit entry : Program ε σ ρ Unit) invariant :=
  fun _ hstate ↦ hstate

theorem keeps_get : Keeps (get : Program ε σ ρ σ) invariant :=
  fun _ hstate ↦ hstate

theorem keeps_require (condition : Bool) (error : ρ) :
    Keeps (require condition error : Program ε σ ρ Unit) invariant :=
  fun _ hstate ↦ hstate

theorem keeps_ofExcept (value : Except ρ β) :
    Keeps (ofExcept value : Program ε σ ρ β) invariant :=
  fun _ hstate ↦ hstate

theorem keeps_modify {change : σ → σ}
    (hchange : ∀ state, invariant state → invariant (change state)) :
    Keeps (modify change : Program ε σ ρ Unit) invariant :=
  hchange

theorem keeps_ite {condition : Prop} [Decidable condition] {first second : Program ε σ ρ β}
    (hfirst : Keeps first invariant) (hsecond : Keeps second invariant) :
    Keeps (if condition then first else second) invariant := by
  split_ifs
  · exact hfirst
  · exact hsecond

/-- A sequence keeps what both of its parts keep. -/
theorem keeps_bind {first : Program ε σ ρ α} {second : α → Program ε σ ρ β}
    (hfirst : Keeps first invariant) (hsecond : ∀ value, Keeps (second value) invariant) :
    Keeps (first >>= second) invariant := by
  intro state hstate
  have hreached := hfirst state hstate
  rw [run_bind]
  rcases hrun : first.run state with ⟨front, reached, error | value⟩
  · rwa [hrun] at hreached
  · rw [hrun] at hreached
    exact hsecond value reached hreached

/-- After a fallible expression, a program needs to keep the invariant for the value that was found
only. -/
theorem keeps_ofExcept_bind {result : Except ρ α} {second : α → Program ε σ ρ β}
    (hsecond : ∀ value, result = .ok value → Keeps (second value) invariant) :
    Keeps (ofExcept result >>= second) invariant := by
  cases result with
  | error error => exact fun _ hstate ↦ hstate
  | ok value => exact hsecond value rfl

theorem keeps_mapError {ρ' : Type} {convert : ρ → ρ'} {program : Program ε σ ρ β}
    (hprogram : Keeps program invariant) : Keeps (program.mapError convert) invariant :=
  hprogram

end Keeps

/-! ### Entries of the trace -/

/-- Every entry of the trace is allowed, also when the program returns early. -/
def Emits (program : Program ε σ ρ α) (start : σ) (allowed : ε → Prop) : Prop :=
  ∀ entry ∈ (program.run start).trace, allowed entry

variable {allowed : ε → Prop}

@[simp] theorem emits_pure {value : β} : Emits (pure value : Program ε σ ρ β) start allowed := by
  simp [Emits]

@[simp] theorem emits_require {condition : Bool} {error : ρ} :
    Emits (require condition error : Program ε σ ρ Unit) start allowed := by
  simp [Emits, require]

@[simp] theorem emits_emit_iff {entry : ε} :
    Emits (emit entry : Program ε σ ρ Unit) start allowed ↔ allowed entry := by
  simp [Emits]

@[simp] theorem emits_get_bind_iff {second : σ → Program ε σ ρ β} :
    Emits (get >>= second) start allowed ↔ Emits (second start) start allowed := by
  simp [Emits]

@[simp] theorem emits_modify_bind_iff {change : σ → σ} {second : Unit → Program ε σ ρ β} :
    Emits (modify change >>= second) start allowed ↔
      Emits (second ()) (change start) allowed := by
  simp [Emits]

@[simp] theorem emits_emit_bind_iff {entry : ε} {second : Unit → Program ε σ ρ β} :
    Emits (emit entry >>= second) start allowed ↔
      allowed entry ∧ Emits (second ()) start allowed := by
  simp [Emits]

@[simp] theorem emits_require_bind_iff {condition : Bool} {error : ρ}
    {second : Unit → Program ε σ ρ β} :
    Emits (require condition error >>= second) start allowed ↔
      (condition = true → Emits (second ()) start allowed) := by
  cases condition <;> simp [Emits]

@[simp] theorem emits_ofExcept_bind_iff {result : Except ρ α} {second : α → Program ε σ ρ β} :
    Emits (ofExcept result >>= second) start allowed ↔
      ∀ value, result = .ok value → Emits (second value) start allowed := by
  cases result with
  | error error => simp [Emits]
  | ok value => simp [Emits]

/-- A sequence emits what its parts emit, the second part from where the first ends. -/
theorem emits_bind_iff {first : Program ε σ ρ α} {second : α → Program ε σ ρ β} :
    Emits (first >>= second) start allowed ↔
      Emits first start allowed ∧
        Establishes first start fun _ reached value ↦ Emits (second value) reached allowed := by
  unfold Emits Establishes
  rw [trace_bind]
  rcases first.run start with ⟨front, reached, error | value⟩
  · simp
  · simp [or_imp, forall_and]

end Program

end Runs
