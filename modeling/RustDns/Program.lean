import Mathlib

/-!
# Programs over a shared state

A program reads and changes a state and either returns a value or stops with an
error.  What it wrote before an error stays written, as with statements that are
committed one by one.

`Respects relation program` says that the state after the program is related to
the state before it, whether it returns or stops, and `Returns program property`
that a returned value has the property.  With a reflexive and transitive relation
the first is a frame condition.  The rules below go through a program statement
by statement.
-/

abbrev Program (State Error α : Type) := ExceptT Error (StateM State) α

namespace Program

variable {State Error α β : Type}

def eval (program : Program State Error α) (state : State) : Except Error α × State :=
  Id.run (StateT.run (ExceptT.run program) state)

def exec (program : Program State Error α) (state : State) : State := (program.eval state).2

def Respects (relation : State → State → Prop) (program : Program State Error α) : Prop :=
  ∀ state, relation state (program.exec state)

def Returns (program : Program State Error α) (property : α → Prop) : Prop :=
  ∀ state value, (program.eval state).1 = .ok value → property value

theorem eval_bind (program : Program State Error α) (next : α → Program State Error β)
    (state : State) :
    (program >>= next).eval state =
      match program.eval state with
      | (.ok value, after) => (next value).eval after
      | (.error error, after) => (.error error, after) := by
  simp only [eval, ExceptT.run_bind, StateT.run_bind]
  rcases StateT.run (ExceptT.run program) state with ⟨_ | value, after⟩ <;> rfl

@[simp] theorem eval_pure (value : α) (state : State) :
    (pure value : Program State Error α).eval state = (.ok value, state) := rfl

@[simp] theorem eval_throw (error : Error) (state : State) :
    (throw error : Program State Error α).eval state = (.error error, state) := rfl

@[simp] theorem eval_get (state : State) :
    (get : Program State Error State).eval state = (.ok state, state) := rfl

theorem exec_get_bind (next : State → Program State Error α) (state : State) :
    (get >>= next).exec state = (next state).exec state := rfl

theorem exec_modify_bind (change : State → State) (next : PUnit → Program State Error α)
    (state : State) : (modify change >>= next).exec state = (next ⟨⟩).exec (change state) := rfl

/-! ## Programs that succeed -/

variable {program : Program State Error α} {next : α → Program State Error β}
  {state after : State} {property : α → Prop}

theorem eval_bind_eq_ok {result : β} (hok : (program >>= next).eval state = (.ok result, after)) :
    ∃ value middle, program.eval state = (.ok value, middle) ∧
      (next value).eval middle = (.ok result, after) := by
  rw [eval_bind] at hok
  rcases heval : program.eval state with ⟨_ | value, middle⟩
  · rw [heval] at hok
    cases hok
  · rw [heval] at hok
    exact ⟨value, middle, rfl, hok⟩

theorem eval_get_bind_eq_ok {next : State → Program State Error β} {result : β}
    (hok : (get >>= next).eval state = (.ok result, after)) :
    (next state).eval state = (.ok result, after) := hok

theorem eval_guard_eq_ok {condition : Prop} [Decidable condition] {error : Error} {result : α}
    (hok : (if condition then throw error else program).eval state = (.ok result, after)) :
    ¬ condition ∧ program.eval state = (.ok result, after) := by
  split_ifs at hok with hcondition
  · cases hok
  · exact ⟨hcondition, hok⟩

/-! ## Returned values -/

theorem returns_pure {value : α} (hvalue : property value) :
    Returns (pure value : Program State Error α) property := by
  rintro state result hresult
  rwa [← Except.ok.inj hresult]

theorem returns_throw (error : Error) (property : α → Prop) :
    Returns (throw error : Program State Error α) property := by
  intro state value hvalue
  cases hvalue

theorem returns_bind {after : β → Prop} (hprogram : Returns program property)
    (hnext : ∀ value, property value → Returns (next value) after) :
    Returns (program >>= next) after := by
  intro state result hresult
  rw [eval_bind] at hresult
  have hfirst := hprogram state
  generalize program.eval state = outcome at hfirst hresult
  rcases outcome with ⟨_ | value, middle⟩
  · exact absurd hresult (by simp)
  · exact hnext value (hfirst value rfl) middle result hresult

/-! ## Frames -/

section Frames

variable {relation : State → State → Prop}

theorem respects_modify {change : State → State}
    (hchange : ∀ state, relation state (change state)) :
    Respects relation (modify change : Program State Error PUnit) := hchange

variable {program : Program State Error α}

variable {next : α → Program State Error β}

theorem respects_bind_of_returns [IsTrans State relation] {property : α → Prop}
    (hprogram : Respects relation program) (hreturns : Returns program property)
    (hnext : ∀ value, property value → Respects relation (next value)) :
    Respects relation (program >>= next) := by
  intro state
  have hfirst := hprogram state
  have hvalue := hreturns state
  unfold exec at hfirst ⊢
  rw [eval_bind]
  generalize program.eval state = outcome at hfirst hvalue ⊢
  rcases outcome with ⟨_ | value, middle⟩
  · exact hfirst
  · exact IsTrans.trans _ _ _ hfirst (hnext value (hvalue value rfl) middle)

theorem respects_bind [IsTrans State relation] (hprogram : Respects relation program)
    (hnext : ∀ value, Respects relation (next value)) : Respects relation (program >>= next) :=
  respects_bind_of_returns hprogram (fun _ _ _ => trivial) fun value _ => hnext value

theorem related_bind (relation : State → State → Prop) {frame : State → State → Prop}
    (habsorbs : ∀ {before middle after}, relation before middle → frame middle after →
      relation before after) {state : State} (hprogram : relation state (program.exec state))
    (hnext : ∀ value, Respects frame (next value)) :
    relation state ((program >>= next).exec state) := by
  unfold exec at hprogram ⊢
  rw [eval_bind]
  generalize program.eval state = outcome at hprogram
  rcases outcome with ⟨_ | value, after⟩
  · exact hprogram
  · exact habsorbs hprogram (hnext value after)

variable [Std.Refl relation]

theorem respects_pure (value : α) : Respects relation (pure value : Program State Error α) :=
  Std.Refl.refl

theorem respects_throw (error : Error) : Respects relation (throw error : Program State Error α) :=
  Std.Refl.refl

theorem respects_guard {condition : Prop} [Decidable condition] (error : Error)
    (hprogram : Respects relation program) :
    Respects relation (if condition then throw error else program) := by
  split_ifs
  · exact respects_throw error
  · exact hprogram

theorem respects_get : Respects relation (get : Program State Error State) := Std.Refl.refl

end Frames

end Program
