import Mathlib

/-!
# Machines

A machine takes inputs one after the other; each changes its state and yields an
output.  `trace` lists the steps of a run, each with the state in which it was
taken, and `forall_trace` is the induction rule for runs: an invariant that every
step keeps holds in every state in which a step is taken, and in the last one.
-/

namespace Machine

variable {State Input Output : Type*} (step : State → Input → State × Output)

/-- The state after a run. -/
def run (state : State) (inputs : List Input) : State :=
  inputs.foldl (fun state input => (step state input).1) state

def trace (state : State) : List Input → List (State × Input)
  | [] => []
  | input :: rest => (state, input) :: trace (step state input).1 rest

theorem mem_of_mem_trace {state : State} {inputs : List Input} {point : State × Input}
    (hpoint : point ∈ trace step state inputs) : point.2 ∈ inputs := by
  induction inputs generalizing state with
  | nil => exact absurd hpoint List.not_mem_nil
  | cons input rest ih =>
    rcases List.mem_cons.mp hpoint with rfl | hpoint
    · exact List.mem_cons_self
    · exact List.mem_cons_of_mem _ (ih hpoint)

theorem mem_trace_append (state : State) (before : List Input) (input : Input) (rest : List Input) :
    (run step state before, input) ∈ trace step state (before ++ input :: rest) := by
  induction before generalizing state with
  | nil => exact List.mem_cons_self
  | cons first before ih => exact List.mem_cons_of_mem _ (ih (step state first).1)

/-- The induction rule for runs.  The steps may use a property of the inputs, which
may depend on the state in which they come. -/
theorem forall_trace (invariant : State → Prop) (admissible : State → Input → Prop)
    (hstep : ∀ state input, invariant state → admissible state input →
      invariant (step state input).1) {state : State} (hinit : invariant state)
    (inputs : List Input)
    (hinputs : ∀ point ∈ trace step state inputs, admissible point.1 point.2) :
    invariant (run step state inputs) ∧ ∀ point ∈ trace step state inputs, invariant point.1 := by
  induction inputs generalizing state with
  | nil => exact ⟨hinit, fun _ hpoint => absurd hpoint List.not_mem_nil⟩
  | cons input rest ih =>
    have hinput : admissible state input := hinputs (state, input) List.mem_cons_self
    have hrest := ih (hstep state input hinit hinput)
      fun point hpoint => hinputs point (List.mem_cons_of_mem _ hpoint)
    exact ⟨hrest.1, List.forall_mem_cons.mpr ⟨hinit, hrest.2⟩⟩

/-! ## Simulation -/

section Simulation

variable {State' Output' : Type*} {step} {step' : State' → Input → State' × Output'}
  (image : State → State')

theorem image_run
    (himage : ∀ state input, image (step state input).1 = (step' (image state) input).1)
    (state : State) (inputs : List Input) :
    image (run step state inputs) = run step' (image state) inputs := by
  induction inputs generalizing state with
  | nil => rfl
  | cons input rest ih =>
    have hrest := ih (step state input).1
    rw [himage] at hrest
    exact hrest

theorem image_mem_trace
    (himage : ∀ state input, image (step state input).1 = (step' (image state) input).1)
    {state : State} {inputs : List Input} {point : State × Input}
    (hpoint : point ∈ trace step state inputs) :
    (image point.1, point.2) ∈ trace step' (image state) inputs := by
  induction inputs generalizing state with
  | nil => exact absurd hpoint List.not_mem_nil
  | cons input rest ih =>
    rcases List.mem_cons.mp hpoint with rfl | hpoint
    · exact List.mem_cons_self
    · have hrest := ih hpoint
      rw [himage] at hrest
      exact List.mem_cons_of_mem _ hrest

end Simulation

end Machine
