import Mathlib

/-!
# Loops

The body of a loop takes a state to the next one, or leaves the loop.  `run` makes so many rounds
at most, and has no result if the loop goes on after them.

A loop whose rounds lower a measure is left (`exists_run`): with as many rounds as the measure
allows there is a last state, and whatever every round preserves holds of it.
-/

namespace Loops

variable {State : Type}

/-- At most so many rounds: the state in which the loop is left. -/
def run (body : State → Option State) : (rounds : ℕ) → State → Option State
  | 0, state => if (body state).isNone then some state else none
  | rounds + 1, state =>
    match body state with
    | none => some state
    | some next => run body rounds next

variable {body : State → Option State}

theorem run_of_none {state : State} (hbody : body state = none) (rounds : ℕ) :
    run body rounds state = some state := by
  cases rounds with
  | zero => simp [run, hbody]
  | succ rounds => rw [run, hbody]

theorem run_succ_of_some {state next : State} (hbody : body state = some next) (rounds : ℕ) :
    run body (rounds + 1) state = run body rounds next := by
  rw [run, hbody]

theorem exists_run (body : State → Option State) (measure : State → ℕ) (invariant : State → Prop)
    (hround : ∀ state next, invariant state → body state = some next →
      invariant next ∧ measure next < measure state) :
    ∀ (rounds : ℕ) (state : State), invariant state → measure state ≤ rounds →
      ∃ last, run body rounds state = some last ∧ body last = none ∧ invariant last := by
  intro rounds
  induction rounds with
  | zero =>
    intro state hstate hmeasure
    have hbody : body state = none := by
      rw [Option.eq_none_iff_forall_ne_some]
      intro next hnext
      obtain ⟨-, hlt⟩ := hround state next hstate hnext
      omega
    exact ⟨state, run_of_none hbody 0, hbody, hstate⟩
  | succ rounds ih =>
    intro state hstate hmeasure
    cases hbody : body state with
    | none => exact ⟨state, run_of_none hbody _, hbody, hstate⟩
    | some next =>
      obtain ⟨hnext, hlt⟩ := hround state next hstate hbody
      rw [run_succ_of_some hbody]
      exact ih next hnext (by omega)

end Loops
