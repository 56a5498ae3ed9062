import RustDns.Program

/-!
# Checks between statements

A request is handled part by part.  A part is checked when its turn comes; if the check
fails the request ends with its error, else the statements of the part are executed.  What
the parts before have written stays.

Where no part writes what a later one reads (`Unaffected`), the outcome can be read off the
state before the request: the error is that of the first part whose check fails there, and
the statements that were executed are those of the parts before it (`eval_run`).
-/

namespace Checked

structure Part (State Statement Error : Type) where
  check : State → Option Error
  statements : State → List Statement

variable {State Statement Error : Type} (execute : Statement → State → State)

def executeAll (statements : List Statement) (state : State) : State :=
  statements.foldl (fun state statement => execute statement state) state

def run : List (Part State Statement Error) → Program State Error Unit
  | [] => pure ()
  | part :: rest => do
    match part.check (← get) with
    | some error => throw error
    | none =>
      modify fun state => executeAll execute (part.statements state) state
      run rest

/-- The statements of the parts before the first one whose check fails. -/
def handled (parts : List (Part State Statement Error)) (state : State) : List Statement :=
  (parts.takeWhile fun part => (part.check state).isNone).flatMap (·.statements state)

/-- The error of the first part whose check fails. -/
def firstError (parts : List (Part State Statement Error)) (state : State) : Option Error :=
  parts.findSome? (·.check state)

def Unaffected (earlier later : Part State Statement Error) : Prop :=
  ∀ state, later.check (executeAll execute (earlier.statements state) state) =
      later.check state ∧
    later.statements (executeAll execute (earlier.statements state) state) =
      later.statements state

theorem executeAll_append (first second : List Statement) (state : State) :
    executeAll execute (first ++ second) state =
      executeAll execute second (executeAll execute first state) :=
  List.foldl_append

section Congr

variable {parts : List (Part State Statement Error)} {state after : State}

theorem handled_congr (hparts : ∀ part ∈ parts, part.check after = part.check state ∧
    part.statements after = part.statements state) : handled parts after = handled parts state := by
  induction parts with
  | nil => rfl
  | cons part rest ih =>
    obtain ⟨⟨hcheck, hstatements⟩, hrest⟩ := List.forall_mem_cons.mp hparts
    unfold handled at ih ⊢
    rw [List.takeWhile_cons, List.takeWhile_cons, hcheck]
    split_ifs
    · rw [List.flatMap_cons, List.flatMap_cons, hstatements, ih hrest]
    · rfl

theorem firstError_congr (hparts : ∀ part ∈ parts, part.check after = part.check state ∧
    part.statements after = part.statements state) :
    firstError parts after = firstError parts state := by
  induction parts with
  | nil => rfl
  | cons part rest ih =>
    obtain ⟨⟨hcheck, -⟩, hrest⟩ := List.forall_mem_cons.mp hparts
    unfold firstError at ih ⊢
    rw [List.findSome?_cons, List.findSome?_cons, hcheck, ih hrest]

end Congr

variable {parts : List (Part State Statement Error)}

/-- The outcome of a request whose parts do not read what others write. -/
theorem eval_run (hparts : parts.Pairwise (Unaffected execute)) (state : State) :
    (run execute parts).eval state = ((firstError parts state).elim (.ok ()) .error,
        executeAll execute (handled parts state) state) := by
  induction parts generalizing state with
  | nil => rfl
  | cons part rest ih =>
    obtain ⟨hpart, hrest⟩ := List.pairwise_cons.mp hparts
    cases hcheck : part.check state with
    | some error => simp [run, Program.eval_bind, firstError, handled, hcheck, executeAll]
    | none =>
      have hlater := fun later hlater => hpart later hlater state
      have heval : (run execute (part :: rest)).eval state =
          (run execute rest).eval (executeAll execute (part.statements state) state) := by
        simp only [run]
        rw [Program.eval_bind, Program.eval_get]
        simp only [hcheck]
        rfl
      have herror : firstError (part :: rest) state = firstError rest state := by
        simp [firstError, hcheck]
      have hhandled : handled (part :: rest) state =
          part.statements state ++ handled rest state := by
        simp [handled, hcheck]
      rw [heval, ih hrest, firstError_congr hlater, handled_congr hlater, herror, hhandled,
        executeAll_append]

theorem handled_concat {last : Part State Statement Error} {state : State}
    (herror : firstError (parts ++ [last]) state ≠ none) :
    handled (parts ++ [last]) state = handled parts state := by
  unfold handled firstError at *
  induction parts with
  | nil =>
    have hcheck : last.check state ≠ none := by simpa using herror
    simp [hcheck]
  | cons part rest ih =>
    rw [List.cons_append, List.findSome?_cons] at herror
    rw [List.cons_append, List.takeWhile_cons, List.takeWhile_cons]
    cases hcheck : part.check state with
    | some error => rfl
    | none =>
      rw [hcheck] at herror
      simp [ih herror]

end Checked
