import RustDns.Machine

/-!
# Tasks in flight

Several tasks work on one shared state.  Each is a program that is cut at the points
where another may come in between: `act` takes a task from one point to the next and
changes the shared state on the way.  Requests start new tasks at any time, and which
task goes on is up to the run.

`invariant_run` reduces an invariant of all runs to one step of one task among others.
A task may owe something: as long as it is in flight, the shared state need not be in
order (`Settled`).  And it may rely on something that it has read, as long as nothing was
committed since (`Seen`).
-/

namespace Tasks

structure State (Shared Task : Type*) where
  shared : Shared
  tasks : List Task

inductive Event (Request Input : Type*) where
  | start (request : Request)
  | advance (index : ℕ) (input : Input)

section Step

variable {Shared Task Request Input : Type*} (begin : Request → Task)
  (act : Shared → Task → Input → Shared × Option Task)

/-- One step.  A task without a next point is done and leaves. -/
def step (state : State Shared Task) : Event Request Input → State Shared Task × Unit
  | .start request => (⟨state.shared, state.tasks ++ [begin request]⟩, ())
  | .advance index input =>
    match state.tasks[index]? with
    | none => (state, ())
    | some task =>
      let next := act state.shared task input
      (⟨next.1, state.tasks.take index ++ next.2.toList ++ state.tasks.drop (index + 1)⟩, ())

/-- If a task goes on, the property holds of the shared state, the other tasks, the
task and its input. -/
def AtAdvance (property : Shared → List Task → Task → Input → Prop)
    (state : State Shared Task) : Event Request Input → Prop
  | .start _ => True
  | .advance index input => ∀ task ∈ state.tasks[index]?,
      property state.shared (state.tasks.eraseIdx index) task input

instance decidableAtAdvance (property : Shared → List Task → Task → Input → Prop)
    [∀ shared others task input, Decidable (property shared others task input)]
    (state : State Shared Task) : (event : Event Request Input) →
    Decidable (AtAdvance property state event)
  | .start _ => .isTrue trivial
  | .advance index input => inferInstanceAs (Decidable (∀ task ∈ state.tasks[index]?,
      property state.shared (state.tasks.eraseIdx index) task input))

variable {begin act}

theorem step_shared_cases (state : State Shared Task) (event : Event Request Input) :
    (step begin act state event).1.shared = state.shared ∨
      ∃ index input task, event = .advance index input ∧ state.tasks[index]? = some task ∧
        (step begin act state event).1.shared = (act state.shared task input).1 := by
  cases event with
  | start request => exact Or.inl rfl
  | advance index input =>
    cases htask : state.tasks[index]? with
    | none =>
      left
      simp only [step, htask]
    | some task =>
      right
      refine ⟨index, input, task, rfl, htask, ?_⟩
      simp only [step, htask]

theorem perm_of_getElem? {tasks : List Task} {index : ℕ} {task : Task}
    (htask : tasks[index]? = some task) : tasks.Perm (task :: tasks.eraseIdx index) := by
  obtain ⟨hindex, rfl⟩ := List.getElem?_eq_some_iff.mp htask
  exact (List.getElem_cons_eraseIdx_perm hindex).symm

section Invariant

variable (invariant : Shared → List Task → Prop)
  {admissible : Shared → List Task → Task → Input → Prop}
  (hperm : ∀ shared tasks tasks', tasks.Perm tasks' → invariant shared tasks →
    invariant shared tasks')
  (hstart : ∀ shared tasks request, invariant shared tasks →
    invariant shared (begin request :: tasks))
  (hact : ∀ shared others task input, invariant shared (task :: others) →
    admissible shared others task input →
      invariant (act shared task input).1 ((act shared task input).2.toList ++ others))

include hperm hstart hact

theorem invariant_step (state : State Shared Task) (event : Event Request Input)
    (hinvariant : invariant state.shared state.tasks)
    (hadmissible : AtAdvance admissible state event) :
    invariant (step begin act state event).1.shared (step begin act state event).1.tasks := by
  cases event with
  | start request =>
    refine hperm _ _ _ ?_ (hstart _ _ request hinvariant)
    exact (List.perm_append_singleton _ _).symm
  | advance index input =>
    cases htask : state.tasks[index]? with
    | none =>
      simp only [step, htask]
      exact hinvariant
    | some task =>
      have hfront := hperm _ _ _ (perm_of_getElem? htask) hinvariant
      have hnext := hact _ _ _ _ hfront (hadmissible task htask)
      refine hperm _ _ _ ?_ (by simpa only [step, htask] using hnext)
      -- the next point of the task stands where the task stood
      simp only [step, htask]
      rw [List.eraseIdx_eq_take_drop_succ, ← List.append_assoc]
      exact List.perm_append_comm.append_right _

theorem invariant_run {state : State Shared Task}
    (hinit : invariant state.shared state.tasks) (events : List (Event Request Input))
    (hadmissible : ∀ point ∈ Machine.trace (step begin act) state events,
      AtAdvance admissible point.1 point.2) :
    invariant (Machine.run (step begin act) state events).shared
        (Machine.run (step begin act) state events).tasks ∧
      ∀ point ∈ Machine.trace (step begin act) state events,
        invariant point.1.shared point.1.tasks :=
  Machine.forall_trace (step begin act) (fun state => invariant state.shared state.tasks)
    (AtAdvance admissible) (invariant_step invariant hperm hstart hact) hinit events hadmissible

end Invariant

end Step

/-! ## Properties of all tasks -/

section Forall

variable {Task : Type*} {property : Task → Prop}

theorem forall_some {task : Task} (htask : property task) : ∀ next ∈ some task, property next := by
  intro next hnext
  obtain rfl := Option.mem_some_iff.mp hnext
  exact htask

theorem forall_none : ∀ next ∈ (none : Option Task), property next := by
  intro next hnext
  cases hnext

/-- After a step there are the task that has gone on, if it is not done, and the others. -/
theorem forall_next {next : Option Task} {others : List Task}
    (hnext : ∀ task ∈ next, property task) (hothers : ∀ other ∈ others, property other) :
    ∀ task ∈ next.toList ++ others, property task := by
  intro task htask
  rcases List.mem_append.mp htask with htask | htask
  · exact hnext task (Option.mem_toList.mp htask)
  · exact hothers task htask

end Forall

/-! ## Debts -/

section Settled

variable {Task : Type*} {fresh fresh' : Prop} {owes : Task → Prop}

def Settled (fresh : Prop) (owes : Task → Prop) (tasks : List Task) : Prop :=
  fresh ∨ ∃ task ∈ tasks, owes task

variable {tasks others : List Task} {task : Task}

theorem Settled.perm {tasks' : List Task} (hperm : tasks.Perm tasks')
    (hsettled : Settled fresh owes tasks) : Settled fresh owes tasks' := by
  rcases hsettled with hfresh | ⟨task, htask, howes⟩
  · exact Or.inl hfresh
  · exact Or.inr ⟨task, hperm.subset htask, howes⟩

theorem Settled.cons (task : Task) (hsettled : Settled fresh owes tasks) :
    Settled fresh owes (task :: tasks) := by
  rcases hsettled with hfresh | ⟨other, hother, howes⟩
  · exact Or.inl hfresh
  · exact Or.inr ⟨other, List.mem_cons_of_mem _ hother, howes⟩

theorem settled_of_others (next : Option Task) (howes : ∃ task ∈ others, owes task) :
    Settled fresh owes (next.toList ++ others) := by
  obtain ⟨task, htask, howes⟩ := howes
  exact Or.inr ⟨task, List.mem_append_right _ htask, howes⟩

theorem settled_of_next (howes : owes task) : Settled fresh owes ((some task).toList ++ others) :=
  Or.inr ⟨task, List.mem_append_left _ (List.mem_singleton_self task), howes⟩

theorem Settled.or_others (hsettled : Settled fresh owes (task :: others)) (hnot : ¬ owes task) :
    fresh ∨ ∃ other ∈ others, owes other := by
  rcases hsettled with hfresh | ⟨other, hother, howes⟩
  · exact Or.inl hfresh
  · rcases List.mem_cons.mp hother with rfl | hother
    · exact absurd howes hnot
    · exact Or.inr ⟨other, hother, howes⟩

theorem Settled.act {next : Option Task} (hsettled : Settled fresh owes (task :: others))
    (hnot : ¬ owes task) (hkeeps : fresh → fresh') :
    Settled fresh' owes (next.toList ++ others) := by
  rcases hsettled.or_others hnot with hfresh | howes
  · exact Or.inl (hkeeps hfresh)
  · exact settled_of_others next howes

end Settled

/-! ## Facts that were read -/

section Seen

variable {fact fact' : Prop} {since commits : ℕ}

/-- A fact that was read when there were `since` commits holds if there were none since. -/
def Seen (since commits : ℕ) (fact : Prop) : Prop :=
  since ≤ commits ∧ (since = commits → fact)

theorem seen_now (hfact : fact) : Seen commits commits fact := ⟨le_rfl, fun _ => hfact⟩

theorem Seen.imp (hseen : Seen since commits fact) (himp : fact → fact') :
    Seen since commits fact' := ⟨hseen.1, fun hsince => himp (hseen.2 hsince)⟩

theorem Seen.commit (hseen : Seen since commits fact) : Seen since (commits + 1) fact' := by
  refine ⟨hseen.1.trans (Nat.le_succ commits), fun hsince => ?_⟩
  have hle := hseen.1
  omega

end Seen

end Tasks
