import RustDns.Tasks
import RustDns.Dns.Filter

/-!
# Reloads side by side

Every handler that changes the rules or the rewrites calls `FilterEngine::reload`
afterwards.  A reload is a sequence of queries, each of which sees what was committed
before it, and then two stores, first of the rules and then of the rewrites.  Nothing
keeps two reloads apart, so one that has read first may store last, and what the other
has read is lost.

Here a handler is a task that commits its change and then goes through the points of
the reload.  A run converges if no store is overtaken (`converged_of_admissible`).
-/

namespace RustDns.ReloadRuns

open Text RuleSet Reload FilterEngine

section Model

variable [Unicode] [RegexCrate]

/-- What the tasks share, with two numbers that the code does not have: the changes
that have been committed, and the time for which the rules were loaded. -/
structure Shared where
  db : Database
  engine : FilterEngine
  commits : ℕ
  loadedAt : Str

/-- What a reload has read so far: the lines of the rules, and the rewrites. -/
structure Reading where
  now : Str
  /-- The changes that had been committed when it made its first query. -/
  since : ℕ
  lines : List Str
  rewrites : Rewrites

/-- The point at which a reload stands: before a query, or before a store.  The two
queries that only count rows are left out. -/
inductive ReloadPoint where
  | rules (now : Str)
  | rewrites (reading : Reading)
  | safeSearch (reading : Reading)
  | parentalEnabled (reading : Reading)
  | parentalLevel (reading : Reading)
  | categories (reading : Reading) (level : Str)
  | storeRules (reading : Reading)
  | storeRewrites (reading : Reading)

inductive Task where
  | mutate (statement : Database → Option Database)
  | reload (point : ReloadPoint)

variable [SerdeJson]

/-- The queries of `FilterEngine::reload`, one by one, all of which succeed. -/
def read (shared : Shared) : ReloadPoint → ReloadPoint
  | .rules now =>
    .rewrites ⟨now, shared.commits, (liveRows now shared.db).map CustomRule.rule, .empty⟩
  | .rewrites reading =>
    .safeSearch { reading with
      rewrites := Rewrites.empty.insertAll
        (shared.db.dnsRewrites.rows.map fun row => (row.domain, row.answer)) }
  | .safeSearch reading =>
    .parentalEnabled { reading with
      rewrites :=
        if settingOr false shared.db "safe_search_enabled" "false" = str "true" then
          reading.rewrites.insertAll safeSearchRules
        else reading.rewrites }
  | .parentalEnabled reading =>
    if settingOr false shared.db "parental_control_enabled" "false" = str "true" then
      .parentalLevel reading
    else .storeRules reading
  | .parentalLevel reading =>
    let level := settingOr false shared.db "parental_control_level" "none"
    if level = str "none" then .storeRules reading else .categories reading level
  | .categories reading level =>
    .storeRules { reading with lines := reading.lines ++ categoryLines shared.db level }
  | .storeRules reading => .storeRules reading
  | .storeRewrites reading => .storeRewrites reading

def act (shared : Shared) (task : Task) (clock : Str) : Shared × Option Task :=
  match task with
  | .mutate statement =>
    match statement shared.db with
    | none => (shared, none)
    | some db =>
      ({ shared with db := db, commits := shared.commits + 1 }, some (.reload (.rules clock)))
  | .reload (.storeRules reading) =>
    ({ shared with
        engine := { shared.engine with rules := built reading.lines }
        loadedAt := reading.now },
      some (.reload (.storeRewrites reading)))
  | .reload (.storeRewrites reading) =>
    ({ shared with engine := { shared.engine with rewrites := reading.rewrites } }, none)
  | .reload point => (shared, some (.reload (read shared point)))

abbrev step : Tasks.State Shared Task → Tasks.Event (Database → Option Database) Str →
    Tasks.State Shared Task × Unit :=
  Tasks.step Task.mutate act

/-- The engine is what a single reload of the database installs. -/
def Converged (shared : Shared) : Prop :=
  FilterEngine.reload noFailure shared.loadedAt shared.db = some shared.engine

end Model

/-! ## Who is still to store -/

section Debts

variable [Unicode] [RegexCrate]

/-- The task has committed and is still to store rules. -/
def OwesRules : Task → Prop
  | .mutate _ => False
  | .reload (.storeRewrites _) => False
  | .reload _ => True

/-- The task has committed and is still to store rewrites. -/
def OwesRewrites : Task → Prop
  | .mutate _ => False
  | .reload _ => True

instance decidableOwesRules : DecidablePred OwesRules
  | .mutate _ | .reload (.storeRewrites _) => .isFalse id
  | .reload (.rules _) | .reload (.rewrites _) | .reload (.safeSearch _)
  | .reload (.parentalEnabled _) | .reload (.parentalLevel _) | .reload (.categories _ _)
  | .reload (.storeRules _) => .isTrue trivial

instance decidableOwesRewrites : DecidablePred OwesRewrites
  | .mutate _ => .isFalse id
  | .reload _ => .isTrue trivial

/-- No store is overtaken. -/
def Admissible (shared : Shared) (others : List Task) (task : Task) (_ : Str) : Prop :=
  match task with
  | .reload (.storeRules reading) =>
    reading.since = shared.commits ∨ ∃ other ∈ others, OwesRules other
  | .reload (.storeRewrites reading) =>
    reading.since = shared.commits ∨ ∃ other ∈ others, OwesRewrites other
  | _ => True

instance decidableAdmissible (shared : Shared) (others : List Task) (clock : Str) :
    (task : Task) → Decidable (Admissible shared others task clock)
  | .reload (.storeRules reading) =>
    inferInstanceAs (Decidable (reading.since = shared.commits ∨ ∃ other ∈ others, _))
  | .reload (.storeRewrites reading) =>
    inferInstanceAs (Decidable (reading.since = shared.commits ∨ ∃ other ∈ others, _))
  | .mutate _ | .reload (.rules _) | .reload (.rewrites _) | .reload (.safeSearch _)
  | .reload (.parentalEnabled _) | .reload (.parentalLevel _)
  | .reload (.categories _ _) => .isTrue trivial

end Debts

/-! ## What a reload has read -/

section Readings

variable [Unicode] [RegexCrate]

def ReloadPoint.reading? : ReloadPoint → Option Reading
  | .rules _ => none
  | .rewrites reading | .safeSearch reading | .parentalEnabled reading | .parentalLevel reading
  | .categories reading _ | .storeRules reading | .storeRewrites reading => some reading

variable [SerdeJson]

/-- All that has been read at a point is still so. -/
def ReadFrom (db : Database) : ReloadPoint → Prop
  | .rules _ => True
  | .rewrites reading => reading.lines = (liveRows reading.now db).map CustomRule.rule
  | .safeSearch reading =>
    reading.lines = (liveRows reading.now db).map CustomRule.rule ∧
      reading.rewrites = Rewrites.empty.insertAll
        (db.dnsRewrites.rows.map fun row => (row.domain, row.answer))
  | .parentalEnabled reading =>
    reading.lines = (liveRows reading.now db).map CustomRule.rule ∧
      reading.rewrites = reloadRewrites noFailure db
  | .parentalLevel reading =>
    reading.lines = (liveRows reading.now db).map CustomRule.rule ∧
      reading.rewrites = reloadRewrites noFailure db ∧
      settingOr false db "parental_control_enabled" "false" = str "true"
  | .categories reading level =>
    reading.lines = (liveRows reading.now db).map CustomRule.rule ∧
      reading.rewrites = reloadRewrites noFailure db ∧
      settingOr false db "parental_control_enabled" "false" = str "true" ∧
      settingOr false db "parental_control_level" "none" = level ∧ level ≠ str "none"
  | .storeRules reading =>
    reading.lines = liveLines reading.now db ∧ reading.rewrites = reloadRewrites noFailure db
  | .storeRewrites reading => reading.rewrites = reloadRewrites noFailure db

/-- If the number of commits is what it was at the first query of the task, then all
that the task has read is still so. -/
def Dated (shared : Shared) : Task → Prop
  | .mutate _ => True
  | .reload point => ∀ reading ∈ point.reading?, reading.since ≤ shared.commits ∧
      (reading.since = shared.commits → ReadFrom shared.db point)

variable {db : Database} {shared : Shared} {point : ReloadPoint}

omit [Unicode] [RegexCrate] in
theorem selectedParental_of_disabled
    (hdisabled : settingOr false db "parental_control_enabled" "false" ≠ str "true") :
    selectedParental db = [] := by
  simp [selectedParental, parentalLines, noFailure, hdisabled]

omit [Unicode] [RegexCrate] in
theorem selectedParental_of_none
    (hnone : settingOr false db "parental_control_level" "none" = str "none") :
    selectedParental db = [] := by
  simp only [selectedParental, parentalLines, noFailure, hnone, if_true]
  split_ifs <;> rfl

omit [Unicode] [RegexCrate] in
theorem selectedParental_of_level {level : Str}
    (henabled : settingOr false db "parental_control_enabled" "false" = str "true")
    (hlevel : settingOr false db "parental_control_level" "none" = level)
    (hne : level ≠ str "none") : selectedParental db = categoryLines db level := by
  simp [selectedParental, parentalLines, noFailure, henabled, hlevel, hne]

theorem readFrom_read (hread : ReadFrom shared.db point) :
    ReadFrom shared.db (read shared point) := by
  cases point with
  | rules now => rfl
  | rewrites reading => exact ⟨hread, rfl⟩
  | safeSearch reading =>
    refine ⟨hread.1, ?_⟩
    dsimp only
    rw [hread.2]
    rfl
  | parentalEnabled reading =>
    simp only [read]
    split_ifs with henabled
    · exact ⟨hread.1, hread.2, henabled⟩
    · refine ⟨?_, hread.2⟩
      rw [liveLines, selectedParental_of_disabled henabled, List.append_nil]
      exact hread.1
  | parentalLevel reading =>
    simp only [read]
    split_ifs with hnone
    · refine ⟨?_, hread.2.1⟩
      rw [liveLines, selectedParental_of_none hnone, List.append_nil]
      exact hread.1
    · exact ⟨hread.1, hread.2.1, hread.2.2, rfl, hnone⟩
  | categories reading level =>
    obtain ⟨hlines, hrewrites, henabled, hlevel, hne⟩ := hread
    refine ⟨?_, hrewrites⟩
    dsimp only
    rw [liveLines, selectedParental_of_level henabled hlevel hne, hlines]
  | storeRules reading => exact hread
  | storeRewrites reading => exact hread

theorem since_read {reading : Reading} (hreading : reading ∈ (read shared point).reading?) :
    point.reading? = none ∧ reading.since = shared.commits ∨
      ∃ earlier ∈ point.reading?, reading.since = earlier.since := by
  cases point with
  | rules now =>
    obtain rfl := Option.mem_some_iff.mp hreading
    exact Or.inl ⟨rfl, rfl⟩
  | parentalEnabled earlier =>
    simp only [read] at hreading
    split_ifs at hreading
    · obtain rfl := Option.mem_some_iff.mp hreading
      exact Or.inr ⟨_, rfl, rfl⟩
    · obtain rfl := Option.mem_some_iff.mp hreading
      exact Or.inr ⟨_, rfl, rfl⟩
  | parentalLevel earlier =>
    simp only [read] at hreading
    split_ifs at hreading
    · obtain rfl := Option.mem_some_iff.mp hreading
      exact Or.inr ⟨_, rfl, rfl⟩
    · obtain rfl := Option.mem_some_iff.mp hreading
      exact Or.inr ⟨_, rfl, rfl⟩
  | rewrites earlier | safeSearch earlier | categories earlier level | storeRules earlier
  | storeRewrites earlier =>
    obtain rfl := Option.mem_some_iff.mp hreading
    exact Or.inr ⟨earlier, rfl, rfl⟩

theorem Dated.read (hdated : Dated shared (.reload point)) :
    Dated shared (.reload (read shared point)) := by
  intro reading hreading
  rcases since_read hreading with ⟨hnone, hsince⟩ | ⟨earlier, hearlier, hsince⟩
  · have hrules : ReadFrom shared.db point := by
      cases point with
      | rules now => trivial
      | _ => cases hnone
    exact ⟨hsince.le, fun _ => readFrom_read hrules⟩
  · obtain ⟨hle, hread⟩ := hdated earlier hearlier
    rw [hsince]
    exact ⟨hle, fun hcommits => readFrom_read (hread hcommits)⟩

theorem Dated.commit {task : Task} (hdated : Dated shared task) (db : Database) :
    Dated { shared with db := db, commits := shared.commits + 1 } task := by
  cases task with
  | mutate statement => trivial
  | reload point =>
    intro reading hreading
    obtain ⟨hle, -⟩ := hdated reading hreading
    dsimp only
    exact ⟨by omega, fun hcommits => absurd hcommits (by omega)⟩

end Readings

/-! ## Runs -/

section Runs

variable [Unicode] [RegexCrate] [SerdeJson]

def RulesFresh (shared : Shared) : Prop :=
  shared.engine.rules = built (liveLines shared.loadedAt shared.db)

def RewritesFresh (shared : Shared) : Prop :=
  shared.engine.rewrites = reloadRewrites noFailure shared.db

theorem converged_iff (shared : Shared) :
    Converged shared ↔ RulesFresh shared ∧ RewritesFresh shared := by
  rw [Converged, reload_noFailure, Option.some_inj, eq_comm]
  constructor
  · intro hengine
    exact ⟨congrArg FilterEngine.rules hengine, congrArg FilterEngine.rewrites hengine⟩
  · rintro ⟨hrules, hrewrites⟩
    change (⟨shared.engine.rules, shared.engine.rewrites⟩ : FilterEngine) = _
    rw [hrules, hrewrites]

structure Invariant (shared : Shared) (tasks : List Task) : Prop where
  dated : ∀ task ∈ tasks, Dated shared task
  rules : Tasks.Settled (RulesFresh shared) OwesRules tasks
  rewrites : Tasks.Settled (RewritesFresh shared) OwesRewrites tasks

theorem Invariant.perm {shared : Shared} {tasks tasks' : List Task} (hperm : tasks.Perm tasks')
    (hinvariant : Invariant shared tasks) : Invariant shared tasks' where
  dated task htask := hinvariant.dated task (hperm.symm.subset htask)
  rules := hinvariant.rules.perm hperm
  rewrites := hinvariant.rewrites.perm hperm

theorem Invariant.begin {shared : Shared} {tasks : List Task}
    (statement : Database → Option Database) (hinvariant : Invariant shared tasks) :
    Invariant shared (.mutate statement :: tasks) where
  dated := List.forall_mem_cons.mpr ⟨trivial, hinvariant.dated⟩
  rules := hinvariant.rules.cons _
  rewrites := hinvariant.rewrites.cons _

variable {shared : Shared} {others : List Task} {task : Task}

theorem Invariant.read {point : ReloadPoint}
    (hinvariant : Invariant shared (.reload point :: others))
    (howes : OwesRules (.reload (read shared point))) :
    Invariant shared ((some (Task.reload (read shared point))).toList ++ others) where
  dated := by
    obtain ⟨hdated, hothers⟩ := List.forall_mem_cons.mp hinvariant.dated
    exact List.forall_mem_cons.mpr ⟨hdated.read, hothers⟩
  rules := Tasks.settled_of_next howes
  rewrites := Tasks.settled_of_next trivial

theorem invariant_act (clock : Str) (hinvariant : Invariant shared (task :: others))
    (hadmissible : Admissible shared others task clock) :
    Invariant (act shared task clock).1 ((act shared task clock).2.toList ++ others) := by
  obtain ⟨hdated, hothers⟩ := List.forall_mem_cons.mp hinvariant.dated
  cases task with
  | mutate statement =>
    cases hstatement : statement shared.db with
    | none =>
      simp only [act, hstatement]
      exact ⟨hothers, hinvariant.rules.act id id, hinvariant.rewrites.act id id⟩
    | some db =>
      simp only [act, hstatement]
      refine ⟨List.forall_mem_cons.mpr ⟨?_, ?_⟩, Tasks.settled_of_next trivial,
        Tasks.settled_of_next trivial⟩
      · exact fun reading hreading => absurd hreading (Option.not_mem_none reading)
      · exact fun other hother => (hothers other hother).commit db
  | reload point =>
    cases point with
    | rules now => exact hinvariant.read trivial
    | rewrites reading => exact hinvariant.read trivial
    | safeSearch reading => exact hinvariant.read trivial
    | parentalEnabled reading =>
      refine hinvariant.read ?_
      simp only [ReloadRuns.read]
      split_ifs <;> trivial
    | parentalLevel reading =>
      refine hinvariant.read ?_
      simp only [ReloadRuns.read]
      split_ifs <;> trivial
    | categories reading level => exact hinvariant.read trivial
    | storeRules reading =>
      obtain ⟨hle, hread⟩ := hdated reading rfl
      refine ⟨List.forall_mem_cons.mpr ⟨?_, hothers⟩, ?_, Tasks.settled_of_next trivial⟩
      · intro other hother
        obtain rfl := Option.mem_some_iff.mp hother
        exact ⟨hle, fun hcommits => (hread hcommits).2⟩
      · rcases hadmissible with hcommits | howes
        · -- what is stored was read from the current database
          exact Or.inl (congrArg built (hread hcommits).1)
        · exact Tasks.settled_of_others _ howes
    | storeRewrites reading =>
      obtain ⟨hle, hread⟩ := hdated reading rfl
      refine ⟨hothers, hinvariant.rules.act id id, ?_⟩
      rcases hadmissible with hcommits | howes
      · exact Or.inl (hread hcommits)
      · exact Tasks.settled_of_others none howes

/-- **When reloads converge.**  From an engine that is up to date, every run in which
no store is overtaken ends, once all handlers are done, with an engine that is up to
date. -/
theorem converged_of_admissible (state : Tasks.State Shared Task)
    (hinit : Converged state.shared) (hidle : state.tasks = [])
    (events : List (Tasks.Event (Database → Option Database) Str))
    (hadmissible : ∀ point ∈ Machine.trace step state events,
      Tasks.AtAdvance Admissible point.1 point.2)
    (hdone : (Machine.run step state events).tasks = []) :
    Converged (Machine.run step state events).shared := by
  obtain ⟨hrules, hrewrites⟩ := (converged_iff state.shared).mp hinit
  have hstart : Invariant state.shared state.tasks := by
    rw [hidle]
    exact ⟨fun _ htask => absurd htask List.not_mem_nil, Or.inl hrules, Or.inl hrewrites⟩
  obtain ⟨hend, -⟩ := Tasks.invariant_run Invariant (fun _ _ _ hperm => Invariant.perm hperm)
    (fun _ _ statement => Invariant.begin statement)
    (fun _ _ _ clock => invariant_act clock) hstart events hadmissible
  rw [hdone] at hend
  refine (converged_iff _).mpr ⟨?_, ?_⟩
  · exact hend.rules.resolve_right fun ⟨_, htask, _⟩ => absurd htask List.not_mem_nil
  · exact hend.rewrites.resolve_right fun ⟨_, htask, _⟩ => absurd htask List.not_mem_nil

end Runs

/-! ### A reload that is overtaken -/

section Overtaken

attribute [local instance] Unicode.ascii RegexCrate.fragment SerdeJson.plain

/-- The statement of `rules::create`. -/
def insertRule (row : CustomRule) (db : Database) : Option Database :=
  (db.customRules.insert row).map fun table => { db with customRules := table }

def exampleRule (id rule : Str) : CustomRule :=
  ⟨id, rule, none, true, str "admin", str "2026-01-01", none⟩

def emptyState : Tasks.State Shared Task where
  shared := ⟨.empty, ⟨built [], reloadRewrites noFailure .empty⟩, 0, str "2026-01-01"⟩
  tasks := []

def readSteps (index : ℕ) : List (Tasks.Event (Database → Option Database) Str) :=
  List.replicate 5 (.advance index (str "2026-01-02"))

def storeSteps (index : ℕ) : List (Tasks.Event (Database → Option Database) Str) :=
  List.replicate 2 (.advance index (str "2026-01-02"))

def overtakenRun : List (Tasks.Event (Database → Option Database) Str) :=
  [.start (insertRule (exampleRule (str "r1") (str "||a.com^"))),
    .start (insertRule (exampleRule (str "r2") (str "||b.com^")))] ++
    readSteps 0 ++ readSteps 1 ++ storeSteps 1 ++ storeSteps 0

/-- Both handlers are done, both rules are in the database, and the engine has only the
first. -/
theorem not_converged_overtakenRun :
    let last := Machine.run step emptyState overtakenRun
    Converged emptyState.shared ∧ last.tasks = [] ∧
      last.shared.db.customRules.rows =
        [exampleRule (str "r1") (str "||a.com^"), exampleRule (str "r2") (str "||b.com^")] ∧
      last.shared.engine.isBlocked (str "b.com") = false ∧ ¬ Converged last.shared := by
  have hblocked : ((FilterEngine.reload noFailure
      (Machine.run step emptyState overtakenRun).shared.loadedAt
      (Machine.run step emptyState overtakenRun).shared.db).map (·.isBlocked (str "b.com"))) =
        some true := by
    decide +kernel
  have hengine : (Machine.run step emptyState overtakenRun).shared.engine.isBlocked
      (str "b.com") = false := by
    decide +kernel
  refine ⟨rfl, rfl, by decide +kernel, hengine, fun hconverged => ?_⟩
  rw [Converged] at hconverged
  rw [hconverged, Option.map_some, hengine] at hblocked
  exact absurd hblocked (by decide)

def serialRun : List (Tasks.Event (Database → Option Database) Str) :=
  .start (insertRule (exampleRule (str "r1") (str "||a.com^"))) :: readSteps 0 ++ storeSteps 0 ++
    .start (insertRule (exampleRule (str "r2") (str "||b.com^"))) :: readSteps 0 ++ storeSteps 0

theorem converged_serialRun : Converged (Machine.run step emptyState serialRun).shared :=
  converged_of_admissible emptyState rfl rfl serialRun (by decide +kernel) rfl

end Overtaken

end RustDns.ReloadRuns
