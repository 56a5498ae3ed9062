import RustDns.Tasks
import RustDns.Api.PolicyCache

/-!
# Cached policies and changes side by side

`get_client_config` looks into the cache, and on a miss makes up to three queries and
inserts what they give.  A handler that changes clients, groups, members or bindings
commits its statements and then drops all entries; `delete_group` drops them first and
commits afterwards.  Neither waits for the other.

So an entry may be inserted that was computed before a change, after the handler has
dropped the entries for it.  A run leaves no such entry if this does not happen
(`Admissible`, `fresh_of_admissible`).

No handler calls `invalidate_client_cache`.  The rows of `clients` are taken to decode.
-/

namespace RustDns.Api.PolicyRuns

section Model

variable [Unicode] [RegexCrate]

structure Entry where
  config : ClientConfig
  since : ℕ

structure Shared where
  db : Database
  clientConfigCache : List (Str × Entry)
  commits : ℕ

inductive Task where
  /-- `get_client_config` before it looks into the cache. -/
  | lookup (clientIp : Str)
  /-- Before the query for the clients. -/
  | clients (clientIp : Str)
  /-- Before the two queries for the groups of the client that was found. -/
  | groupRules (clientIp : Str) (since : ℕ) (client : Client)
  | groupRewrites (clientIp : Str) (since : ℕ) (client : Client) (ruleset : Option RuleSet)
  | insert (clientIp : Str) (entry : Entry)
  /-- A handler with these statements left to commit, before it drops the entries. -/
  | change (statements : List (Database → Database))
  /-- `delete_group` before it drops the entries, and after. -/
  | deleteGroup (id : ℤ)
  | commitDelete (id : ℤ)
  /-- The entry of an address runs out. -/
  | expire (clientIp : Str)

inductive Request where
  | query (clientIp : Str)
  | change (statements : List (Database → Database))
  | deleteGroup (id : ℤ)
  | expire (clientIp : Str)

def Request.begin : Request → Task
  | query clientIp => .lookup clientIp
  | change statements => .change statements
  | deleteGroup id => .deleteGroup id
  | expire clientIp => .expire clientIp

variable [SerdeJson] [IpNetCrate]

def act (shared : Shared) (task : Task) (_ : Unit) : Shared × Option Task :=
  match task with
  | .lookup clientIp =>
    if (shared.clientConfigCache.lookup clientIp).isSome then (shared, none)
    else (shared, some (.clients clientIp))
  | .clients clientIp =>
    match shared.db.clients.rows.find? (·.isMatch clientIp) with
    | none => (shared, some (.insert clientIp ⟨.default, shared.commits⟩))
    | some client => (shared, some (.groupRules clientIp shared.commits client))
  | .groupRules clientIp since client =>
    (shared, some (.groupRewrites clientIp since client
      (loadGroupRulesForClient (fun _ => false) shared.db client.id)))
  | .groupRewrites clientIp since client ruleset =>
    let config : ClientConfig :=
      { filterEnabled := client.filterEnabled.truth
        upstreamUrls := client.upstreamUrls
        groupRuleset := ruleset
        groupRewrites := loadGroupRewritesForClient (fun _ => false) shared.db client.id }
    (shared, some (.insert clientIp ⟨config, since⟩))
  | .insert clientIp entry =>
    ({ shared with
        clientConfigCache :=
          (clientIp, entry) :: shared.clientConfigCache.filter (·.1 != clientIp) },
      none)
  | .change [] => ({ shared with clientConfigCache := [] }, none)
  | .change (statement :: rest) =>
    ({ shared with db := statement shared.db, commits := shared.commits + 1 },
      some (.change rest))
  | .deleteGroup id =>
    match shared.db.clientGroups.find? id with
    | none => (shared, none)
    | some _ => ({ shared with clientConfigCache := [] }, some (.commitDelete id))
  | .commitDelete id =>
    ({ shared with
        db := ClientGroups.deleteStatements id shared.db
        commits := shared.commits + 1 },
      none)
  | .expire clientIp =>
    ({ shared with
        clientConfigCache := shared.clientConfigCache.filter (·.1 != clientIp) },
      none)

abbrev step : Tasks.State Shared Task → Tasks.Event Request Unit →
    Tasks.State Shared Task × Unit :=
  Tasks.step Request.begin act

/-- Every entry was computed after the last commit, and is what the database gives. -/
def Fresh (shared : Shared) : Prop :=
  ∀ pair ∈ shared.clientConfigCache, pair.2.since = shared.commits ∧
    pair.2.config = resolveClientConfig (fun _ => false) shared.db.decoding pair.1

end Model

/-! ## Conditions -/

section Conditions

variable [Unicode] [RegexCrate]

/-- The task is still to drop all entries. -/
def Owes : Task → Prop
  | .change _ => True
  | _ => False

instance decidableOwes : DecidablePred Owes
  | .change _ => .isTrue trivial
  | .lookup _ | .clients _ | .groupRules _ _ _ | .groupRewrites _ _ _ _ | .insert _ _
  | .deleteGroup _ | .commitDelete _ | .expire _ => .isFalse id

def Admissible (shared : Shared) (others : List Task) (task : Task) (_ : Unit) : Prop :=
  match task with
  | .insert _ entry => entry.since = shared.commits ∨ ∃ other ∈ others, Owes other
  | .commitDelete _ => shared.clientConfigCache = [] ∨ ∃ other ∈ others, Owes other
  | _ => True

instance decidableAdmissible (shared : Shared) (others : List Task) (input : Unit) :
    (task : Task) → Decidable (Admissible shared others task input)
  | .insert _ entry =>
    inferInstanceAs (Decidable (entry.since = shared.commits ∨ ∃ other ∈ others, _))
  | .commitDelete _ =>
    inferInstanceAs (Decidable (shared.clientConfigCache = [] ∨ ∃ other ∈ others, _))
  | .lookup _ | .clients _ | .groupRules _ _ _ | .groupRewrites _ _ _ _ | .change _
  | .deleteGroup _ | .expire _ => .isTrue trivial

end Conditions

/-! ## What a query has read -/

section Readings

variable [Unicode] [RegexCrate] [SerdeJson] [IpNetCrate]

def since? : Task → Option ℕ
  | .groupRules _ since _ => some since
  | .groupRewrites _ since _ _ => some since
  | .insert _ entry => some entry.since
  | _ => none

/-- All that the task has read is still so. -/
def ReadFrom (db : Database) : Task → Prop
  | .groupRules clientIp _ client => db.clients.rows.find? (·.isMatch clientIp) = some client
  | .groupRewrites clientIp _ client ruleset =>
    db.clients.rows.find? (·.isMatch clientIp) = some client ∧
      ruleset = loadGroupRulesForClient (fun _ => false) db client.id
  | .insert clientIp entry =>
    entry.config = resolveClientConfig (fun _ => false) db.decoding clientIp
  | _ => True

/-- If the number of commits is what it was at the first query of the task, then all
that it has read is still so. -/
def Dated (shared : Shared) (task : Task) : Prop :=
  ∀ since ∈ since? task, since ≤ shared.commits ∧
    (since = shared.commits → ReadFrom shared.db task)

omit [SerdeJson] [IpNetCrate] in
theorem since?_begin (request : Request) : since? request.begin = none := by
  cases request <;> rfl

variable {shared : Shared} {task : Task}

theorem Dated.commit (hdated : Dated shared task) (db : Database) :
    Dated { shared with db := db, commits := shared.commits + 1 } task := by
  intro since hsince
  obtain ⟨hle, -⟩ := hdated since hsince
  dsimp only
  exact ⟨by omega, fun hcommits => absurd hcommits (by omega)⟩

theorem dated_of_none (hnone : since? task = none) : Dated shared task := by
  intro since hsince
  rw [hnone] at hsince
  cases hsince

theorem dated_act (hdated : Dated shared task) :
    ∀ next ∈ (act shared task ()).2, Dated (act shared task ()).1 next := by
  intro next hnext
  cases task with
  | lookup clientIp =>
    simp only [act] at hnext ⊢
    split_ifs at hnext ⊢
    · cases hnext
    · obtain rfl := Option.mem_some_iff.mp hnext
      exact dated_of_none rfl
  | clients clientIp =>
    simp only [act] at hnext ⊢
    cases hfind : shared.db.clients.rows.find? (·.isMatch clientIp) with
    | none =>
      simp only [hfind] at hnext ⊢
      obtain rfl := Option.mem_some_iff.mp hnext
      rintro since hsince
      obtain rfl := Option.mem_some_iff.mp hsince
      refine ⟨le_rfl, fun _ => ?_⟩
      rw [ReadFrom, resolveClientConfig_decoding, hfind]
      rfl
    | some client =>
      simp only [hfind] at hnext ⊢
      obtain rfl := Option.mem_some_iff.mp hnext
      rintro since hsince
      obtain rfl := Option.mem_some_iff.mp hsince
      exact ⟨le_rfl, fun _ => hfind⟩
  | groupRules clientIp since client =>
    obtain rfl := Option.mem_some_iff.mp hnext
    obtain ⟨hle, hread⟩ := hdated since rfl
    rintro since' hsince
    obtain rfl := Option.mem_some_iff.mp hsince
    exact ⟨hle, fun hcommits => ⟨hread hcommits, rfl⟩⟩
  | groupRewrites clientIp since client ruleset =>
    obtain rfl := Option.mem_some_iff.mp hnext
    obtain ⟨hle, hread⟩ := hdated since rfl
    rintro since' hsince
    obtain rfl := Option.mem_some_iff.mp hsince
    refine ⟨hle, fun hcommits => ?_⟩
    obtain ⟨hfind, hruleset⟩ := hread hcommits
    change _ = resolveClientConfig (fun _ => false) shared.db.decoding clientIp
    rw [resolveClientConfig_decoding, hfind, hruleset]
    rfl
  | insert clientIp entry => cases hnext
  | change statements =>
    cases statements with
    | nil => cases hnext
    | cons statement rest =>
      obtain rfl := Option.mem_some_iff.mp hnext
      exact dated_of_none rfl
  | deleteGroup id =>
    simp only [act] at hnext ⊢
    split at hnext
    · cases hnext
    · obtain rfl := Option.mem_some_iff.mp hnext
      exact dated_of_none rfl
  | commitDelete id => cases hnext
  | expire clientIp => cases hnext

end Readings

/-! ## Runs -/

section Runs

variable [Unicode] [RegexCrate] [SerdeJson] [IpNetCrate]

structure Invariant (shared : Shared) (tasks : List Task) : Prop where
  dated : ∀ task ∈ tasks, Dated shared task
  settled : Tasks.Settled (Fresh shared) Owes tasks

theorem Invariant.perm {shared : Shared} {tasks tasks' : List Task} (hperm : tasks.Perm tasks')
    (hinvariant : Invariant shared tasks) : Invariant shared tasks' where
  dated task htask := hinvariant.dated task (hperm.symm.subset htask)
  settled := hinvariant.settled.perm hperm

theorem Invariant.begin {shared : Shared} {tasks : List Task} (request : Request)
    (hinvariant : Invariant shared tasks) : Invariant shared (request.begin :: tasks) where
  dated := List.forall_mem_cons.mpr ⟨dated_of_none (since?_begin request), hinvariant.dated⟩
  settled := hinvariant.settled.cons _

variable {shared : Shared} {others : List Task} {task : Task}

/-- The other tasks are dated after a step as well: it either leaves the database as it
was, or it commits. -/
theorem dated_others {other : Task} (hdated : Dated shared other) :
    Dated (act shared task ()).1 other := by
  cases task with
  | lookup clientIp =>
    simp only [act]
    split_ifs <;> exact hdated
  | clients clientIp =>
    simp only [act]
    split <;> exact hdated
  | change statements =>
    cases statements with
    | nil => exact hdated
    | cons statement rest => exact hdated.commit _
  | deleteGroup id =>
    simp only [act]
    split <;> exact hdated
  | commitDelete id => exact hdated.commit _
  | groupRules _ _ _ | groupRewrites _ _ _ _ | insert _ _ | expire _ => exact hdated

theorem settled_act (hinvariant : Invariant shared (task :: others))
    (hadmissible : Admissible shared others task ()) :
    Tasks.Settled (Fresh (act shared task ()).1) Owes
      ((act shared task ()).2.toList ++ others) := by
  have hsettled := hinvariant.settled
  cases task with
  | lookup clientIp =>
    simp only [act]
    split_ifs
    · exact hsettled.act id id
    · exact hsettled.act id id
  | clients clientIp =>
    simp only [act]
    split
    · exact hsettled.act id id
    · exact hsettled.act id id
  | groupRules clientIp since client => exact hsettled.act id id
  | groupRewrites clientIp since client ruleset => exact hsettled.act id id
  | insert clientIp entry =>
    rcases hadmissible with hcommits | howes
    · refine hsettled.act id fun hfresh => List.forall_mem_cons.mpr ⟨⟨hcommits, ?_⟩, ?_⟩
      · exact ((hinvariant.dated _ List.mem_cons_self) entry.since rfl).2 hcommits
      · exact fun pair hpair => hfresh pair (List.mem_of_mem_filter hpair)
    · exact Tasks.settled_of_others none howes
  | change statements =>
    cases statements with
    | nil => exact Or.inl fun _ hpair => absurd hpair List.not_mem_nil
    | cons statement rest => exact Tasks.settled_of_next trivial
  | deleteGroup id =>
    simp only [act]
    split
    · exact hsettled.act not_false fun hfresh => hfresh
    · exact Or.inl fun _ hpair => absurd hpair List.not_mem_nil
  | commitDelete id =>
    rcases hadmissible with hempty | howes
    · refine Or.inl fun pair hpair => ?_
      have hpair : pair ∈ shared.clientConfigCache := hpair
      rw [hempty] at hpair
      exact absurd hpair List.not_mem_nil
    · exact Tasks.settled_of_others none howes
  | expire clientIp =>
    exact hsettled.act id fun hfresh pair hpair => hfresh pair (List.mem_of_mem_filter hpair)

theorem invariant_act (hinvariant : Invariant shared (task :: others))
    (hadmissible : Admissible shared others task ()) :
    Invariant (act shared task ()).1 ((act shared task ()).2.toList ++ others) where
  dated := by
    obtain ⟨hdated, hothers⟩ := List.forall_mem_cons.mp hinvariant.dated
    exact Tasks.forall_next (dated_act hdated) fun other hother =>
      dated_others (hothers other hother)
  settled := settled_act hinvariant hadmissible

/-- **When no policy outlives a change.**  In an admissible run, whenever no handler is
still to drop the entries, every entry was computed after the last commit and is what
the database gives. -/
theorem fresh_of_admissible (state : Tasks.State Shared Task) (hinit : Fresh state.shared)
    (hidle : state.tasks = []) (events : List (Tasks.Event Request Unit))
    (hadmissible : ∀ point ∈ Machine.trace step state events,
      Tasks.AtAdvance Admissible point.1 point.2)
    (hdone : ∀ task ∈ (Machine.run step state events).tasks, ¬ Owes task) :
    Fresh (Machine.run step state events).shared := by
  have hstart : Invariant state.shared state.tasks := by
    rw [hidle]
    exact ⟨fun _ htask => absurd htask List.not_mem_nil, Or.inl hinit⟩
  obtain ⟨hend, -⟩ := Tasks.invariant_run Invariant (fun _ _ _ hperm => Invariant.perm hperm)
    (fun _ _ request => Invariant.begin request)
    (fun _ _ _ _ => invariant_act) hstart events hadmissible
  exact hend.settled.resolve_right fun ⟨task, htask, howes⟩ => hdone task htask howes

end Runs

/-! ### Entries that outlive a change -/

section Outlived

attribute [local instance] Unicode.ascii RegexCrate.fragment SerdeJson.plain IpNetCrate.cidr

def groupedClientDb : Database :=
  { filterOffDb with
    clientGroups := ⟨[⟨1, str "Kids", str "#000", none, 0, str "2026-01-01", str "2026-01-01"⟩],
      List.nodup_singleton _⟩
    clientGroupMemberships := ⟨[⟨str "c1", 1, str "2026-01-01"⟩], List.nodup_singleton _⟩ }

/-- The statement of `clients::update` that switches filtering on. -/
def enableFilter (db : Database) : Database :=
  { db with
    clients := db.clients.updateWhere (·.id == str "c1")
      (fun client => { client with filterEnabled := .bool true }) fun _ => rfl }

def coldState : Tasks.State Shared Task := ⟨⟨groupedClientDb, [], 0⟩, []⟩

def querySteps (index : ℕ) : List (Tasks.Event Request Unit) :=
  List.replicate 4 (.advance index ())

/-- A query reads the policy; filtering is switched on and the entries are dropped; the
query inserts what it has read. -/
def staleInsertRun : List (Tasks.Event Request Unit) :=
  .start (.query (str "192.168.1.10")) :: .start (.change [enableFilter]) ::
    (querySteps 0 ++ [.advance 1 (), .advance 1 (), .advance 0 ()])

/-- `delete_group` drops the entries; a query reads and inserts; the group is deleted. -/
def earlyInvalidationRun : List (Tasks.Event Request Unit) :=
  .start (.query (str "192.168.1.10")) :: .start (.deleteGroup 1) :: .advance 1 () ::
    (querySteps 0 ++ [.advance 0 (), .advance 0 ()])

/-- Both runs end with nothing in flight and an entry from before the commit; in the
first, filtering is still off for the client. -/
theorem not_fresh_staleInsertRun :
    (Machine.run step coldState staleInsertRun).tasks = [] ∧
      (Machine.run step coldState earlyInvalidationRun).tasks = [] ∧
      (Machine.run step coldState staleInsertRun).shared.clientConfigCache.map
        (fun pair => (pair.1, pair.2.config.filterEnabled)) = [(str "192.168.1.10", false)] ∧
      ¬ Fresh (Machine.run step coldState staleInsertRun).shared ∧
      ¬ Fresh (Machine.run step coldState earlyInvalidationRun).shared := by
  have holder : ∀ shared : Shared,
      (shared.clientConfigCache.any fun pair => pair.2.since != shared.commits) = true →
        ¬ Fresh shared := by
    intro shared hany hfresh
    obtain ⟨pair, hpair, hne⟩ := List.any_eq_true.mp hany
    exact bne_iff_ne.mp hne (hfresh pair hpair).1
  refine ⟨rfl, rfl, by decide +kernel, holder _ ?_, holder _ ?_⟩
  · decide +kernel
  · decide +kernel

def lateQueryRun : List (Tasks.Event Request Unit) :=
  .start (.change [enableFilter]) :: .advance 0 () :: .advance 0 () ::
    .start (.query (str "192.168.1.10")) :: (querySteps 0 ++ [.advance 0 ()])

theorem fresh_lateQueryRun : Fresh (Machine.run step coldState lateQueryRun).shared :=
  fresh_of_admissible coldState (fun _ hpair => absurd hpair List.not_mem_nil) rfl lateQueryRun
    (by decide +kernel) (by decide +kernel)

end Outlived

end RustDns.Api.PolicyRuns
