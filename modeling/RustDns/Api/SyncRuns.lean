import RustDns.Tasks
import RustDns.Dns.Sync
import RustDns.Api.Filters

/-!
# Downloads, refreshes and deletions side by side

`filters::create` and `filters::refresh` start `sync_filter_list` in the background.  It
downloads the list and then, in one transaction, deletes the rows that the list had and
inserts the new ones; `filters::delete` deletes the rows and then the list, in two
statements.  Nothing keeps two of these apart that work on the same list.

The transaction of a download deletes the rows that its own `DELETE` has seen, whatever
was committed since: two downloads that overlap both insert their rows, and a download
that commits after a deletion leaves rows without a list (`consistent_of_admissible`).

All queries are taken to succeed; a download may fail.
-/

namespace RustDns.Api.SyncRuns

open Text

/-! ## The tasks -/

/-- What the tasks share.  The code keeps no log: here it has, newest first, each commit
that changed the rows of a list, with the rules of a download, or none for a deletion. -/
structure Shared where
  db : Database
  log : List (Str × Option (List Str))

structure Input where
  newId : ℕ → Str
  now : Str
  fetched : Option Str

inductive Task where
  | create (body : Filters.CreateFilterRequest)
  | refresh (id : Str)
  /-- `sync_filter_list` before the download has ended, before its `DELETE`, before its
  `COMMIT`, and before it writes the number of rules. -/
  | fetch (id : Str)
  | clear (id now content : Str)
  | commit (id now content : Str) (seen : List Str) (since : ℕ)
  | metadata (id now : Str) (count : ℕ)
  /-- `filters::delete` before each of its statements. -/
  | deleteRules (id : Str)
  | deleteList (id : Str)

inductive Request where
  | create (body : Filters.CreateFilterRequest)
  | refresh (id : Str)
  | delete (id : Str)

def Request.begin : Request → Task
  | create body => .create body
  | refresh id => .refresh id
  | delete id => .deleteRules id

def tagged (db : Database) (id : Str) : List CustomRule :=
  db.customRules.rows.filter (·.createdBy = filterPrefix id)

def writes (log : List (Str × Option (List Str))) (id : Str) : ℕ := log.countP (·.1 = id)

/-- The rules of the last download of a list, if they were not deleted since. -/
def latest (log : List (Str × Option (List Str))) (id : Str) : Option (List Str) :=
  (log.lookup id).join

def Listed (db : Database) (id : Str) : Prop := ∃ list ∈ db.filterLists.rows, list.id = id

instance decidableListed (db : Database) (id : Str) : Decidable (Listed db id) :=
  inferInstanceAs (Decidable (∃ list ∈ db.filterLists.rows, list.id = id))

section Model

variable [Unicode]

def createdRow (input : Input) (body : Filters.CreateFilterRequest) : FilterList :=
  { id := input.newId 0, name := trim body.name, url := body.url, isEnabled := body.isEnabled
    ruleCount := 0, lastUpdated := none, createdAt := input.now
    updateIntervalHours := body.updateIntervalHours }

def act (shared : Shared) (task : Task) (input : Input) : Shared × Option Task :=
  match task with
  | .create body =>
    let row := createdRow input body
    if row.name = [] then (shared, none)
    else if Filters.isTaken shared.db.filterLists row.id row.url then (shared, none)
    else match shared.db.filterLists.insert row with
      | none => (shared, none)
      | some table =>
        ({ shared with db := { shared.db with filterLists := table } },
          row.url.map fun _ => .fetch row.id)
  | .refresh id =>
    match shared.db.filterLists.find? id with
    | none => (shared, none)
    | some list => (shared, list.url.map fun _ => .fetch id)
  | .fetch id => (shared, input.fetched.map fun content => .clear id input.now content)
  | .clear id now content =>
    -- the rows that this statement sees are the ones that the transaction deletes
    (shared, some (.commit id now content ((tagged shared.db id).map CustomRule.id)
      (writes shared.log id)))
  | .commit id now content seen _ =>
    let rows := importedRows input.newId now id content
    ({ db := { shared.db with
          customRules := rows.foldl Table.insertOrIgnore
            (shared.db.customRules.deleteWhere (·.id ∈ seen)) }
       log := (id, some (rows.map CustomRule.rule)) :: shared.log },
      some (.metadata id now rows.length))
  | .metadata id now count =>
    ({ shared with
        db := { shared.db with
          filterLists := shared.db.filterLists.updateWhere (·.id = id)
            (fun list => { list with ruleCount := count, lastUpdated := some now })
            fun _ => rfl } },
      none)
  | .deleteRules id =>
    ({ db := { shared.db with
          customRules := shared.db.customRules.deleteWhere (·.createdBy = filterPrefix id) }
       log := (id, none) :: shared.log },
      some (.deleteList id))
  | .deleteList id =>
    ({ shared with
        db := { shared.db with
          filterLists := shared.db.filterLists.deleteWhere (·.id = id) } },
      none)

abbrev step : Tasks.State Shared Task → Tasks.Event Request Input →
    Tasks.State Shared Task × Unit :=
  Tasks.step Request.begin act

/-- The rows of a list are one copy of the rules of its last download, and there are none
without a list. -/
structure Consistent (shared : Shared) (id : Str) : Prop where
  rules : (tagged shared.db id).map CustomRule.rule = (latest shared.log id).getD []
  listed : tagged shared.db id ≠ [] → Listed shared.db id

def deletes (id : Str) : Task → Bool
  | .deleteList other => other = id
  | _ => false

/-- A download commits only if nothing has changed the rows of its list since its
`DELETE`, the list is there, and nobody is about to delete it; its ids are new. -/
def Admissible (shared : Shared) (others : List Task) (task : Task) (input : Input) : Prop :=
  match task with
  | .commit id now content seen since =>
    since = writes shared.log id ∧ Listed shared.db id ∧
      (∀ other ∈ others, deletes id other = false) ∧
      (((shared.db.customRules.deleteWhere (·.id ∈ seen)).rows ++
        importedRows input.newId now id content).map CustomRule.id).Nodup
  | _ => True

instance decidableAdmissible (shared : Shared) (others : List Task) (input : Input) :
    (task : Task) → Decidable (Admissible shared others task input)
  | .commit id _ _ _ since =>
    inferInstanceAs (Decidable (since = writes shared.log id ∧ Listed shared.db id ∧ _ ∧ _))
  | .create _ | .refresh _ | .fetch _ | .clear _ _ _ | .metadata _ _ _ | .deleteRules _
  | .deleteList _ => .isTrue trivial

end Model

/-! ## The rows of a list -/

theorem filterPrefix_inj {id id' : Str} : filterPrefix id = filterPrefix id' ↔ id = id' :=
  List.append_right_inj _

section Log

variable {log : List (Str × Option (List Str))} {id id' : Str} {entry : Option (List Str)}

theorem latest_cons_self : latest ((id, entry) :: log) id = entry := by
  simp [latest]

theorem latest_cons_of_ne (hne : id' ≠ id) : latest ((id, entry) :: log) id' = latest log id' := by
  simp [latest, List.lookup_cons, beq_false_of_ne hne]

theorem writes_cons_self : writes ((id, entry) :: log) id = writes log id + 1 := by
  simp [writes]

theorem writes_cons_of_ne (hne : id' ≠ id) : writes ((id, entry) :: log) id' = writes log id' := by
  simp [writes, hne.symm]

end Log

section Rows

variable {db : Database} {id : Str}

theorem filter_deleteWhere_tagged (table : Table CustomRule.id) {id' : Str} (hne : id' ≠ id) :
    (table.deleteWhere (·.createdBy = filterPrefix id)).rows.filter
        (·.createdBy = filterPrefix id') =
      table.rows.filter (·.createdBy = filterPrefix id') := by
  refine Table.filter_deleteWhere fun row _ hrow => ?_
  simp only [decide_eq_true_eq] at hrow
  simpa [hrow, filterPrefix_inj] using hne

theorem filter_deleteWhere_tagged_self (table : Table CustomRule.id) :
    (table.deleteWhere (·.createdBy = filterPrefix id)).rows.filter
      (·.createdBy = filterPrefix id) = [] := by
  simp [Table.deleteWhere, List.filter_filter]

variable [Unicode] {newId : ℕ → Str} {now content : Str}

theorem createdBy_of_mem_importedRows {row : CustomRule}
    (hrow : row ∈ importedRows newId now id content) : row.createdBy = filterPrefix id := by
  obtain ⟨i, hi, rfl⟩ := List.mem_mapIdx.mp hrow
  rfl

theorem storeRules_eq (shared : Shared) (since : ℕ) (input : Input) :
    (act (act shared (.commit id now content ((tagged shared.db id).map CustomRule.id) since)
        input).1
      (.metadata id now (importedRows input.newId now id content).length) input).1.db =
      storeRules input.newId now id content shared.db := by
  simp only [act, storeRules]
  rw [tagged, Table.deleteWhere_mem_map_key]

/-- The rows after the commit of a download whose `DELETE` has seen all rows of the list. -/
theorem rows_commit
    (hnodup : (((db.customRules.deleteWhere
        (fun row => row.id ∈ (tagged db id).map CustomRule.id)).rows ++
      importedRows newId now id content).map CustomRule.id).Nodup) :
    ((importedRows newId now id content).foldl Table.insertOrIgnore (db.customRules.deleteWhere
        fun row => row.id ∈ (tagged db id).map CustomRule.id)).rows =
      (db.customRules.deleteWhere (·.createdBy = filterPrefix id)).rows ++
        importedRows newId now id content := by
  rw [Table.rows_foldl_insertOrIgnore hnodup, tagged, Table.deleteWhere_mem_map_key]

end Rows

/-! ## Runs -/

section Runs

variable {shared after : Shared} {id : Str} {entry : Option (List Str)}

structure Write (shared after : Shared) (id : Str) (entry : Option (List Str)) : Prop where
  log : after.log = (id, entry) :: shared.log
  lists : after.db.filterLists = shared.db.filterLists
  rules : (tagged after.db id).map CustomRule.rule = entry.getD []
  others : ∀ id' ≠ id, tagged after.db id' = tagged shared.db id'

theorem write_deleteRules [Unicode] (shared : Shared) (id : Str) (input : Input) :
    Write shared (act shared (.deleteRules id) input).1 id none where
  log := rfl
  lists := rfl
  rules := congrArg (List.map CustomRule.rule) (filter_deleteWhere_tagged_self _)
  others _ hne := filter_deleteWhere_tagged _ hne

/-- What a task has seen is still so unless the rows of its list were changed since, and
where a list is about to be deleted it has no rows. -/
def Holds (shared : Shared) : Task → Prop
  | .commit id _ _ seen since => since ≤ writes shared.log id ∧
      (since = writes shared.log id → seen = (tagged shared.db id).map CustomRule.id)
  | .deleteList id => tagged shared.db id = []
  | _ => True

theorem write_commit [Unicode] {now content : Str} {seen : List Str} {since : ℕ}
    {others : List Task} {input : Input} (hholds : Holds shared (.commit id now content seen since))
    (hadmissible : Admissible shared others (.commit id now content seen since) input) :
    Write shared (act shared (.commit id now content seen since) input).1 id
      (some ((importedRows input.newId now id content).map CustomRule.rule)) := by
  obtain ⟨hsince, -, -, hnodup⟩ := hadmissible
  obtain rfl := hholds.2 hsince
  have hrows := rows_commit hnodup
  have htagged : ∀ id', tagged (act shared (.commit id now content
      ((tagged shared.db id).map CustomRule.id) since) input).1.db id' =
      (shared.db.customRules.deleteWhere (·.createdBy = filterPrefix id)).rows.filter
          (·.createdBy = filterPrefix id') ++
        (importedRows input.newId now id content).filter (·.createdBy = filterPrefix id') := by
    intro id'
    rw [← List.filter_append, ← hrows]
    rfl
  refine ⟨rfl, rfl, ?_, fun id' hne => ?_⟩
  · have hall : (importedRows input.newId now id content).filter
        (·.createdBy = filterPrefix id) = importedRows input.newId now id content :=
      List.filter_eq_self.mpr fun _ hrow => decide_eq_true (createdBy_of_mem_importedRows hrow)
    rw [htagged, filter_deleteWhere_tagged_self, List.nil_append, hall]
    rfl
  · have hnone : (importedRows input.newId now id content).filter
        (·.createdBy = filterPrefix id') = [] := by
      refine List.filter_eq_nil_iff.mpr fun row hrow htag => hne ?_
      rw [decide_eq_true_iff, createdBy_of_mem_importedRows hrow, filterPrefix_inj] at htag
      exact htag.symm
    rw [htagged, filter_deleteWhere_tagged _ hne, hnone, List.append_nil]
    rfl

/-- After a commit the tasks that have seen the rows before it know that they are late. -/
theorem Holds.write {task : Task} (hwrite : Write shared after id entry)
    (hdelete : deletes id task = true → tagged after.db id = []) (hholds : Holds shared task) :
    Holds after task := by
  cases task with
  | commit id' now content seen since =>
    obtain ⟨hle, hseen⟩ := hholds
    rw [Holds, hwrite.log]
    by_cases hid : id' = id
    · subst hid
      rw [writes_cons_self]
      exact ⟨by omega, fun hsince => absurd hsince (by omega)⟩
    · rw [writes_cons_of_ne hid, hwrite.others id' hid]
      exact ⟨hle, hseen⟩
  | deleteList id' =>
    by_cases hid : id' = id
    · subst hid
      exact hdelete (decide_eq_true rfl)
    · exact (hwrite.others id' hid).trans hholds
  | create _ | refresh _ | fetch _ | clear _ _ _ | metadata _ _ _ | deleteRules _ => trivial

theorem Consistent.write {id' : Str} (hwrite : Write shared after id entry)
    (hlisted : tagged after.db id ≠ [] → Listed shared.db id)
    (hconsistent : Consistent shared id') : Consistent after id' := by
  have hlists : ∀ id, Listed after.db id ↔ Listed shared.db id := by
    intro id
    unfold Listed
    rw [hwrite.lists]
  by_cases hid : id' = id
  · subst hid
    refine ⟨?_, fun hrows => (hlists _).mpr (hlisted hrows)⟩
    rw [hwrite.rules, hwrite.log, latest_cons_self]
  · refine ⟨?_, ?_⟩
    · rw [hwrite.others id' hid, hwrite.log, latest_cons_of_ne hid]
      exact hconsistent.rules
    · rw [hwrite.others id' hid, hlists]
      exact hconsistent.listed

structure Invariant (shared : Shared) (tasks : List Task) : Prop where
  consistent : ∀ id, Consistent shared id
  holds : ∀ task ∈ tasks, Holds shared task

theorem Invariant.perm {tasks tasks' : List Task} (hperm : tasks.Perm tasks')
    (hinvariant : Invariant shared tasks) : Invariant shared tasks' where
  consistent := hinvariant.consistent
  holds task htask := hinvariant.holds task (hperm.symm.subset htask)

theorem Invariant.begin {tasks : List Task} (request : Request)
    (hinvariant : Invariant shared tasks) : Invariant shared (request.begin :: tasks) where
  consistent := hinvariant.consistent
  holds := List.forall_mem_cons.mpr ⟨by cases request <;> trivial, hinvariant.holds⟩

variable {others : List Task} {task : Task} {next : Option Task}

theorem Invariant.quiet (hinvariant : Invariant shared (task :: others))
    (hrules : after.db.customRules = shared.db.customRules) (hlog : after.log = shared.log)
    (hlisted : ∀ id, tagged shared.db id ≠ [] → Listed shared.db id → Listed after.db id)
    (hnext : ∀ task ∈ next, Holds after task) : Invariant after (next.toList ++ others) := by
  have htagged : ∀ id, tagged after.db id = tagged shared.db id := by
    intro id
    unfold tagged
    rw [hrules]
  have hothers : ∀ other ∈ others, Holds after other := by
    intro other hother
    have hholds := hinvariant.holds other (List.mem_cons_of_mem _ hother)
    cases other with
    | commit _ _ _ _ _ | deleteList _ => simpa only [Holds, hlog, htagged] using hholds
    | create _ | refresh _ | fetch _ | clear _ _ _ | metadata _ _ _ | deleteRules _ => trivial
  refine ⟨fun id => ⟨?_, fun hrows => ?_⟩, Tasks.forall_next hnext hothers⟩
  · rw [htagged, hlog]
    exact (hinvariant.consistent id).rules
  · rw [htagged] at hrows
    exact hlisted id hrows ((hinvariant.consistent id).listed hrows)

theorem Invariant.write (hinvariant : Invariant shared (task :: others))
    (hwrite : Write shared after id entry) (hlisted : tagged after.db id ≠ [] → Listed shared.db id)
    (hdelete : ∀ other ∈ others, deletes id other = true → tagged after.db id = [])
    (hnext : ∀ task ∈ next, Holds after task) : Invariant after (next.toList ++ others) := by
  refine ⟨fun id => (hinvariant.consistent id).write hwrite hlisted,
    Tasks.forall_next hnext fun other hother => ?_⟩
  exact (hinvariant.holds other (List.mem_cons_of_mem _ hother)).write hwrite
    (hdelete other hother)

theorem Invariant.read (hinvariant : Invariant shared (task :: others))
    (hnext : ∀ task ∈ next, Holds shared task) : Invariant shared (next.toList ++ others) :=
  hinvariant.quiet rfl rfl (fun _ _ hlisted => hlisted) hnext

theorem holds_fetch (url : Option Str) (id : Str) :
    ∀ task ∈ url.map fun _ => Task.fetch id, Holds shared task := by
  intro task htask
  obtain ⟨-, -, rfl⟩ := Option.map_eq_some_iff.mp htask
  trivial

theorem invariant_act [Unicode] (shared : Shared) (others : List Task) (task : Task)
    (input : Input) (hinvariant : Invariant shared (task :: others))
    (hadmissible : Admissible shared others task input) :
    Invariant (act shared task input).1 ((act shared task input).2.toList ++ others) := by
  cases task with
  | create body =>
    simp only [act]
    split_ifs
    · exact hinvariant.read Tasks.forall_none
    · exact hinvariant.read Tasks.forall_none
    · cases hinsert : shared.db.filterLists.insert (createdRow input body) with
      | none => exact hinvariant.read Tasks.forall_none
      | some table =>
        refine hinvariant.quiet rfl rfl ?_ (holds_fetch _ _)
        rintro id - ⟨list, hlist, hid⟩
        refine ⟨list, ?_, hid⟩
        rw [Table.rows_of_insert hinsert]
        exact List.mem_append_left _ hlist
  | refresh id =>
    simp only [act]
    split
    · exact hinvariant.read Tasks.forall_none
    · exact hinvariant.read (holds_fetch _ _)
  | fetch id =>
    refine hinvariant.read fun task htask => ?_
    obtain ⟨content, -, rfl⟩ := Option.map_eq_some_iff.mp htask
    trivial
  | clear id now content =>
    exact hinvariant.read (Tasks.forall_some ⟨le_rfl, fun _ => rfl⟩)
  | commit id now content seen since =>
    have hwrite := write_commit (hinvariant.holds _ List.mem_cons_self) hadmissible
    obtain ⟨-, hlisted, hdelete, -⟩ := hadmissible
    refine hinvariant.write hwrite (fun _ => hlisted) (fun other hother hid => ?_)
      (Tasks.forall_some trivial)
    rw [hdelete other hother] at hid
    cases hid
  | metadata id now count =>
    refine hinvariant.quiet rfl rfl ?_ Tasks.forall_none
    rintro id' - ⟨list, hlist, hid⟩
    have hids : id' ∈ (act shared (.metadata id now count) input).1.db.filterLists.rows.map
        FilterList.id := by
      simp only [act, Table.map_key_updateWhere]
      exact List.mem_map.mpr ⟨list, hlist, hid⟩
    exact List.mem_map.mp hids
  | deleteRules id =>
    have hwrite := write_deleteRules shared id input
    have hgone := List.map_eq_nil_iff.mp hwrite.rules
    exact hinvariant.write hwrite (fun hrows => absurd hgone hrows) (fun _ _ _ => hgone)
      (Tasks.forall_some hgone)
  | deleteList id =>
    have hgone : tagged shared.db id = [] := hinvariant.holds _ List.mem_cons_self
    refine hinvariant.quiet rfl rfl ?_ Tasks.forall_none
    rintro id' hrows ⟨list, hlist, hid⟩
    have hne : id' ≠ id := fun hid => hrows (hid ▸ hgone)
    exact ⟨list, List.mem_filter.mpr ⟨hlist, by simpa [hid] using hne⟩, hid⟩

/-- **When imported rules follow their lists.**  If every download commits in time, then
after every step the rows of a list are one copy of the rules of its last download, and
there are none without a list. -/
theorem consistent_of_admissible [Unicode] (state : Tasks.State Shared Task)
    (hinit : ∀ id, Consistent state.shared id) (hidle : state.tasks = [])
    (events : List (Tasks.Event Request Input))
    (hadmissible : ∀ point ∈ Machine.trace step state events,
      Tasks.AtAdvance Admissible point.1 point.2) (id : Str) :
    Consistent (Machine.run step state events).shared id := by
  have hstart : Invariant state.shared state.tasks := by
    rw [hidle]
    exact ⟨hinit, fun _ htask => absurd htask List.not_mem_nil⟩
  obtain ⟨hend, -⟩ := Tasks.invariant_run Invariant (fun _ _ _ hperm => Invariant.perm hperm)
    (fun _ _ request => Invariant.begin request) invariant_act hstart events hadmissible
  exact hend.consistent id

end Runs

/-! ### Downloads that commit late -/

section Late

attribute [local instance] Unicode.ascii

def subscribedState : Tasks.State Shared Task := ⟨⟨subscribedDb, []⟩, []⟩

def adsInput (id : String) : Input where
  newId i := str id ++ exampleId i
  now := str "2026-02-01"
  fetched := some (str "||ads.com^\n")

def goesOn (index count : ℕ) (id : String) : List (Tasks.Event Request Input) :=
  List.replicate count (.advance index (adsInput id))

def overlappingRun : List (Tasks.Event Request Input) :=
  .start (.refresh (str "l1")) :: .start (.refresh (str "l1")) ::
    (goesOn 0 3 "a" ++ goesOn 1 3 "b" ++ goesOn 0 2 "a" ++ goesOn 0 2 "b")

def deletedRun : List (Tasks.Event Request Input) :=
  .start (.refresh (str "l1")) :: .start (.delete (str "l1")) ::
    (goesOn 0 2 "a" ++ goesOn 1 2 "b" ++ goesOn 0 3 "a")

/-- When all has ended, the first run has left two copies of the rule that both downloads
had, and the second a rule of a list that is gone. -/
theorem not_consistent_overlappingRun :
    let overlapping := Machine.run step subscribedState overlappingRun
    let deleted := Machine.run step subscribedState deletedRun
    (overlapping.tasks.length = 0 ∧ Listed overlapping.shared.db (str "l1") ∧
      (tagged overlapping.shared.db (str "l1")).map CustomRule.rule =
        [str "||ads.com^", str "||ads.com^"] ∧
      overlapping.shared.log.map Prod.snd = [some [str "||ads.com^"], some [str "||ads.com^"]]) ∧
    (deleted.tasks.length = 0 ∧ ¬ Listed deleted.shared.db (str "l1") ∧
      (tagged deleted.shared.db (str "l1")).map CustomRule.rule = [str "||ads.com^"]) ∧
    ¬ Consistent overlapping.shared (str "l1") ∧ ¬ Consistent deleted.shared (str "l1") := by
  refine ⟨by decide +kernel, by decide +kernel, fun hconsistent => ?_, fun hconsistent => ?_⟩
  · exact absurd hconsistent.rules (by decide +kernel)
  · exact absurd hconsistent.listed (by decide +kernel)

def separateRun : List (Tasks.Event Request Input) :=
  .start (.refresh (str "l1")) :: goesOn 0 5 "a" ++ .start (.refresh (str "l1")) ::
    goesOn 0 5 "b" ++ .start (.delete (str "l1")) :: goesOn 0 2 "c"

theorem consistent_separateRun :
    Consistent (Machine.run step subscribedState separateRun).shared (str "l1") :=
  consistent_of_admissible subscribedState (fun _ => ⟨rfl, fun hrows => absurd rfl hrows⟩) rfl
    separateRun (by decide +kernel) (str "l1")

end Late

end RustDns.Api.SyncRuns
