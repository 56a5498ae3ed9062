import RustDns.Batches
import RustDns.Api.State

/-!
# The client groups

The handlers of `handlers/client_groups.rs` that write.  Most of them drop all
cached policies when they have written; three do not:

* creating a group, which has no members yet;
* moving clients, which invalidates an entry of `AppState::client_config_cache`.
  No request fills that cache, so it is not part of the state; the policies are
  cached in `DnsHandler::client_config_cache`;
* binding rules, when one of them has an unknown type: the handler returns the
  error, and the rules before it stay bound.
-/

namespace RustDns.Api.ClientGroups

open Text Program

def display (n : ℤ) : Str := str (toString n)

def groupNotFound (id : ℤ) : AppError :=
  .notFound (str "Client group " ++ display id ++ str " not found")

def nameExists (name : Str) : AppError :=
  .conflict (str "Group name '" ++ name ++ str "' already exists")

/-- `COUNT(DISTINCT client_id)` of the memberships of a group. -/
def clientCount (db : Database) (id : ℤ) : ℕ :=
  db.clientGroupMemberships.rowsAffected (·.groupId = id)

/-- `COUNT(*)` of the bindings of a group. -/
def ruleCount (db : Database) (id : ℤ) : ℕ := db.clientGroupRules.rowsAffected (·.groupId = id)

section Groups

variable [Unicode] [RegexCrate]

/-! ## Groups -/

structure CreateClientGroupRequest where
  name : Str
  color : Option Str
  description : Option Str
  priority : Option ℤ

structure GroupResponse where
  group : ClientGroup
  clientCount : ℕ
  ruleCount : ℕ
deriving DecidableEq

/-- `create_group`, with the id that the sequence of the table gives. -/
def createGroup (env : Env) (nextId : ℤ) (body : CreateClientGroupRequest) :
    ApiM GroupResponse := do
  let name := trim body.name
  if name = [] then throw (.validation (str "Group name cannot be empty"))
  else
    let table := (← get).db.clientGroups
    if table.rows.any (·.name = name) then throw (nameExists name)
    else
      let row : ClientGroup :=
        { id := nextId, name, color := body.color.getD (str "#6366f1")
          description := body.description, priority := body.priority.getD 0
          createdAt := env.now, updatedAt := env.now }
      match table.insert row with
      | none => throw .database
      | some table =>
        modifyDb fun db => { db with clientGroups := table }
        return ⟨row, 0, 0⟩

structure UpdateClientGroupRequest where
  name : Option Str
  color : Option Str
  description : Option Str
  priority : Option ℤ

def updatedName (table : Table ClientGroup.id) (existing : ClientGroup) :
    Option Str → Except AppError Str
  | none => .ok existing.name
  | some newName =>
    let name := trim newName
    if name = [] then .error (.validation (str "Group name cannot be empty"))
    else if name ≠ existing.name ∧
        table.rows.any fun row => row.name = name && row.id != existing.id then
      .error (nameExists name)
    else .ok name

def UpdateClientGroupRequest.apply (body : UpdateClientGroupRequest) (now name : Str)
    (row : ClientGroup) : ClientGroup :=
  { row with
    name
    color := body.color.getD row.color
    description := body.description <|> row.description
    priority := body.priority.getD row.priority
    updatedAt := now }

def updateGroup (env : Env) (id : ℤ) (body : UpdateClientGroupRequest) :
    ApiM GroupResponse := do
  let table := (← get).db.clientGroups
  match table.find? id with
  | none => throw (groupNotFound id)
  | some existing =>
    match updatedName table existing body.name with
    | .error e => throw e
    | .ok name =>
      modifyDb fun db => { db with
        clientGroups := db.clientGroups.updateWhere (·.id = id) (body.apply env.now name)
          fun _ => rfl }
      invalidateAllClientCache
      let db := (← get).db
      return ⟨body.apply env.now name existing, clientCount db id, ruleCount db id⟩

/-- The transaction of `delete_group`. -/
def deleteStatements (id : ℤ) (db : Database) : Database :=
  { db with
    clientGroupMemberships := db.clientGroupMemberships.deleteWhere (·.groupId = id)
    clientGroupRules := db.clientGroupRules.deleteWhere (·.groupId = id)
    clientGroups := db.clientGroups.deleteWhere (·.id = id) }

/-- The response of `delete_group`. -/
structure DeleteResponse where
  message : Str
  affectedClients : ℕ
  affectedRules : ℕ
deriving DecidableEq

def deleteGroup (id : ℤ) : ApiM DeleteResponse := do
  let db := (← get).db
  match db.clientGroups.find? id with
  | none => throw (groupNotFound id)
  | some existing =>
    invalidateAllClientCache
    modifyDb (deleteStatements id)
    return ⟨str "Group '" ++ existing.name ++ str "' deleted successfully", clientCount db id,
      ruleCount db id⟩

/-! ## Members -/

def invalidateIfAny (count : ℕ) : ApiM Unit :=
  if count > 0 then invalidateAllClientCache else pure ()

abbrev Memberships := Table fun row : GroupMembership => (row.clientId, row.groupId)

/-- The response of `batch_add_clients`. -/
structure AddResponse where
  message : Str
  addedCount : ℕ
  skippedCount : ℕ
  skippedClients : List Str
deriving DecidableEq

/-- The loop of `batch_add_clients`: the table, the number of added clients and
the skipped ones; nothing when an insertion fails, which rolls it back. -/
def addClients (now : Str) (id : ℤ) (clients : Table Client.id) :
    List Str → Memberships → Option (Memberships × ℕ × List Str)
  | [], table => some (table, 0, [])
  | clientId :: rest, table =>
    if (clients.find? clientId).isNone ∨ (table.find? (clientId, id)).isSome then
      (addClients now id clients rest table).map fun (after, added, skipped) =>
        (after, added, clientId :: skipped)
    else match table.insert ⟨clientId, id, now⟩ with
      | none => none
      | some table =>
        (addClients now id clients rest table).map fun (after, added, skipped) =>
          (after, added + 1, skipped)

def batchAddClients (env : Env) (id : ℤ) (clientIds : List Str) : ApiM AddResponse := do
  let db := (← get).db
  if (db.clientGroups.find? id).isNone then throw (groupNotFound id)
  else match addClients env.now id db.clients clientIds db.clientGroupMemberships with
    | none => throw .database
    | some (table, added, skipped) =>
      modifyDb fun db => { db with clientGroupMemberships := table }
      invalidateIfAny added
      return ⟨str "Added " ++ display added ++ str " clients to group", added, skipped.length,
        skipped⟩

structure RemoveResponse where
  message : Str
  count : ℕ
deriving DecidableEq

def batchRemoveClients (id : ℤ) (clientIds : List Str) : ApiM RemoveResponse := do
  let db := (← get).db
  if (db.clientGroups.find? id).isNone then throw (groupNotFound id)
  else
    let (table, removed) := db.clientGroupMemberships.deleteEach
      (clientIds.map fun clientId row => row.clientId = clientId && row.groupId = id)
    modifyDb fun db => { db with clientGroupMemberships := table }
    invalidateIfAny removed
    return ⟨str "Removed " ++ display removed ++ str " clients from group", removed⟩

structure BatchMoveClientsRequest where
  clientIds : List Str
  fromGroupId : Option ℤ
  toGroupId : Option ℤ

def groupCustomRules (db : Database) (id : ℤ) : List CustomRule :=
  db.customRules.rows.filter fun rule => rule.isEnabled &&
    db.clientGroupRules.rows.any fun binding =>
      binding.ruleId = rule.id && binding.groupId = id && binding.ruleType = str "custom_rule"

/-- `DELETE FROM client_group_memberships` for one client and group. -/
def leaveGroup (db : Database) (clientId : Str) (id : ℤ) : Database :=
  { db with
    clientGroupMemberships := db.clientGroupMemberships.deleteWhere fun row =>
      row.clientId = clientId && row.groupId = id }

/-- `INSERT INTO client_group_memberships … ON CONFLICT … DO UPDATE`. -/
def enterGroup (now : Str) (db : Database) (clientId : Str) (id : ℤ) : Database :=
  { db with
    clientGroupMemberships := db.clientGroupMemberships.upsert ⟨clientId, id, now⟩
      (fun row => { row with createdAt := now }) fun _ => rfl }

/-- One turn of the loop of `batch_move_clients`, with the rules of the group that
the client is moved to. -/
def moveClient (now : Str) (body : BatchMoveClientsRequest) (db : Database) (clientId : Str) :
    Database × Option (List CustomRule) :=
  if (db.clients.find? clientId).isNone then (db, none)
  else
    let db := body.fromGroupId.elim db (leaveGroup db clientId)
    match body.toGroupId with
    | none => (db, none)
    | some id =>
      if (db.clientGroups.find? id).isNone then (db, none)
      else (enterGroup now db clientId id, some (groupCustomRules db id))

/-- The loop of `batch_move_clients`. -/
def moveClients (now : Str) (body : BatchMoveClientsRequest) :
    List Str → Database → Database × List (List CustomRule)
  | [], db => (db, [])
  | clientId :: rest, db =>
    let (after, rules) := moveClient now body db clientId
    let (last, applied) := moveClients now body rest after
    (last, rules.toList ++ applied)

/-- The response of `batch_move_clients`. -/
structure MoveResponse where
  message : Str
  movedCount : ℕ
  appliedRules : List CustomRule
deriving DecidableEq

def batchMoveClients (env : Env) (body : BatchMoveClientsRequest) : ApiM MoveResponse := do
  let (after, applied) := moveClients env.now body body.clientIds (← get).db
  modifyDb fun _ => after
  return ⟨str "Moved " ++ display applied.length ++ str " clients to group", applied.length,
    applied.flatten⟩

/-! ## Bindings -/

structure BindRuleRequest where
  ruleId : Str
  ruleType : Str
  priority : Option ℤ

def BindRuleRequest.hasRuleType (rule : BindRuleRequest) : Bool :=
  rule.ruleType == str "custom_rule" || rule.ruleType == str "rewrite"

def BindRuleRequest.isIn (rule : BindRuleRequest) (db : Database) : Bool :=
  if rule.ruleType = str "custom_rule" then (db.customRules.find? rule.ruleId).isSome
  else (db.dnsRewrites.find? rule.ruleId).isSome

structure SkippedRule where
  ruleId : Str
  ruleType : Str
  reason : Str
deriving DecidableEq

/-- What one turn of the loop of `batch_bind_rules` does. -/
inductive BindOutcome where
  | failed (error : AppError)
  | skipped (reason : Str)
  | bound (table : Table fun row : GroupRule => (row.groupId, row.ruleId, row.ruleType))

/-- One turn of the loop of `batch_bind_rules`. -/
def bindRule (now : Str) (id : ℤ) (db : Database) (rule : BindRuleRequest) : BindOutcome :=
  if ! rule.hasRuleType then
    .failed (.validation (str "Invalid rule type: " ++ rule.ruleType ++
      str " (must be 'custom_rule' or 'rewrite')"))
  else if ! rule.isIn db then .skipped (str "Rule not found")
  else if (db.clientGroupRules.find? (id, rule.ruleId, rule.ruleType)).isSome then
    .skipped (str "Already bound")
  else match db.clientGroupRules.insert
      ⟨id, rule.ruleId, rule.ruleType, rule.priority.getD 0, now⟩ with
    | none => .failed .database
    | some table => .bound table

/-- The loop of `batch_bind_rules`: the database after it, and the number of bound
rules with the skipped ones, or the error that ends it. -/
def bindRules (now : Str) (id : ℤ) :
    List BindRuleRequest → Database → Database × Except AppError (ℕ × List SkippedRule)
  | [], db => (db, .ok (0, []))
  | rule :: rest, db =>
    match bindRule now id db rule with
    | .failed e => (db, .error e)
    | .skipped reason =>
      let after := bindRules now id rest db
      (after.1, after.2.map fun counted =>
        (counted.1, ⟨rule.ruleId, rule.ruleType, reason⟩ :: counted.2))
    | .bound table =>
      let after := bindRules now id rest { db with clientGroupRules := table }
      (after.1, after.2.map fun counted => (counted.1 + 1, counted.2))

/-- The response of `batch_bind_rules`. -/
structure BindResponse where
  message : Str
  boundCount : ℕ
  skippedCount : ℕ
  skippedRules : List SkippedRule
deriving DecidableEq

def batchBindRules (env : Env) (id : ℤ) (rules : List BindRuleRequest) :
    ApiM BindResponse := do
  let db := (← get).db
  if (db.clientGroups.find? id).isNone then throw (groupNotFound id)
  else
    let (after, outcome) := bindRules env.now id rules db
    modifyDb fun _ => after
    match outcome with
    | .error e => throw e
    | .ok (bound, skipped) =>
      invalidateIfAny bound
      return ⟨str "Bound " ++ display bound ++ str " rules to group", bound, skipped.length,
        skipped⟩

structure BatchUnbindRulesRequest where
  ruleIds : List Str
  ruleType : Str

/-- `batch_unbind_rules`.  The type comes with the query string; the one in the body
is not read. -/
def batchUnbindRules (id : ℤ) (ruleType : Option Str) (body : BatchUnbindRulesRequest) :
    ApiM RemoveResponse := do
  let db := (← get).db
  if (db.clientGroups.find? id).isNone then throw (groupNotFound id)
  else
    let ruleType := ruleType.getD (str "filter")
    let (table, unbound) := db.clientGroupRules.deleteEach (body.ruleIds.map fun ruleId row =>
      row.groupId = id && row.ruleId = ruleId && row.ruleType = ruleType)
    modifyDb fun db => { db with clientGroupRules := table }
    invalidateIfAny unbound
    return ⟨str "Unbound " ++ display unbound ++ str " rules from group", unbound⟩

theorem ends_invalidateIfAny_bind {α : Type} {count : ℕ} {next : Unit → ApiM α} {state : AppState}
    {returned : α → AppState → Prop} {stopped : AppError → AppState → Prop}
    (hnext : ∀ cache, Ends (next ()) { state with clientConfigCache := cache } returned stopped) :
    Ends (invalidateIfAny count >>= next) state returned stopped := by
  unfold invalidateIfAny
  split_ifs
  · exact hnext []
  · exact hnext state.clientConfigCache

theorem db_exec_invalidateIfAny_bind {α : Type} (count : ℕ) (value : α) (state : AppState) :
    ((do invalidateIfAny count; return value : ApiM α).exec state).db = state.db := by
  unfold invalidateIfAny
  split_ifs <;> rfl

end Groups

/-! ## Loops that change nothing -/

variable {now : Str} {id : ℤ} {db : Database}

variable {clientIds : List Str} {rules : List BindRuleRequest} {db' : Database} {clientId : Str}
  {body : BatchMoveClientsRequest}

theorem addClients_eq_self {clients : Table Client.id} {table after : Memberships}
    {skipped : List Str}
    (hadd : addClients now id clients clientIds table = some (after, 0, skipped)) :
    after = table := by
  induction clientIds generalizing table skipped with
  | nil =>
    simp only [addClients, Option.some.injEq, Prod.mk.injEq] at hadd
    exact hadd.1.symm
  | cons clientId rest ih =>
    unfold addClients at hadd
    split_ifs at hadd
    · obtain ⟨⟨after', added, skipped'⟩, hrest, heq⟩ := Option.map_eq_some_iff.mp hadd
      obtain ⟨rfl, rfl, -⟩ : after' = after ∧ added = 0 ∧ clientId :: skipped' = skipped := by
        simpa using heq
      exact ih hrest
    · split at hadd
      · cases hadd
      · obtain ⟨⟨after', added, skipped'⟩, -, heq⟩ := Option.map_eq_some_iff.mp hadd
        simp at heq

theorem bindRules_eq_self {skipped : List SkippedRule}
    (hbind : (bindRules now id rules db).2 = .ok (0, skipped)) :
    (bindRules now id rules db).1 = db := by
  induction rules generalizing skipped with
  | nil => rfl
  | cons rule rest ih =>
    unfold bindRules at hbind ⊢
    cases hrule : bindRule now id db rule with
    | failed e => rfl
    | skipped reason =>
      simp only [hrule] at hbind
      cases houtcome : (bindRules now id rest db).2 with
      | error e => simp [houtcome, Except.map] at hbind
      | ok counted =>
        obtain ⟨count, others⟩ := counted
        simp only [houtcome, Except.map, Except.ok.injEq, Prod.mk.injEq] at hbind
        obtain ⟨rfl, -⟩ := hbind
        exact ih houtcome
    | bound table =>
      simp only [hrule] at hbind
      cases houtcome : (bindRules now id rest { db with clientGroupRules := table }).2 with
      | error e => simp [houtcome, Except.map] at hbind
      | ok counted => simp [houtcome, Except.map] at hbind

/-- A rule of a known type does not end the loop: its key is free when it is
inserted. -/
theorem bindRule_ne_failed {rule : BindRuleRequest} (htype : rule.hasRuleType = true)
    (e : AppError) : bindRule now id db rule ≠ .failed e := by
  unfold bindRule
  simp only [htype, Bool.not_true, Bool.false_eq_true, if_false]
  split_ifs with hmissing hbound
  · simp
  · simp
  · obtain ⟨table, htable⟩ := Option.isSome_iff_exists.mp
      (Table.isSome_insert_of_find? (by simpa using hbound) :
        (db.clientGroupRules.insert
          ⟨id, rule.ruleId, rule.ruleType, rule.priority.getD 0, now⟩).isSome = true)
    simp [htable]

theorem bindRules_of_hasRuleType (htypes : ∀ rule ∈ rules, rule.hasRuleType = true)
    (db : Database) : ∃ counted, (bindRules now id rules db).2 = .ok counted := by
  induction rules generalizing db with
  | nil => exact ⟨_, rfl⟩
  | cons rule rest ih =>
    obtain ⟨htype, hrest⟩ := List.forall_mem_cons.mp htypes
    unfold bindRules
    cases hrule : bindRule now id db rule with
    | failed e => exact absurd hrule (bindRule_ne_failed htype e)
    | skipped reason =>
      obtain ⟨counted, houtcome⟩ := ih hrest db
      dsimp only
      rw [houtcome]
      exact ⟨_, rfl⟩
    | bound table =>
      obtain ⟨counted, houtcome⟩ := ih hrest { db with clientGroupRules := table }
      dsimp only
      rw [houtcome]
      exact ⟨_, rfl⟩

/-! ## What the handlers write -/

section Writes

variable [Unicode] [RegexCrate] (env : Env) (state : AppState)

theorem createGroup_writes (nextId : ℤ) (body : CreateClientGroupRequest) :
    Writes (fun table => { state with db := { state.db with clientGroups := table } })
      (fun table => ∃ row : ClientGroup, row.id = nextId ∧
        state.db.clientGroups.insert row = some table)
      state ((createGroup env nextId body).exec state) := by
  unfold createGroup
  dsimp only
  split_ifs
  · exact .refl
  · rw [exec_get_bind]
    split_ifs
    · exact .refl
    · split
      · exact .refl
      · rename_i table hinsert
        exact writes_modifyDb_bind table ⟨_, rfl, hinsert⟩ ⟨rfl, rfl⟩ (respects_pure _)

theorem updateGroup_writes (id : ℤ) (body : UpdateClientGroupRequest) :
    Writes state.invalidated
      (fun db => ∃ name, db = { state.db with
        clientGroups := state.db.clientGroups.updateWhere (·.id = id) (body.apply env.now name)
          fun _ => rfl })
      state ((updateGroup env id body).exec state) := by
  unfold updateGroup
  rw [exec_get_bind]
  dsimp only
  split
  · exact .refl
  · split
    · exact .refl
    · exact .inr ⟨_, ⟨_, rfl⟩, rfl, rfl⟩

theorem deleteGroup_writes (id : ℤ) :
    Writes state.invalidated (· = deleteStatements id state.db) state
      ((deleteGroup id).exec state) := by
  unfold deleteGroup
  rw [exec_get_bind]
  dsimp only
  split
  · exact .refl
  · exact .inr ⟨_, rfl, rfl, rfl⟩

variable {state} in
theorem writes_batch {α : Type} {allowed : Database → Prop} {statement : Database → Database}
    {count : ℕ} (value : α) (hallowed : allowed (statement state.db))
    (hstatement : count = 0 → statement state.db = state.db) :
    Writes state.invalidated allowed state ((do
      modifyDb statement
      invalidateIfAny count
      return value : ApiM α).exec state) := by
  unfold invalidateIfAny
  split_ifs with hcount
  · exact .inr ⟨_, hallowed, rfl, rfl⟩
  · exact .inl ⟨rfl, hstatement (Nat.eq_zero_of_not_pos hcount)⟩

theorem batchAddClients_writes (id : ℤ) (clientIds : List Str) :
    Writes state.invalidated
      (fun db => (state.db.clientGroups.find? id).isSome = true ∧ ∃ table counted,
        addClients env.now id state.db.clients clientIds state.db.clientGroupMemberships =
            some (table, counted) ∧
          db = { state.db with clientGroupMemberships := table })
      state ((batchAddClients env id clientIds).exec state) := by
  unfold batchAddClients
  rw [exec_get_bind]
  dsimp only
  split_ifs with hgroup
  · exact .refl
  · split
    · exact .refl
    · rename_i table added skipped hadd
      refine writes_batch _ ⟨Option.isSome_iff_ne_none.mpr (by simpa using hgroup), table, _, hadd,
        rfl⟩ fun hzero => ?_
      subst hzero
      rw [addClients_eq_self hadd]

theorem batchRemoveClients_writes (id : ℤ) (clientIds : List Str) :
    Writes state.invalidated
      (fun db => ∃ conditions, db = { state.db with
        clientGroupMemberships := (state.db.clientGroupMemberships.deleteEach conditions).1 })
      state ((batchRemoveClients id clientIds).exec state) := by
  unfold batchRemoveClients
  rw [exec_get_bind]
  dsimp only
  split_ifs
  · exact .refl
  · refine writes_batch _ ⟨_, rfl⟩ fun hzero => ?_
    rw [Table.deleteEach_eq_self hzero]

theorem batchUnbindRules_writes (id : ℤ) (ruleType : Option Str) (body : BatchUnbindRulesRequest) :
    Writes state.invalidated
      (fun db => ∃ conditions, db = { state.db with
        clientGroupRules := (state.db.clientGroupRules.deleteEach conditions).1 })
      state ((batchUnbindRules id ruleType body).exec state) := by
  unfold batchUnbindRules
  rw [exec_get_bind]
  dsimp only
  split_ifs
  · exact .refl
  · refine writes_batch _ ⟨_, rfl⟩ fun hzero => ?_
    rw [Table.deleteEach_eq_self hzero]

/-- A rule of an unknown type ends the loop.  The rules before it stay bound, and the cached
policies are kept. -/
theorem batchBindRules_writes (id : ℤ) (rules : List BindRuleRequest) :
    Writes
      (fun kept => { state with
        db := (bindRules env.now id rules state.db).1
        clientConfigCache := if kept then state.clientConfigCache else [] })
      (fun kept : Bool => (state.db.clientGroups.find? id).isSome = true ∧
        (kept = true → ∃ rule ∈ rules, rule.hasRuleType = false))
      state ((batchBindRules env id rules).exec state) := by
  unfold batchBindRules
  rw [exec_get_bind]
  dsimp only
  split_ifs with hgroup
  · exact .refl
  · have hexists : (state.db.clientGroups.find? id).isSome = true :=
      Option.isSome_iff_ne_none.mpr (by simpa using hgroup)
    cases houtcome : (bindRules env.now id rules state.db).2 with
    | error e =>
      refine .inr ⟨true, ⟨hexists, fun _ => ?_⟩, rfl, rfl⟩
      by_contra hnone
      obtain ⟨counted, hcounted⟩ :
          ∃ counted, (bindRules env.now id rules state.db).2 = .ok counted :=
        bindRules_of_hasRuleType (by simpa using hnone) state.db
      rw [hcounted] at houtcome
      cases houtcome
    | ok counted =>
      obtain ⟨count, skipped⟩ := counted
      by_cases hcount : count > 0
      · refine .inr ⟨false, ⟨hexists, nofun⟩, ?_⟩
        simp only [invalidateIfAny, if_pos hcount]
        exact ⟨rfl, rfl⟩
      · obtain rfl := Nat.eq_zero_of_not_pos hcount
        exact .inl ⟨rfl, bindRules_eq_self houtcome⟩

end Writes

def HasClient (db : Database) (clientId : Str) : Prop := (db.clients.find? clientId).isSome = true

def HasGroup (db : Database) (id : ℤ) : Prop := (db.clientGroups.find? id).isSome = true

def IsMember (db : Database) (clientId : Str) (id : ℤ) : Prop :=
  (clientId, id) ∈ db.clientGroupMemberships.rows.map fun row => (row.clientId, row.groupId)

instance (db : Database) (clientId : Str) (id : ℤ) : Decidable (IsMember db clientId id) :=
  inferInstanceAs (Decidable (_ ∈ _))

def Moves (db : Database) (body : BatchMoveClientsRequest) (clientId : Str) : Prop :=
  (db.clients.find? clientId).isSome = true ∧
    ((∃ id ∈ body.fromGroupId, IsMember db clientId id) ∨
      ∃ id ∈ body.toGroupId, (db.clientGroups.find? id).isSome = true ∧ ¬ IsMember db clientId id)

instance (db : Database) (body : BatchMoveClientsRequest) (clientId : Str) :
    Decidable (Moves db body clientId) :=
  inferInstanceAs (Decidable (_ ∧ (_ ∨ _)))

structure SameMembers (db db' : Database) : Prop where
  keys : db'.clientGroupMemberships.rows.map (fun row => (row.clientId, row.groupId)) =
    db.clientGroupMemberships.rows.map fun row => (row.clientId, row.groupId)
  rest : db' = { db with clientGroupMemberships := db'.clientGroupMemberships }

theorem SameMembers.refl (db : Database) : SameMembers db db := ⟨rfl, rfl⟩

theorem SameMembers.trans {db'' : Database} (h : SameMembers db db') (h' : SameMembers db' db'') :
    SameMembers db db'' := by
  refine ⟨h'.keys.trans h.keys, h'.rest.trans ?_⟩
  rw [h.rest]

theorem SameMembers.moves_iff (h : SameMembers db db') (body : BatchMoveClientsRequest)
    (clientId : Str) : Moves db' body clientId ↔ Moves db body clientId := by
  have hclients : db'.clients = db.clients := by rw [h.rest]
  have hgroups : db'.clientGroups = db.clientGroups := by rw [h.rest]
  simp only [Moves, IsMember, h.keys, hclients, hgroups]

theorem leaveGroup_eq_self (hmember : ¬ IsMember db clientId id) :
    leaveGroup db clientId id = db := by
  have hnone : db.clientGroupMemberships.rowsAffected
      (fun row => row.clientId = clientId && row.groupId = id) = 0 := by
    refine List.countP_eq_zero.mpr fun row hrow hselected => hmember ?_
    obtain ⟨rfl, rfl⟩ : row.clientId = clientId ∧ row.groupId = id := by simpa using hselected
    exact List.mem_map_of_mem hrow
  unfold leaveGroup
  rw [Table.deleteWhere_eq_self hnone]

theorem enterGroup_sameMembers (now : Str) (hmember : IsMember db clientId id) :
    SameMembers db (enterGroup now db clientId id) :=
  ⟨Table.map_key_upsert (by intro row; rfl) hmember, rfl⟩

theorem moveClient_sameMembers (now : Str) (hstays : ¬ Moves db body clientId) :
    SameMembers db (moveClient now body db clientId).1 := by
  unfold moveClient
  split_ifs with hclient
  · exact .refl db
  · have hexists : (db.clients.find? clientId).isSome = true := by
      simpa [Option.isSome_iff_ne_none] using hclient
    have hleave : body.fromGroupId.elim db (leaveGroup db clientId) = db := by
      cases hfrom : body.fromGroupId with
      | none => rfl
      | some id =>
        exact leaveGroup_eq_self fun hmember =>
          hstays ⟨hexists, .inl ⟨id, hfrom, hmember⟩⟩
    dsimp only
    rw [hleave]
    cases hto : body.toGroupId with
    | none => exact .refl db
    | some id =>
      dsimp only
      split_ifs with hgroup
      · exact .refl db
      · refine enterGroup_sameMembers now (by_contra fun hmember => ?_)
        exact hstays ⟨hexists, .inr ⟨id, hto,
          by simpa [Option.isSome_iff_ne_none] using hgroup, hmember⟩⟩

theorem moveClients_sameMembers (now : Str)
    (hstay : ∀ clientId ∈ clientIds, ¬ Moves db body clientId) :
    SameMembers db (moveClients now body clientIds db).1 := by
  induction clientIds generalizing db with
  | nil => exact .refl db
  | cons clientId rest ih =>
    obtain ⟨hfirst, hrest⟩ := List.forall_mem_cons.mp hstay
    have hstep := moveClient_sameMembers now hfirst
    refine hstep.trans (ih fun other hother => ?_)
    rw [hstep.moves_iff]
    exact hrest other hother

end RustDns.Api.ClientGroups
