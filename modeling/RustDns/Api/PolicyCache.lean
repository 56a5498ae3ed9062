import RustDns.Machine
import RustDns.Api.Rules
import RustDns.Api.Rewrites
import RustDns.Api.Clients
import RustDns.Api.ClientGroups
import RustDns.Dns.Isolation

/-!
# The cached policies

`DnsHandler` caches the policy of every address it has answered.  An entry is
right as long as it is what `resolve_client_config` would return, so an operation
that changes a policy has to drop entries.  This file follows the cache through
any sequence of management operations and queries.

The handlers of clients and groups drop all entries when they write what a policy
depends on (`Database.SamePolicies`), with the exceptions listed in
`Api.ClientGroups`.  The handlers of rules and rewrites drop none: a bound rule
that is changed is changed for the global engine only.  `coherent_of_admissible`
says which operations leave every entry right.

The rows of `clients` are taken to decode (`Database.decoding`).
-/

namespace RustDns

/-! ## Policies -/

/-- The database with a `filter_enabled` that decodes in every row of `clients`. -/
def Database.decoding (db : Database) : Database :=
  { db with
    clients := db.clients.updateWhere (fun _ => true)
      (fun client =>
        { client with filterEnabled := .int4 (if client.filterEnabled.truth then 1 else 0) })
      fun _ => rfl }

section Decoding

variable [Unicode] [RegexCrate] [SerdeJson] [IpNetCrate]

/-- On rows that decode, an address gets the policy of the first client that it
matches. -/
theorem resolveClientConfig_decoding (db : Database) (clientIp : Str) :
    resolveClientConfig (fun _ => false) db.decoding clientIp =
      ((db.clients.rows.find? (·.isMatch clientIp)).map (policyOf db)).getD .default := by
  have hfetch : fetchClients (fun _ => false) db.decoding =
      some (db.clients.rows.map fun client =>
        ({ client with filterEnabled := .int4 (if client.filterEnabled.truth then 1 else 0) },
          if client.filterEnabled.truth then 1 else 0)) := by
    unfold fetchClients Database.decoding Table.updateWhere
    simp only [Bool.false_eq_true, if_false, if_true, List.mapM_map]
    exact List.mapM_pure
  unfold resolveClientConfig
  rw [hfetch]
  dsimp only
  rw [List.find?_map]
  have hmatch : ((fun row : Client × ℤ => row.1.isMatch clientIp) ∘ fun client : Client =>
      ({ client with filterEnabled := .int4 (if client.filterEnabled.truth then 1 else 0) },
        if client.filterEnabled.truth then 1 else 0)) = (·.isMatch clientIp) := rfl
  rw [hmatch]
  cases hfind : db.clients.rows.find? (·.isMatch clientIp) with
  | none => rfl
  | some client =>
    have htruth : ((if client.filterEnabled.truth then 1 else 0 : ℤ) == 1) =
        client.filterEnabled.truth := by
      cases client.filterEnabled.truth <;> rfl
    dsimp only [Option.map_some, Option.getD_some]
    rw [htruth]
    rfl

end Decoding

theorem Database.SamePolicies.decoding {db db' : Database} (hsame : db.SamePolicies db') :
    db.decoding.SamePolicies db'.decoding where
  clients := by
    unfold Database.decoding
    dsimp only
    rw [hsame.clients]
  rules := hsame.rules
  rewrites := hsame.rewrites

theorem Database.SamePolicies.refl (db : Database) : db.SamePolicies db :=
  ⟨rfl, fun _ => rfl, fun _ => rfl⟩

def Database.InForce (db : Database) (kind : BoundKind) (id : Str) : Prop :=
  ∃ membership ∈ db.clientGroupMemberships.rows, ∃ binding ∈ db.clientGroupRules.rows,
    binding.groupId = membership.groupId ∧ binding.ruleType = kind.ruleType ∧
      binding.ruleId = id

instance (db : Database) (kind : BoundKind) (id : Str) : Decidable (db.InForce kind id) :=
  inferInstanceAs (Decidable (∃ _ ∈ _, ∃ _ ∈ _, _ ∧ _ ∧ _))

namespace Database

variable {db : Database}

theorem inForce_of_mem_groupBindings {kind : BoundKind} {clientId : Str}
    {pair : ClientGroup × GroupRule} (hpair : pair ∈ db.groupBindings clientId kind.ruleType) :
    db.InForce kind pair.2.ruleId := by
  unfold groupBindings at hpair
  simp only [List.mem_flatMap, List.mem_filter, List.mem_map, beq_iff_eq, Bool.and_eq_true] at hpair
  obtain ⟨membership, ⟨hmembership, -⟩, group, -, binding, ⟨hbinding, hgroup, htype⟩, rfl⟩ :=
    hpair
  exact ⟨membership, hmembership, binding, hbinding, hgroup, htype, rfl⟩

theorem samePolicies_customRules {table : Table CustomRule.id}
    (hrows : ∀ id, db.InForce .customRule id →
      (table.rows.filter (·.id == id)).map CustomRule.shown =
        (db.customRules.rows.filter (·.id == id)).map CustomRule.shown) :
    db.SamePolicies { db with customRules := table } where
  clients := rfl
  rules _ := map_boundRows_congr rfl fun pair hpair =>
    hrows pair.2.ruleId (inForce_of_mem_groupBindings hpair)
  rewrites _ := rfl

theorem samePolicies_dnsRewrites {table : Table DnsRewrite.id}
    (hrows : ∀ id, db.InForce .rewrite id → (table.rows.filter (·.id == id)).map DnsRewrite.shown =
        (db.dnsRewrites.rows.filter (·.id == id)).map DnsRewrite.shown) :
    db.SamePolicies { db with dnsRewrites := table } where
  clients := rfl
  rules _ := rfl
  rewrites _ := map_boundRows_congr rfl fun pair hpair =>
    hrows pair.2.ruleId (inForce_of_mem_groupBindings hpair)

theorem samePolicies_of_groupBindings {db' : Database} (hclients : db'.clients = db.clients)
    (hrules : db'.customRules = db.customRules) (hrewrites : db'.dnsRewrites = db.dnsRewrites)
    (hbindings : ∀ clientId ruleType,
      db'.groupBindings clientId ruleType = db.groupBindings clientId ruleType) :
    db.SamePolicies db' where
  clients := hclients
  rules clientId := by
    unfold boundRules
    rw [hrules]
    exact map_boundRows_congr (hbindings _ _) fun _ _ => rfl
  rewrites clientId := by
    unfold boundRewrites
    rw [hrewrites]
    exact map_boundRows_congr (hbindings _ _) fun _ _ => rfl

theorem samePolicies_insert_group {table : Table ClientGroup.id} {group : ClientGroup}
    (hinsert : db.clientGroups.insert group = some table)
    (hnew : ∀ membership ∈ db.clientGroupMemberships.rows, membership.groupId ≠ group.id) :
    db.SamePolicies { db with clientGroups := table } := by
  refine samePolicies_of_groupBindings rfl rfl rfl fun clientId ruleType => ?_
  unfold groupBindings
  refine List.flatMap_congr fun membership hmembership => ?_
  have hother : (group.id == membership.groupId) = false := by
    rw [beq_eq_false_iff_ne]
    exact (hnew membership (List.mem_filter.mp hmembership).1).symm
  dsimp only
  rw [Table.rows_of_insert hinsert, List.filter_append]
  simp [hother]

theorem samePolicies_of_sameMembers {db' : Database}
    (hsame : Api.ClientGroups.SameMembers db db') : db.SamePolicies db' := by
  rw [hsame.rest]
  -- a group query reads client and group of a membership only, and these are its key
  refine samePolicies_of_groupBindings rfl rfl rfl fun clientId ruleType => ?_
  have hbindings : ∀ rows : List GroupMembership,
      ((rows.filter (·.clientId == clientId)).flatMap fun membership =>
        (db.clientGroups.rows.filter (·.id == membership.groupId)).flatMap fun group =>
          (db.clientGroupRules.rows.filter fun binding =>
            binding.groupId == membership.groupId && binding.ruleType == ruleType).map
              (group, ·)) =
      (((rows.map fun row => (row.clientId, row.groupId)).filter (·.1 == clientId)).flatMap
        fun key => (db.clientGroups.rows.filter (·.id == key.2)).flatMap fun group =>
          (db.clientGroupRules.rows.filter fun binding =>
            binding.groupId == key.2 && binding.ruleType == ruleType).map (group, ·)) := by
    intro rows
    rw [List.filter_map, List.flatMap_map]
    rfl
  unfold groupBindings
  rw [hbindings, hbindings, hsame.keys]

end Database

namespace Api

open Text Program Machine ClientGroups

/-! ## Operations -/

inductive Operation where
  | clientsCreate (body : Clients.CreateClientRequest)
  | clientsUpdate (id : Str) (body : Clients.UpdateClientRequest)
  | clientsDelete (id : Str)
  | createGroup (nextId : ℤ) (body : CreateClientGroupRequest)
  | updateGroup (id : ℤ) (body : UpdateClientGroupRequest)
  | deleteGroup (id : ℤ)
  | batchAddClients (id : ℤ) (clientIds : List Str)
  | batchRemoveClients (id : ℤ) (clientIds : List Str)
  | batchMoveClients (body : BatchMoveClientsRequest)
  | batchBindRules (id : ℤ) (rules : List BindRuleRequest)
  | batchUnbindRules (id : ℤ) (ruleType : Option Str) (body : BatchUnbindRulesRequest)
  | rulesCreate (auth : Claims) (body : Rules.CreateRuleRequest)
  | rulesUpdate (id : Str) (body : Rules.UpdateRuleRequest)
  | rulesToggle (id : Str) (isEnabled : Bool)
  | rulesDelete (id : Str)
  | rulesBulkAction (req : Rules.BulkActionRequest)
  | rewritesCreate (auth : Claims) (domain answer : Str)
  | rewritesUpdate (id : Str) (domain answer : Option Str)
  | rewritesDelete (id : Str)
  | dnsQuery (clientIp : Str)

structure PolicyEvent where
  env : Env
  operation : Operation

section Handle

variable [Unicode] [RegexCrate] [SerdeJson] [IpNetCrate]

/-- `DnsHandler::get_client_config`, on rows of `clients` that decode. -/
def getDecodedConfig (env : Env) (clientIp : Str) : ApiM ClientConfig := do
  let state ← get
  match state.clientConfigCache.lookup clientIp with
  | some cached => return cached
  | none =>
    let config := resolveClientConfig env.configFails state.db.decoding clientIp
    modify fun state =>
      { state with clientConfigCache := (clientIp, config) :: state.clientConfigCache }
    return config

/-- The handler of an operation, without its response. -/
def Operation.handle (env : Env) : Operation → ApiM Unit
  | clientsCreate body => do let _ ← Clients.create env body
  | clientsUpdate id body => Clients.update env id body
  | clientsDelete id => Clients.delete id
  | createGroup nextId body => do let _ ← ClientGroups.createGroup env nextId body
  | updateGroup id body => do let _ ← ClientGroups.updateGroup env id body
  | deleteGroup id => do let _ ← ClientGroups.deleteGroup id
  | batchAddClients id clientIds => do let _ ← ClientGroups.batchAddClients env id clientIds
  | batchRemoveClients id clientIds => do let _ ← ClientGroups.batchRemoveClients id clientIds
  | batchMoveClients body => do let _ ← ClientGroups.batchMoveClients env body
  | batchBindRules id rules => do let _ ← ClientGroups.batchBindRules env id rules
  | batchUnbindRules id ruleType body => do
    let _ ← ClientGroups.batchUnbindRules id ruleType body
  | rulesCreate auth body => do let _ ← Rules.create env auth body
  | rulesUpdate id body => do let _ ← Rules.update env id body
  | rulesToggle id isEnabled => Rules.toggle env id isEnabled
  | rulesDelete id => Rules.delete env id
  | rulesBulkAction req => do let _ ← Rules.bulkAction env req
  | rewritesCreate auth domain answer => do let _ ← Rewrites.create env auth domain answer
  | rewritesUpdate id domain answer => do let _ ← Rewrites.update env id domain answer
  | rewritesDelete id => Rewrites.delete env id
  | dnsQuery clientIp => do let _ ← getDecodedConfig env clientIp

def policyStep (state : AppState) (event : PolicyEvent) : AppState × Except AppError Unit :=
  let after := (event.operation.handle event.env).eval state
  (after.2, after.1)

/-- Every cached policy is what the current database gives. -/
def Coherent (state : AppState) : Prop :=
  ∀ clientIp config, state.clientConfigCache.lookup clientIp = some config →
    config = resolveClientConfig (fun _ => false) state.db.decoding clientIp

end Handle

def Operation.isQuery : Operation → Bool
  | dnsQuery _ => true
  | _ => false

/-- An operation that drops no cached policy does not change one either: it is not
about a rule or rewrite in force, unless it keeps what the policies show of it, it
moves nobody, it has no unknown rule type, and a new group has no members.  The
reads of a query succeed. -/
def Operation.IsHarmless (env : Env) (db : Database) : Operation → Prop
  | createGroup nextId _ =>
    ∀ membership ∈ db.clientGroupMemberships.rows, membership.groupId ≠ nextId
  | batchMoveClients body => ∀ clientId ∈ body.clientIds, ¬ Moves db body clientId
  | batchBindRules _ rules => ∀ rule ∈ rules, rule.hasRuleType = true
  | rulesCreate _ _ => ¬ db.InForce .customRule (env.newId 0)
  | rulesUpdate id body =>
    body.rule = none ∧ body.isEnabled = none ∨ ¬ db.InForce .customRule id
  | rulesToggle id _ => ¬ db.InForce .customRule id
  | rulesDelete id => ¬ db.InForce .customRule id
  | rulesBulkAction req => ∀ id ∈ req.ids, ¬ db.InForce .customRule id
  | rewritesCreate _ _ _ => ¬ db.InForce .rewrite (env.newId 0)
  | rewritesUpdate id _ _ => ¬ db.InForce .rewrite id
  | rewritesDelete id => ¬ db.InForce .rewrite id
  | dnsQuery _ => ∀ query, env.configFails query = false
  | _ => True

instance decidableForallReads (fails : ClientQuery → Bool) :
    Decidable (∀ query, fails query = false) :=
  decidable_of_iff
    (fails .clients = false ∧ fails .groupRules = false ∧ fails .groupRewrites = false)
    ⟨fun h query => by cases query <;> simp [h], fun h => ⟨h _, h _, h _⟩⟩

instance (env : Env) (db : Database) : DecidablePred (Operation.IsHarmless env db)
  | .createGroup _ _ => inferInstanceAs (Decidable (∀ _ ∈ _, _ ≠ _))
  | .batchMoveClients _ => inferInstanceAs (Decidable (∀ _ ∈ _, ¬ _))
  | .batchBindRules _ _ => inferInstanceAs (Decidable (∀ _ ∈ _, _ = true))
  | .rulesCreate _ _ => inferInstanceAs (Decidable (¬ _))
  | .rulesUpdate _ _ => inferInstanceAs (Decidable (_ ∧ _ ∨ ¬ _))
  | .rulesToggle _ _ => inferInstanceAs (Decidable (¬ _))
  | .rulesDelete _ => inferInstanceAs (Decidable (¬ _))
  | .rulesBulkAction _ => inferInstanceAs (Decidable (∀ _ ∈ _, ¬ _))
  | .rewritesCreate _ _ _ => inferInstanceAs (Decidable (¬ _))
  | .rewritesUpdate _ _ _ => inferInstanceAs (Decidable (¬ _))
  | .rewritesDelete _ => inferInstanceAs (Decidable (¬ _))
  | .dnsQuery _ => inferInstanceAs (Decidable (∀ _, _ = false))
  | .clientsCreate _ => .isTrue trivial
  | .clientsUpdate _ _ => .isTrue trivial
  | .clientsDelete _ => .isTrue trivial
  | .updateGroup _ _ => .isTrue trivial
  | .deleteGroup _ => .isTrue trivial
  | .batchAddClients _ _ => .isTrue trivial
  | .batchRemoveClients _ _ => .isTrue trivial
  | .batchUnbindRules _ _ _ => .isTrue trivial

/-! ## What an operation does to the cache -/

section Coheres

variable [Unicode] [RegexCrate]

/-- The cached policies are dropped, or they are kept and, under a condition, right
if they were right before. -/
def Coheres (condition : Prop) (before after : AppState) : Prop :=
  after.clientConfigCache = [] ∨
    after.clientConfigCache = before.clientConfigCache ∧
      (condition → before.db.SamePolicies after.db)

theorem Coheres.refl (condition : Prop) (state : AppState) : Coheres condition state state :=
  .inr ⟨rfl, fun _ => .refl _⟩

variable {condition : Prop} {before after state : AppState}

theorem Coheres.untouched {middle : AppState} (hcoheres : Coheres condition before middle)
    (huntouched : Untouched middle after) : Coheres condition before after := by
  obtain ⟨hcache, hdb⟩ := huntouched
  unfold Coheres
  rw [hcache, hdb]
  exact hcoheres

theorem coheres_of_writes {ι : Type} {write : ι → AppState} {allowed : ι → Prop}
    (hwrites : Writes write allowed before after)
    (hwrite : ∀ i, allowed i → Coheres condition before (write i)) :
    Coheres condition before after :=
  hwrites.elim Coheres.untouched (.refl _ _) hwrite

theorem coheres_withRules {table : Table CustomRule.id}
    (hrows : condition → ∀ id, state.db.InForce .customRule id →
      (table.rows.filter (·.id == id)).map CustomRule.shown =
        (state.db.customRules.rows.filter (·.id == id)).map CustomRule.shown) :
    Coheres condition state (state.withRules table) :=
  .inr ⟨rfl, fun hcondition => Database.samePolicies_customRules (hrows hcondition)⟩

theorem coheres_withRewrites {table : Table DnsRewrite.id}
    (hrows : condition → ∀ id, state.db.InForce .rewrite id →
      (table.rows.filter (·.id == id)).map DnsRewrite.shown =
        (state.db.dnsRewrites.rows.filter (·.id == id)).map DnsRewrite.shown) :
    Coheres condition state (state.withRewrites table) :=
  .inr ⟨rfl, fun hcondition => Database.samePolicies_dnsRewrites (hrows hcondition)⟩

end Coheres

section Steps

theorem map_filter_setEnabled {db : Database} {condition : CustomRule → Bool} (isEnabled : Bool)
    (hunbound : ∀ row, condition row = true → ¬ db.InForce .customRule row.id) {id : Str}
    (hforce : db.InForce .customRule id) :
    ((Rules.setEnabled condition isEnabled db.customRules).rows.filter (·.id == id)).map
        CustomRule.shown =
      (db.customRules.rows.filter (·.id == id)).map CustomRule.shown := by
  refine Table.map_filter_updateWhere (by intro row; rfl) fun row hid hcondition => ?_
  exact absurd (hid ▸ hforce) (hunbound row hcondition)

theorem filter_deleteWhere_of_forall {Row : Type} {key : Row → Str} {table : Table key}
    {condition : Row → Bool} {inForce : Str → Prop}
    (hunbound : ∀ row, condition row = true → ¬ inForce (key row)) {id : Str}
    (hforce : inForce id) :
    (table.deleteWhere condition).rows.filter (key · == id) = table.rows.filter (key · == id) := by
  refine Table.filter_deleteWhere fun row _ hrow => ?_
  obtain rfl : key row = id := by simpa using hrow
  exact Bool.eq_false_iff.mpr fun hdeleted => hunbound row hdeleted hforce

variable [Unicode] [RegexCrate] [SerdeJson] (env : Env) (state : AppState)

/-- Every operation but a query drops the cached policies, or keeps them and, if it is
harmless, all policies. -/
theorem handle_coheres [IpNetCrate] (operation : Operation) (hquery : operation.isQuery = false) :
    Coheres (operation.IsHarmless env state.db) state ((operation.handle env).exec state) := by
  cases operation with
  | clientsCreate body =>
    exact coheres_of_writes (Clients.create_writes env state body).ignored
      fun _ _ => .inl rfl
  | clientsUpdate id body =>
    exact coheres_of_writes (Clients.update_writes env state id body) fun _ _ => .inl rfl
  | clientsDelete id => exact coheres_of_writes (Clients.delete_writes state id) fun _ _ => .inl rfl
  | createGroup nextId body =>
    refine coheres_of_writes (createGroup_writes env state nextId body).ignored ?_
    rintro table ⟨row, rfl, hinsert⟩
    exact .inr ⟨rfl, Database.samePolicies_insert_group hinsert⟩
  | updateGroup id body =>
    exact coheres_of_writes (updateGroup_writes env state id body).ignored
      fun _ _ => .inl rfl
  | deleteGroup id =>
    exact coheres_of_writes (deleteGroup_writes state id).ignored fun _ _ => .inl rfl
  | batchAddClients id clientIds =>
    exact coheres_of_writes (batchAddClients_writes env state id clientIds).ignored
      fun _ _ => .inl rfl
  | batchRemoveClients id clientIds =>
    exact coheres_of_writes (batchRemoveClients_writes state id clientIds).ignored
      fun _ _ => .inl rfl
  | batchMoveClients body =>
    exact .inr ⟨rfl, fun hstay =>
      Database.samePolicies_of_sameMembers (moveClients_sameMembers env.now hstay)⟩
  | batchBindRules id rules =>
    refine coheres_of_writes (batchBindRules_writes env state id rules).ignored ?_
    rintro (_ | _) ⟨-, hfailed⟩
    · exact .inl rfl
    · -- the condition excludes the error
      refine .inr ⟨rfl, fun htypes => ?_⟩
      obtain ⟨rule, hrule, htype⟩ := hfailed rfl
      rw [htypes rule hrule] at htype
      cases htype
  | batchUnbindRules id ruleType body =>
    exact coheres_of_writes (batchUnbindRules_writes state id ruleType body).ignored
      fun _ _ => .inl rfl
  | rulesCreate auth body =>
    refine coheres_of_writes (Rules.create_writes env state auth body).ignored ?_
    rintro table ⟨row, hid, hinsert⟩
    refine coheres_withRules fun hnew id hforce => ?_
    rw [Table.filter_insert_of_ne hinsert fun hrow => hnew (hid ▸ hrow ▸ hforce)]
  | rulesUpdate id body =>
    refine coheres_of_writes (Rules.update_writes env state id body).ignored ?_
    rintro table ⟨-, rfl⟩
    refine coheres_withRules fun hharmless other hforce => ?_
    refine Table.map_filter_updateWhere (by intro row; rfl) fun row hother hid => ?_
    rcases hharmless with ⟨hrule, henabled⟩ | hunbound
    · simp [CustomRule.shown, Rules.UpdateRuleRequest.apply, hrule, henabled]
    · refine absurd hforce ?_
      rw [← hother, of_decide_eq_true hid]
      exact hunbound
  | rulesToggle id isEnabled =>
    refine coheres_of_writes (Rules.toggle_writes env state id isEnabled) ?_
    rintro table rfl
    refine coheres_withRules fun hunbound other =>
      map_filter_setEnabled isEnabled fun row hrow => ?_
    obtain ⟨rfl, -⟩ : row.id = id ∧ _ := by simpa using hrow
    exact hunbound
  | rulesDelete id =>
    refine Coheres.untouched ?_ (Rules.delete_writes env state id)
    refine coheres_withRules fun hunbound other hforce => ?_
    rw [filter_deleteWhere_of_forall (fun row hrow => ?_) hforce]
    rwa [of_decide_eq_true hrow]
  | rulesBulkAction req =>
    refine coheres_of_writes (Rules.bulkAction_writes env state req).ignored ?_
    have hselects : (Operation.rulesBulkAction req).IsHarmless env state.db →
        ∀ row, req.selects row = true → ¬ state.db.InForce .customRule row.id := by
      intro hunbound row hrow
      simp only [Rules.BulkActionRequest.selects, Bool.and_eq_true, List.contains_iff_mem] at hrow
      exact hunbound row.id hrow.1
    rintro table (⟨isEnabled, rfl⟩ | ⟨-, rfl⟩)
    · exact coheres_withRules fun hharmless _ =>
        map_filter_setEnabled isEnabled (hselects hharmless)
    · refine coheres_withRules fun hharmless id hforce => ?_
      rw [filter_deleteWhere_of_forall (hselects hharmless) hforce]
  | rewritesCreate auth domain answer =>
    refine coheres_of_writes (Rewrites.create_writes env state auth domain answer).ignored ?_
    rintro table ⟨row, hid, hinsert⟩
    refine coheres_withRewrites fun hnew id hforce => ?_
    rw [Table.filter_insert_of_ne hinsert fun hrow => hnew (hid ▸ hrow ▸ hforce)]
  | rewritesUpdate id domain answer =>
    refine coheres_of_writes (Rewrites.update_writes env state id domain answer).ignored ?_
    rintro table ⟨domain, answer, rfl⟩
    refine coheres_withRewrites fun hunbound other hforce => ?_
    rw [Table.filter_reorder]
    refine Table.map_filter_updateWhere (by intro row; rfl) fun row hother hid => ?_
    refine absurd hforce ?_
    rw [← hother, of_decide_eq_true hid]
    exact hunbound
  | rewritesDelete id =>
    refine coheres_of_writes (Rewrites.delete_writes env state id) ?_
    rintro table rfl
    refine coheres_withRewrites fun hunbound other hforce => ?_
    rw [filter_deleteWhere_of_forall (fun row hrow => ?_) hforce]
    rwa [of_decide_eq_true hrow]
  | dnsQuery clientIp => cases hquery

end Steps

/-! ## Runs -/

section Runs

variable [Unicode] [RegexCrate] [SerdeJson] [IpNetCrate]

def PolicyEvent.Admissible (state : AppState) (event : PolicyEvent) : Prop :=
  event.operation.IsHarmless event.env state.db ∨
    state.clientConfigCache = [] ∧ event.operation.isQuery = false

omit [SerdeJson] [IpNetCrate] in
instance (state : AppState) : DecidablePred (PolicyEvent.Admissible state) :=
  fun _ => inferInstanceAs (Decidable (_ ∨ _ ∧ _))

theorem Coheres.coherent {condition : Prop} {before after : AppState}
    (hcoheres : Coheres condition before after)
    (hcondition : condition ∨ before.clientConfigCache = []) (hcoherent : Coherent before) :
    Coherent after := by
  intro clientIp config hlookup
  rcases hcoheres with hempty | ⟨hsame, hpolicies⟩
  · simp [hempty] at hlookup
  · rw [hsame] at hlookup
    rcases hcondition with hcondition | hempty
    · rw [resolveClientConfig_congr (hpolicies hcondition).decoding]
      exact hcoherent clientIp config hlookup
    · simp [hempty] at hlookup

theorem coherent_dnsQuery {env : Env} {state : AppState} (clientIp : Str)
    (hreads : ∀ query, env.configFails query = false) (hcoherent : Coherent state) :
    Coherent (((Operation.dnsQuery clientIp).handle env).exec state) := by
  have hfails : env.configFails = fun _ => false := funext hreads
  unfold Operation.handle getDecodedConfig
  dsimp only
  rw [bind_assoc, exec_get_bind]
  cases hcached : state.clientConfigCache.lookup clientIp with
  | some cached => exact hcoherent
  | none =>
    intro other config hlookup
    have hcons : ((clientIp, resolveClientConfig env.configFails state.db.decoding clientIp) ::
        state.clientConfigCache).lookup other = some config := hlookup
    rw [List.lookup_cons] at hcons
    split at hcons
    · rename_i hother
      obtain rfl := eq_of_beq hother
      rw [← Option.some.inj hcons, hfails]
      rfl
    · exact hcoherent other config hcons

theorem Coherent.step {state : AppState} {event : PolicyEvent} (hcoherent : Coherent state)
    (hevent : event.Admissible state) : Coherent (policyStep state event).1 := by
  obtain ⟨env, operation⟩ := event
  cases operation with
  | dnsQuery clientIp =>
    rcases hevent with hreads | ⟨-, hquery⟩
    · exact coherent_dnsQuery clientIp hreads hcoherent
    · cases hquery
  | _ => exact (handle_coheres env state _ rfl).coherent (hevent.imp_right And.left) hcoherent

/-- **Cached policies stay right in runs of admissible operations.** -/
theorem coherent_of_admissible (state : AppState) (hempty : state.clientConfigCache = [])
    (events : List PolicyEvent)
    (hevents : ∀ point ∈ trace policyStep state events, point.2.Admissible point.1) :
    Coherent (run policyStep state events) ∧
      ∀ point ∈ trace policyStep state events, Coherent point.1 := by
  refine forall_trace policyStep Coherent (fun state event => event.Admissible state)
    (fun _ _ hcoherent hevent => hcoherent.step hevent) ?_ events hevents
  intro clientIp config hlookup
  simp [hempty] at hlookup

end Runs

/-! ### Stale policies -/

section StalePolicies

attribute [local instance] Unicode.ascii RegexCrate.fragment SerdeJson.plain IpNetCrate.cidr

def givenId (id : Str) : Env :=
  ⟨str "2026-01-01", fun _ => id, [], fun _ => false, [], fun _ => false, .inPlace⟩

def administrator : Claims := ⟨str "u1", str "admin", str "admin", 0, 0, []⟩

def newServer : AppState :=
  { db := .empty, filter := ⟨.new, .empty⟩, clientConfigCache := [], tokenBlacklist := []
    spawnedSyncs := [] }

/-- A client is made a member of one of two groups, a rule is bound to that group,
and the client asks something. -/
def groupSetup : List PolicyEvent :=
  [⟨givenId (str "c1"), .clientsCreate
      ⟨str "TV", .array [.string (str "192.168.1.10")], none, true, none⟩⟩,
    ⟨givenId [], .createGroup 1 ⟨str "Media", none, none, none⟩⟩,
    ⟨givenId [], .createGroup 2 ⟨str "Guests", none, none, none⟩⟩,
    ⟨givenId [], .batchAddClients 1 [str "c1"]⟩,
    ⟨givenId (str "r1"), .rulesCreate administrator ⟨str "||ads.com^", none, none⟩⟩,
    ⟨givenId (str "r2"), .rulesCreate administrator ⟨str "||tracker.net^", none, none⟩⟩,
    ⟨givenId [], .batchBindRules 1 [⟨str "r1", str "custom_rule", none⟩]⟩,
    ⟨givenId [], .dnsQuery (str "192.168.1.10")⟩]

def afterSetup (operation : Operation) : AppState :=
  run policyStep newServer (groupSetup ++ [⟨givenId [], operation⟩])

theorem not_coherent_of_shown {state : AppState} (shown : ClientConfig → Bool)
    (hcached : (state.clientConfigCache.lookup (str "192.168.1.10")).map shown = some true)
    (hcurrent : shown (resolveClientConfig (fun _ => false) state.db.decoding
      (str "192.168.1.10")) = false) : ¬ Coherent state := by
  intro hcoherent
  obtain ⟨config, hlookup, hshown⟩ := Option.map_eq_some_iff.mp hcached
  rw [← hcoherent _ config hlookup, hshown] at hcurrent
  cases hcurrent

/-- The cached policy is stale after the rule was switched off, after the client was
moved to the other group, and after the second rule was bound by a request that ends
in an error. -/
theorem not_coherent_afterSetup :
    ¬ Coherent (afterSetup (.rulesToggle (str "r1") false)) ∧
    ¬ Coherent (afterSetup (.batchMoveClients ⟨[str "c1"], some 1, some 2⟩)) ∧
    ¬ Coherent (afterSetup (.batchBindRules 1
      [⟨str "r2", str "custom_rule", none⟩, ⟨str "f1", str "filter", none⟩])) := by
  refine ⟨?_, ?_, ?_⟩
  · exact not_coherent_of_shown (·.groupRuleset.isSome) (by decide +kernel) (by decide +kernel)
  · exact not_coherent_of_shown (·.groupRuleset.isSome) (by decide +kernel) (by decide +kernel)
  · exact not_coherent_of_shown
      (fun config => config.groupRuleset.any fun rules => ! rules.isBlocked (str "tracker.net"))
      (by decide +kernel) (by decide +kernel)

/-- A comment may be added to a rule in force, and binding another rule drops the
cached policies. -/
theorem coherent_afterSetup :
    (∀ point ∈ trace policyStep newServer (groupSetup ++
        [⟨givenId [], .rulesUpdate (str "r1") ⟨none, some (str "ads"), none, none⟩⟩,
          ⟨givenId [], .batchBindRules 1 [⟨str "r2", str "custom_rule", none⟩]⟩,
          ⟨givenId [], .dnsQuery (str "192.168.1.10")⟩]),
      point.2.Admissible point.1) ∧
    Coherent (run policyStep newServer (groupSetup ++
      [⟨givenId [], .rulesUpdate (str "r1") ⟨none, some (str "ads"), none, none⟩⟩,
        ⟨givenId [], .batchBindRules 1 [⟨str "r2", str "custom_rule", none⟩]⟩,
        ⟨givenId [], .dnsQuery (str "192.168.1.10")⟩])) := by
  have hevents : ∀ point ∈ trace policyStep newServer (groupSetup ++
      [⟨givenId [], .rulesUpdate (str "r1") ⟨none, some (str "ads"), none, none⟩⟩,
        ⟨givenId [], .batchBindRules 1 [⟨str "r2", str "custom_rule", none⟩]⟩,
        ⟨givenId [], .dnsQuery (str "192.168.1.10")⟩]), point.2.Admissible point.1 := by
    decide +kernel
  exact ⟨hevents, (coherent_of_admissible newServer rfl _ hevents).1⟩

end StalePolicies

end Api

end RustDns
