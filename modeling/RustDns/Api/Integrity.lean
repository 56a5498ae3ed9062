import RustDns.Dns.Sync
import RustDns.Api.Filters
import RustDns.Api.PolicyCache

/-!
# References between the tables

A membership names a client and a group, and a binding names a group and a rule or
rewrite.  The schema declares no foreign keys, so it is up to the handlers that no row
names one that is gone.

The handlers that add such rows look for what they name, and `delete_group` deletes the
rows that name the group along with it.  The other handlers that delete do not look, nor
does `sync_filter_list`, which gives the rows of a list new ids.  The references stay
right in a run in which these delete nothing that is named
(`integrity_of_leavesReferences`).
-/

namespace RustDns

def Database.HasBound (db : Database) (binding : GroupRule) : Prop :=
  binding.ruleType = BoundKind.customRule.ruleType ∧
      binding.ruleId ∈ db.customRules.rows.map CustomRule.id ∨
    binding.ruleType = BoundKind.rewrite.ruleType ∧
      binding.ruleId ∈ db.dnsRewrites.rows.map DnsRewrite.id

instance decidableHasBound (db : Database) (binding : GroupRule) :
    Decidable (db.HasBound binding) :=
  inferInstanceAs (Decidable (_ ∧ _ ∨ _ ∧ _))

structure Database.Integrity (db : Database) : Prop where
  members : ∀ row ∈ db.clientGroupMemberships.rows,
    row.clientId ∈ db.clients.rows.map Client.id ∧
      row.groupId ∈ db.clientGroups.rows.map ClientGroup.id
  bindings : ∀ row ∈ db.clientGroupRules.rows,
    row.groupId ∈ db.clientGroups.rows.map ClientGroup.id ∧ db.HasBound row

def Database.IsBound (db : Database) (kind : BoundKind) (id : Str) : Prop :=
  ∃ binding ∈ db.clientGroupRules.rows, binding.ruleType = kind.ruleType ∧ binding.ruleId = id

instance decidableIsBound (db : Database) (kind : BoundKind) (id : Str) :
    Decidable (db.IsBound kind id) :=
  inferInstanceAs (Decidable (∃ _ ∈ _, _ ∧ _))

def Database.withoutLists (db : Database) : Database := { db with filterLists := .empty }

theorem Database.integrity_withoutLists {db : Database} :
    db.withoutLists.Integrity ↔ db.Integrity :=
  ⟨fun hintegrity => ⟨hintegrity.members, hintegrity.bindings⟩,
    fun hintegrity => ⟨hintegrity.members, hintegrity.bindings⟩⟩

/-! ## Statements -/

namespace Database.Integrity

variable {db : Database}

theorem empty : Database.empty.Integrity :=
  ⟨fun _ hrow => absurd hrow List.not_mem_nil, fun _ hrow => absurd hrow List.not_mem_nil⟩

theorem clients (hintegrity : db.Integrity) {table : Table Client.id}
    (hkept : ∀ row ∈ db.clientGroupMemberships.rows, row.clientId ∈ db.clients.rows.map Client.id →
      row.clientId ∈ table.rows.map Client.id) : { db with clients := table }.Integrity where
  members row hrow :=
    ⟨hkept row hrow (hintegrity.members row hrow).1, (hintegrity.members row hrow).2⟩
  bindings := hintegrity.bindings

theorem clientGroups (hintegrity : db.Integrity) {table : Table ClientGroup.id}
    (hkept : db.clientGroups.rows.map ClientGroup.id ⊆ table.rows.map ClientGroup.id) :
    { db with clientGroups := table }.Integrity where
  members row hrow := (hintegrity.members row hrow).imp_right fun hgroup => hkept hgroup
  bindings row hrow := (hintegrity.bindings row hrow).imp_left fun hgroup => hkept hgroup

theorem customRules (hintegrity : db.Integrity) {table : Table CustomRule.id}
    (hkept : ∀ id, db.IsBound .customRule id → id ∈ db.customRules.rows.map CustomRule.id →
      id ∈ table.rows.map CustomRule.id) : { db with customRules := table }.Integrity where
  members := hintegrity.members
  bindings row hrow := by
    obtain ⟨hgroup, hbound⟩ := hintegrity.bindings row hrow
    refine ⟨hgroup, hbound.imp_left ?_⟩
    rintro ⟨htype, hid⟩
    exact ⟨htype, hkept row.ruleId ⟨row, hrow, htype, rfl⟩ hid⟩

theorem dnsRewrites (hintegrity : db.Integrity) {table : Table DnsRewrite.id}
    (hkept : ∀ id, db.IsBound .rewrite id → id ∈ db.dnsRewrites.rows.map DnsRewrite.id →
      id ∈ table.rows.map DnsRewrite.id) : { db with dnsRewrites := table }.Integrity where
  members := hintegrity.members
  bindings row hrow := by
    obtain ⟨hgroup, hbound⟩ := hintegrity.bindings row hrow
    refine ⟨hgroup, hbound.imp_right ?_⟩
    rintro ⟨htype, hid⟩
    exact ⟨htype, hkept row.ruleId ⟨row, hrow, htype, rfl⟩ hid⟩

theorem memberships (hintegrity : db.Integrity) {table : Api.ClientGroups.Memberships}
    (hnamed : ∀ row ∈ table.rows, (∃ old ∈ db.clientGroupMemberships.rows,
        old.clientId = row.clientId ∧ old.groupId = row.groupId) ∨
      row.clientId ∈ db.clients.rows.map Client.id ∧
        row.groupId ∈ db.clientGroups.rows.map ClientGroup.id) :
    { db with clientGroupMemberships := table }.Integrity where
  members row hrow := by
    rcases hnamed row hrow with ⟨old, hold, hclient, hgroup⟩ | hnew
    · rw [← hclient, ← hgroup]
      exact hintegrity.members old hold
    · exact hnew
  bindings := hintegrity.bindings

theorem groupRules (hintegrity : db.Integrity)
    {table : Table fun row : GroupRule => (row.groupId, row.ruleId, row.ruleType)}
    (hnamed : ∀ row ∈ table.rows, row ∈ db.clientGroupRules.rows ∨
      row.groupId ∈ db.clientGroups.rows.map ClientGroup.id ∧ db.HasBound row) :
    { db with clientGroupRules := table }.Integrity where
  members := hintegrity.members
  bindings row hrow := (hnamed row hrow).elim (hintegrity.bindings row) fun hnew => hnew

theorem deleteStatements (hintegrity : db.Integrity) (id : ℤ) :
    (Api.ClientGroups.deleteStatements id db).Integrity := by
  have hgroups : ∀ groupId ≠ id, groupId ∈ db.clientGroups.rows.map ClientGroup.id →
      groupId ∈ (db.clientGroups.deleteWhere (·.id = id)).rows.map ClientGroup.id := by
    intro groupId hne hgroup
    refine Table.mem_map_key_deleteWhere hgroup fun row _ hrow => ?_
    rw [hrow]
    exact decide_eq_false hne
  refine ⟨fun row hrow => ?_, fun row hrow => ?_⟩
  · obtain ⟨hold, hne⟩ := List.mem_filter.mp hrow
    obtain ⟨hclient, hgroup⟩ := hintegrity.members row hold
    exact ⟨hclient, hgroups _ (by simpa using hne) hgroup⟩
  · obtain ⟨hold, hne⟩ := List.mem_filter.mp hrow
    obtain ⟨hgroup, hbound⟩ := hintegrity.bindings row hold
    exact ⟨hgroups _ (by simpa using hne) hgroup, hbound⟩

theorem deleteRules (hintegrity : db.Integrity) {condition : CustomRule → Bool}
    (hunbound : ∀ row ∈ db.customRules.rows, condition row = true →
      ¬ db.IsBound .customRule row.id) :
    { db with customRules := db.customRules.deleteWhere condition }.Integrity := by
  refine hintegrity.customRules fun id hbound hid => ?_
  refine Table.mem_map_key_deleteWhere hid fun row hrow hkey => ?_
  exact Bool.eq_false_iff.mpr fun hdeleted => hunbound row hrow hdeleted (hkey ▸ hbound)

end Database.Integrity

namespace Api

open Text Program Machine ClientGroups

/-! ## Loops -/

variable {now : Str} {db : Database}

variable {id : ℤ} {clientIds : List Str} {body : BatchMoveClientsRequest} {rule : BindRuleRequest}

theorem mem_addClients {clients : Table Client.id} {table after : Memberships}
    {counted : ℕ × List Str}
    (hadd : addClients now id clients clientIds table = some (after, counted))
    {row : GroupMembership} (hrow : row ∈ after.rows) :
    row ∈ table.rows ∨ row.clientId ∈ clients.rows.map Client.id ∧ row.groupId = id := by
  induction clientIds generalizing table counted with
  | nil =>
    obtain ⟨rfl, -⟩ : table = after ∧ _ := by simpa [addClients] using hadd
    exact Or.inl hrow
  | cons clientId rest ih =>
    unfold addClients at hadd
    split_ifs at hadd with hskip
    · obtain ⟨⟨last, added⟩, hrest, heq⟩ := Option.map_eq_some_iff.mp hadd
      obtain rfl : last = after := congrArg Prod.fst heq
      exact ih hrest
    · split at hadd
      · cases hadd
      · rename_i middle hinsert
        obtain ⟨⟨last, added⟩, hrest, heq⟩ := Option.map_eq_some_iff.mp hadd
        obtain rfl : last = after := congrArg Prod.fst heq
        refine (ih hrest).elim (fun hmiddle => ?_) Or.inr
        rw [Table.rows_of_insert hinsert] at hmiddle
        refine (List.mem_append.mp hmiddle).imp_right fun hnew => ?_
        obtain rfl := List.mem_singleton.mp hnew
        exact ⟨Table.mem_map_key_of_find? fun hnone => hskip (Or.inl hnone), rfl⟩

theorem moveClient_integrity {clientId : Str} (hintegrity : db.Integrity) :
    (moveClient now body db clientId).1.Integrity := by
  have hleaves : ∀ id, (leaveGroup db clientId id).Integrity := fun id =>
    hintegrity.memberships fun row hrow => Or.inl ⟨row, List.mem_of_mem_filter hrow, rfl, rfl⟩
  unfold moveClient
  split_ifs with hclient
  · exact hintegrity
  · -- leaving a group changes neither the clients nor the groups
    obtain ⟨left, hleft, hstays, hclients⟩ : ∃ left : Database,
        body.fromGroupId.elim db (leaveGroup db clientId) = left ∧ left.Integrity ∧
          left.clients = db.clients := by
      cases body.fromGroupId with
      | none => exact ⟨db, rfl, hintegrity, rfl⟩
      | some id => exact ⟨_, rfl, hleaves id, rfl⟩
    simp only [hleft]
    split
    · exact hstays
    · split_ifs with hgroup
      · exact hstays
      · rename_i id _
        refine hstays.memberships fun row hrow => ?_
        rcases (Table.mem_map_key_upsert_iff _).mp (List.mem_map_of_mem hrow) with hold | hnew
        · obtain ⟨old, hold, hkey⟩ := List.mem_map.mp hold
          exact Or.inl ⟨old, hold, congrArg Prod.fst hkey, congrArg Prod.snd hkey⟩
        · obtain ⟨rfl, rfl⟩ : row.clientId = clientId ∧ row.groupId = id := by simpa using hnew
          rw [← hclients] at hclient
          exact Or.inr ⟨Table.mem_map_key_of_find? hclient, Table.mem_map_key_of_find? hgroup⟩

theorem moveClients_integrity (hintegrity : db.Integrity) :
    (moveClients now body clientIds db).1.Integrity := by
  induction clientIds generalizing db with
  | nil => exact hintegrity
  | cons clientId rest ih => exact ih (moveClient_integrity hintegrity)

theorem hasBound_of_isIn {binding : GroupRule} (htype : rule.hasRuleType = true)
    (hrule : rule.isIn db = true) (hruleId : binding.ruleId = rule.ruleId)
    (hruleType : binding.ruleType = rule.ruleType) : db.HasBound binding := by
  unfold BindRuleRequest.isIn at hrule
  unfold Database.HasBound
  rw [hruleId, hruleType]
  split_ifs at hrule with hcustom
  · exact Or.inl ⟨hcustom, Table.isSome_find?_iff.mp hrule⟩
  · refine Or.inr ⟨?_, Table.isSome_find?_iff.mp hrule⟩
    have hrewrite : rule.ruleType = str "rewrite" := by
      simpa [BindRuleRequest.hasRuleType, beq_false_of_ne hcustom] using htype
    exact hrewrite

theorem bindRule_integrity
    {table : Table fun row : GroupRule => (row.groupId, row.ruleId, row.ruleType)}
    (hintegrity : db.Integrity) (hgroup : id ∈ db.clientGroups.rows.map ClientGroup.id)
    (hbind : bindRule now id db rule = .bound table) :
    { db with clientGroupRules := table }.Integrity := by
  unfold bindRule at hbind
  split_ifs at hbind with htype hrule
  split at hbind
  · cases hbind
  · rename_i after hinsert
    obtain rfl := BindOutcome.bound.inj hbind
    refine hintegrity.groupRules fun row hrow => ?_
    rw [Table.rows_of_insert hinsert] at hrow
    refine (List.mem_append.mp hrow).imp_right fun hnew => ?_
    obtain rfl := List.mem_singleton.mp hnew
    exact ⟨hgroup, hasBound_of_isIn (by simpa using htype) (by simpa using hrule) rfl rfl⟩

theorem bindRules_integrity {rules : List BindRuleRequest} (hintegrity : db.Integrity)
    (hgroup : id ∈ db.clientGroups.rows.map ClientGroup.id) :
    (bindRules now id rules db).1.Integrity := by
  induction rules generalizing db with
  | nil => exact hintegrity
  | cons rule rest ih =>
    unfold bindRules
    cases hrule : bindRule now id db rule with
    | failed e => exact hintegrity
    | skipped reason => exact ih hintegrity hgroup
    | bound table => exact ih (bindRule_integrity hintegrity hgroup hrule) hgroup

/-! ## Operations -/

/-- An operation on the tables: one that concerns the policies, or one on the imported
rules or the filter lists.  A synchronisation comes with what it downloads. -/
inductive Change where
  | policy (operation : Operation)
  | importRules (auth : Claims) (multipart : List (Except Str Rules.Field))
  | filtersCreate (body : Filters.CreateFilterRequest)
  | filtersUpdate (id : Str) (body : Filters.UpdateFilterRequest)
  | filtersDelete (id : Str)
  | filtersRefresh (id : Str)
  | sync (filterId : Str) (fetched : Option Str)

structure ChangeEvent where
  env : Env
  change : Change

section Handle

variable [Unicode] [RegexCrate] [SerdeJson]

/-- The task that `create` and `refresh` spawn. -/
def backgroundSync (env : Env) (filterId : Str) (fetched : Option Str) : ApiM Unit := do
  match syncFilterList env.newId env.now filterId fetched (← get).db with
  | none => return ()
  | some (db, _) =>
    modifyDb fun _ => db
    tryReloadFilter env

variable [IpNetCrate]

/-- The handler of a change, without its response. -/
def Change.handle (env : Env) : Change → ApiM Unit
  | policy operation => operation.handle env
  | importRules auth multipart => do let _ ← Rules.importRules env auth multipart
  | filtersCreate body => do let _ ← Filters.create env body
  | filtersUpdate id body => do let _ ← Filters.update env id body
  | filtersDelete id => Filters.delete env id
  | filtersRefresh id => Filters.refresh id
  | sync filterId fetched => backgroundSync env filterId fetched

def changeStep (state : AppState) (event : ChangeEvent) : AppState × Except AppError Unit :=
  let after := (event.change.handle event.env).eval state
  (after.2, after.1)

end Handle

def Unbound (db : Database) (condition : CustomRule → Bool) : Prop :=
  ∀ row ∈ db.customRules.rows, condition row = true → ¬ db.IsBound .customRule row.id

/-- The change deletes nothing that a membership or a binding names, except for what
`delete_group` deletes. -/
def Change.LeavesReferences (db : Database) : Change → Prop
  | policy (.clientsDelete id) => ∀ row ∈ db.clientGroupMemberships.rows, row.clientId ≠ id
  | policy (.rulesDelete id) => Unbound db (·.id = id)
  | policy (.rulesBulkAction req) => req.action = str "delete" → Unbound db req.selects
  | policy (.rewritesDelete id) => ¬ db.IsBound .rewrite id
  | filtersDelete id => Unbound db (·.createdBy = filterPrefix id)
  | sync id fetched => fetched.isSome = true → Unbound db (·.createdBy = filterPrefix id)
  | _ => True

instance decidableUnbound (db : Database) (condition : CustomRule → Bool) :
    Decidable (Unbound db condition) :=
  inferInstanceAs (Decidable (∀ _ ∈ _, _ → ¬ _))

instance decidableLeavesReferences (db : Database) :
    (change : Change) → Decidable (change.LeavesReferences db)
  | .policy (.clientsDelete _) => inferInstanceAs (Decidable (∀ _ ∈ _, _ ≠ _))
  | .policy (.rulesDelete _) => decidableUnbound db _
  | .policy (.rulesBulkAction _) => inferInstanceAs (Decidable (_ → Unbound db _))
  | .policy (.rewritesDelete _) => inferInstanceAs (Decidable (¬ _))
  | .filtersDelete _ => decidableUnbound db _
  | .sync _ _ => inferInstanceAs (Decidable (_ → Unbound db _))
  | .policy (.clientsCreate _) | .policy (.clientsUpdate _ _) | .policy (.createGroup _ _)
  | .policy (.updateGroup _ _) | .policy (.deleteGroup _) | .policy (.batchAddClients _ _)
  | .policy (.batchRemoveClients _ _) | .policy (.batchMoveClients _)
  | .policy (.batchBindRules _ _) | .policy (.batchUnbindRules _ _ _)
  | .policy (.rulesCreate _ _) | .policy (.rulesUpdate _ _) | .policy (.rulesToggle _ _)
  | .policy (.rewritesCreate _ _ _) | .policy (.rewritesUpdate _ _ _) | .policy (.dnsQuery _)
  | .importRules _ _ | .filtersCreate _ | .filtersUpdate _ _ | .filtersRefresh _ =>
    .isTrue trivial

/-! ## What a change keeps -/

section Steps

variable [Unicode] [RegexCrate]

def Keeps (before after : AppState) : Prop := before.db.Integrity → after.db.Integrity

theorem Keeps.refl (state : AppState) : Keeps state state := fun hintegrity => hintegrity

variable {before after : AppState}

theorem keeps_of_sameView (hsame : SameView Database.withoutLists before after) :
    Keeps before after := by
  intro hintegrity
  rw [← Database.integrity_withoutLists] at hintegrity ⊢
  have hview : after.db.withoutLists = before.db.withoutLists := hsame
  rwa [hview]

theorem Keeps.sameView {middle : AppState} (hkeeps : Keeps before middle)
    (hsame : SameView Database.withoutLists middle after) : Keeps before after :=
  fun hintegrity => keeps_of_sameView hsame (hkeeps hintegrity)

theorem keeps_of_writes {ι : Type} {write : ι → AppState} {allowed : ι → Prop}
    (hwrites : Writes write allowed before after)
    (hwrite : ∀ i, allowed i → before.db.Integrity → (write i).db.Integrity) : Keeps before after :=
  hwrites.elim (fun hmiddle hsame => hmiddle.sameView (congrArg _ hsame.2)) (.refl _) hwrite

omit [RegexCrate] in
theorem storeRules_integrity {newId : ℕ → Str} {now filterId content : Str} {db : Database}
    (hunbound : Unbound db (·.createdBy = filterPrefix filterId)) (hintegrity : db.Integrity) :
    (storeRules newId now filterId content db).Integrity := by
  have hcleared := hintegrity.deleteRules hunbound
  have hstored := hcleared.customRules fun _ _ hid =>
    Table.map_key_subset_foldl_insertOrIgnore _ (importedRows newId now filterId content) hid
  exact ⟨hstored.members, hstored.bindings⟩

variable [SerdeJson] {state : AppState} (env : Env)

theorem backgroundSync_keeps (filterId : Str) (fetched : Option Str)
    (hunbound : fetched.isSome = true → Unbound state.db (·.createdBy = filterPrefix filterId)) :
    Keeps state ((backgroundSync env filterId fetched).exec state) := by
  unfold backgroundSync
  rw [exec_get_bind]
  cases fetched with
  | none => exact .refl _
  | some content =>
    exact related_bind Keeps Keeps.sameView (storeRules_integrity (hunbound rfl)) fun _ =>
      tryReloadFilter_respects env

theorem getDecodedConfig_respects [IpNetCrate] (clientIp : Str) :
    Respects (SameView Database.withoutLists) (getDecodedConfig env clientIp) := by
  unfold getDecodedConfig
  refine respects_bind respects_get fun state => ?_
  split
  · exact respects_pure _
  · exact respects_bind (respects_modify_of_db fun _ => rfl) fun _ => respects_pure _

theorem policy_keeps [IpNetCrate] (operation : Operation)
    (hleaves : (Change.policy operation).LeavesReferences state.db) :
    Keeps state ((operation.handle env).exec state) := by
  cases operation with
  | clientsCreate body =>
    refine keeps_of_writes (Clients.create_writes env state body).ignored ?_
    rintro table ⟨row, hinsert⟩ hintegrity
    exact hintegrity.clients fun _ _ hclient => Table.map_key_subset_of_insert hinsert hclient
  | clientsUpdate id body =>
    refine keeps_of_writes (Clients.update_writes env state id body) ?_
    rintro table ⟨filterEnabled, rfl⟩ hintegrity
    exact hintegrity.clients fun _ _ hclient => Table.map_key_subset_updateWhere _ hclient
  | clientsDelete id =>
    refine keeps_of_writes (Clients.delete_writes state id) ?_
    rintro table rfl hintegrity
    refine hintegrity.clients fun row hrow hclient => ?_
    refine Table.mem_map_key_deleteWhere hclient fun client _ hid => ?_
    rw [hid]
    exact decide_eq_false (hleaves row hrow)
  | createGroup nextId body =>
    refine keeps_of_writes (createGroup_writes env state nextId body).ignored ?_
    rintro table ⟨row, -, hinsert⟩ hintegrity
    exact hintegrity.clientGroups (Table.map_key_subset_of_insert hinsert)
  | updateGroup id body =>
    refine keeps_of_writes (updateGroup_writes env state id body).ignored ?_
    rintro db ⟨name, rfl⟩ hintegrity
    exact hintegrity.clientGroups (Table.map_key_subset_updateWhere _)
  | deleteGroup id =>
    refine keeps_of_writes (deleteGroup_writes state id).ignored ?_
    rintro db rfl hintegrity
    exact hintegrity.deleteStatements id
  | batchAddClients id clientIds =>
    refine keeps_of_writes (batchAddClients_writes env state id clientIds).ignored ?_
    rintro db ⟨hgroup, table, counted, hadd, rfl⟩ hintegrity
    refine hintegrity.memberships fun row hrow => ?_
    rcases mem_addClients hadd hrow with hold | ⟨hclient, rfl⟩
    · exact Or.inl ⟨row, hold, rfl, rfl⟩
    · exact Or.inr ⟨hclient, Table.isSome_find?_iff.mp hgroup⟩
  | batchRemoveClients id clientIds =>
    refine keeps_of_writes (batchRemoveClients_writes state id clientIds).ignored ?_
    rintro db ⟨conditions, rfl⟩ hintegrity
    exact hintegrity.memberships fun row hrow =>
      Or.inl ⟨row, Table.mem_of_mem_deleteEach hrow, rfl, rfl⟩
  | batchMoveClients body => exact moveClients_integrity
  | batchBindRules id rules =>
    refine keeps_of_writes (batchBindRules_writes env state id rules).ignored ?_
    rintro kept ⟨hgroup, -⟩ hintegrity
    exact bindRules_integrity hintegrity (Table.isSome_find?_iff.mp hgroup)
  | batchUnbindRules id ruleType body =>
    refine keeps_of_writes (batchUnbindRules_writes state id ruleType body).ignored ?_
    rintro db ⟨conditions, rfl⟩ hintegrity
    exact hintegrity.groupRules fun row hrow => Or.inl (Table.mem_of_mem_deleteEach hrow)
  | rulesCreate auth body =>
    refine keeps_of_writes (Rules.create_writes env state auth body).ignored ?_
    rintro table ⟨row, -, hinsert⟩ hintegrity
    exact hintegrity.customRules fun _ _ hid => Table.map_key_subset_of_insert hinsert hid
  | rulesUpdate id body =>
    refine keeps_of_writes (Rules.update_writes env state id body).ignored ?_
    rintro table ⟨-, rfl⟩ hintegrity
    exact hintegrity.customRules fun _ _ hid => Table.map_key_subset_updateWhere _ hid
  | rulesToggle id isEnabled =>
    refine keeps_of_writes (Rules.toggle_writes env state id isEnabled) ?_
    rintro table rfl hintegrity
    exact hintegrity.customRules fun _ _ hid => Table.map_key_subset_updateWhere _ hid
  | rulesDelete id =>
    refine Keeps.sameView ?_ (congrArg _ (Rules.delete_writes env state id).2)
    exact fun hintegrity => hintegrity.deleteRules hleaves
  | rulesBulkAction req =>
    refine keeps_of_writes (Rules.bulkAction_writes env state req).ignored ?_
    rintro table (⟨isEnabled, rfl⟩ | ⟨hdelete, rfl⟩) hintegrity
    · exact hintegrity.customRules fun _ _ hid => Table.map_key_subset_updateWhere _ hid
    · exact hintegrity.deleteRules (hleaves hdelete)
  | rewritesCreate auth domain answer =>
    refine keeps_of_writes (Rewrites.create_writes env state auth domain answer).ignored ?_
    rintro table ⟨row, -, hinsert⟩ hintegrity
    exact hintegrity.dnsRewrites fun _ _ hid => Table.map_key_subset_of_insert hinsert hid
  | rewritesUpdate id domain answer =>
    refine keeps_of_writes (Rewrites.update_writes env state id domain answer).ignored ?_
    rintro table ⟨domain, answer, rfl⟩ hintegrity
    exact hintegrity.dnsRewrites fun _ _ hid =>
      Table.map_key_subset_reorder _ (Table.map_key_subset_updateWhere _ hid)
  | rewritesDelete id =>
    refine keeps_of_writes (Rewrites.delete_writes env state id) ?_
    rintro table rfl hintegrity
    refine hintegrity.dnsRewrites fun other hbound hid => ?_
    refine Table.mem_map_key_deleteWhere hid fun row _ hrow => decide_eq_false ?_
    rintro rfl
    exact hleaves (hrow ▸ hbound)
  | dnsQuery clientIp =>
    exact keeps_of_sameView (respects_bind (getDecodedConfig_respects env clientIp)
      (fun _ => respects_pure ()) state)

theorem handle_keeps [IpNetCrate] (change : Change) (hleaves : change.LeavesReferences state.db) :
    Keeps state ((change.handle env).exec state) := by
  cases change with
  | policy operation => exact policy_keeps env operation hleaves
  | importRules auth multipart =>
    refine keeps_of_writes (Rules.importRules_writes env state auth multipart).ignored ?_
    intro table hrows hintegrity
    exact hintegrity.customRules fun _ _ hid => List.map_subset _ hrows hid
  | filtersCreate body =>
    exact keeps_of_sameView
      ((Filters.create_writes env state body).ignored.sameView fun _ => rfl)
  | filtersUpdate id body =>
    exact keeps_of_sameView
      ((Filters.update_writes env state id body).ignored.sameView fun _ => rfl)
  | filtersDelete id =>
    refine Keeps.sameView ?_ (congrArg _ (Filters.delete_writes env state id).2)
    intro hintegrity
    have hdeleted := hintegrity.deleteRules hleaves
    exact ⟨hdeleted.members, hdeleted.bindings⟩
  | filtersRefresh id =>
    exact keeps_of_sameView (congrArg _ (Filters.refresh_untouched id state).2)
  | sync filterId fetched => exact backgroundSync_keeps env filterId fetched hleaves

end Steps

/-! ## Runs -/

/-- **When every reference stays right.**  In a run in which no change deletes what a
membership or a binding names, all of them name rows that exist, after every change. -/
theorem integrity_of_leavesReferences [Unicode] [RegexCrate] [SerdeJson] [IpNetCrate]
    (state : AppState) (hinit : state.db.Integrity) (events : List ChangeEvent)
    (hleaves : ∀ point ∈ trace changeStep state events,
      point.2.change.LeavesReferences point.1.db) :
    (run changeStep state events).db.Integrity ∧
      ∀ point ∈ trace changeStep state events, point.1.db.Integrity :=
  forall_trace changeStep (fun state => state.db.Integrity)
    (fun state event => event.change.LeavesReferences state.db)
    (fun _ event hintegrity hleaves => handle_keeps event.env event.change hleaves hintegrity)
    hinit events hleaves

/-! ### References to nothing -/

section Dangling

attribute [local instance] Unicode.ascii RegexCrate.fragment SerdeJson.plain IpNetCrate.cidr

/-- A rewrite is added, and a list is created and synchronised; the rewrite and the rule
of the list are bound to the group of the client. -/
def referenceSetup : List ChangeEvent :=
  groupSetup.map (fun event => ⟨event.env, .policy event.operation⟩) ++
    [⟨givenId (str "w1"), .policy (.rewritesCreate administrator (str "nas.lan") (str "10.0.0.2"))⟩,
      ⟨givenId (str "l1"), .filtersCreate ⟨str "Ads", some (str "ads.txt"), true, 24⟩⟩,
      ⟨givenId (str "i1"), .sync (str "l1") (some (str "||banner.com^\n"))⟩,
      ⟨givenId [], .policy (.batchBindRules 1
        [⟨str "w1", str "rewrite", none⟩, ⟨str "i1", str "custom_rule", none⟩])⟩]

def afterChange (id : Str) (change : Change) : Database :=
  (run changeStep newServer (referenceSetup ++ [⟨givenId id, change⟩])).db

/-- Each of the handlers that delete leaves a row that names what is gone: a membership
of the client, or a binding of the rule or rewrite. -/
theorem not_integrity_afterChange :
    ¬ (afterChange [] (.policy (.clientsDelete (str "c1")))).Integrity ∧
    ¬ (afterChange [] (.policy (.rulesDelete (str "r1")))).Integrity ∧
    ¬ (afterChange [] (.policy (.rulesBulkAction ⟨[str "r1"], str "delete"⟩))).Integrity ∧
    ¬ (afterChange [] (.policy (.rewritesDelete (str "w1")))).Integrity ∧
    ¬ (afterChange [] (.filtersDelete (str "l1"))).Integrity ∧
    ¬ (afterChange (str "i2") (.sync (str "l1") (some (str "||banner.com^\n")))).Integrity := by
  refine ⟨fun h => ?_, fun h => ?_, fun h => ?_, fun h => ?_, fun h => ?_, fun h => ?_⟩
  · exact absurd h.members (by decide +kernel)
  all_goals exact absurd h.bindings (by decide +kernel)

/-- The client leaves its group and the bindings are dropped before anything is deleted;
the group is deleted with its last binding. -/
def carefulRun : List ChangeEvent :=
  referenceSetup ++
    [⟨givenId [], .policy (.batchRemoveClients 1 [str "c1"])⟩,
      ⟨givenId [], .policy (.clientsDelete (str "c1"))⟩,
      ⟨givenId [], .policy (.batchUnbindRules 1 (some (str "custom_rule"))
        ⟨[str "r1", str "i1"], []⟩)⟩,
      ⟨givenId [], .policy (.rulesDelete (str "r1"))⟩,
      ⟨givenId (str "i2"), .sync (str "l1") (some (str "||banner.com^\n"))⟩,
      ⟨givenId [], .filtersDelete (str "l1")⟩,
      ⟨givenId [], .policy (.deleteGroup 1)⟩,
      ⟨givenId [], .policy (.rewritesDelete (str "w1"))⟩]

theorem integrity_carefulRun : (run changeStep newServer carefulRun).db.Integrity :=
  (integrity_of_leavesReferences newServer .empty carefulRun (by decide +kernel)).1

end Dangling

end Api

end RustDns
