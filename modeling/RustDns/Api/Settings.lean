import RustDns.Checked
import RustDns.Dns.Handler
import RustDns.Api.Upstreams

/-!
# The DNS settings

`settings::update_dns` takes the fields of its body one after the other: it checks the
field, writes it to the settings table, and brings the filter engine, the access list or
the upstream pool up to date.  Nothing is undone when a later field is refused, so a request
that ends with a validation error may still have changed something.

`updateDns_allOrNothing_iff` says when it has not: all settings that were written before the
refused field had these values already, and the filter engine and the access list came out
as they were.
-/

namespace RustDns.Api.Settings

open Text Checked

structure UpdateDnsSettingsRequest where
  upstreams : Option (List Str) := none
  cacheTtl : Option ℕ := none
  queryLogRetentionDays : Option ℕ := none
  statsRetentionDays : Option ℕ := none
  safeSearchEnabled : Option Bool := none
  parentalControlEnabled : Option Bool := none
  parentalControlLevel : Option Str := none
  upstreamStrategy : Option Str := none
  aclAllowedNetworks : Option (List Str) := none
  aclDeniedNetworks : Option (List Str) := none

/-- What a reload of the filter engine draws from outside: the time, and which of its
queries fail. -/
structure ReloadEnv where
  now : Str
  fails : ReloadQuery → Bool

/-- What a request draws from outside: its reloads of the filter engine, and whether the
queries of `reload_upstreams` fail. -/
structure SettingsEnv where
  safeSearchReload : ReloadEnv
  parentalControlReload : ReloadEnv
  parentalLevelReload : ReloadEnv
  upstreamsFail : Bool
  preferIpv4 : Bool

@[ext] structure DnsState [Unicode] [RegexCrate] [IpNetCrate] where
  db : Database
  filter : FilterEngine
  acl : Acl
  pool : UpstreamPool

inductive Statement where
  /-- `INSERT INTO settings … ON CONFLICT (key) DO UPDATE SET value = …`. -/
  | set (setting : Setting)
  /-- `state.filter.reload()`, whose error is only logged. -/
  | reloadFilter (reload : ReloadEnv)
  /-- `DnsHandler::reload_acl`. -/
  | reloadAcl (allowed denied : List Str)
  /-- `DnsHandler::reload_upstreams`, whose error is only logged. -/
  | reloadUpstreams

def writeSetting (settings : Table Setting.key) (setting : Setting) : Table Setting.key :=
  settings.upsert setting (fun row => { row with value := setting.value }) fun _ => rfl

/-! ## Writing settings -/

variable {settings : Table Setting.key} {setting : Setting} {others : List Setting}

theorem writeSetting_eq_self (hsetting : setting ∈ settings.rows) :
    writeSetting settings setting = settings := by
  refine Table.upsert_eq_self (fun row hkey => ?_) hsetting
  rw [hkey]

theorem mem_writeSetting_self (settings : Table Setting.key) (setting : Setting) :
    setting ∈ (writeSetting settings setting).rows := by
  refine Table.mem_upsert_self fun row hkey => ?_
  rw [hkey]

theorem mem_foldl_writeSetting (hsetting : setting ∈ settings.rows)
    (hothers : setting.key ∉ others.map Setting.key) :
    setting ∈ (others.foldl writeSetting settings).rows := by
  induction others generalizing settings with
  | nil => exact hsetting
  | cons other rest ih =>
    obtain ⟨hne, hrest⟩ := not_or.mp (List.mem_cons.not.mp hothers)
    exact ih (Table.mem_upsert_of_ne hsetting hne) hrest

/-- Settings with different keys are written without effect if and only if they were there. -/
theorem foldl_writeSetting_eq_self_iff {new : List Setting} (hkeys : (new.map Setting.key).Nodup) :
    new.foldl writeSetting settings = settings ↔ ∀ setting ∈ new, setting ∈ settings.rows := by
  induction new generalizing settings with
  | nil => simp
  | cons setting rest ih =>
    obtain ⟨hkey, hrest⟩ := List.nodup_cons.mp hkeys
    rw [List.foldl_cons, List.forall_mem_cons]
    constructor
    · intro hself
      have hsetting : setting ∈ settings.rows := by
        rw [← hself]
        exact mem_foldl_writeSetting (mem_writeSetting_self settings setting) hkey
      rw [writeSetting_eq_self hsetting] at hself
      exact ⟨hsetting, (ih hrest).mp hself⟩
    · rintro ⟨hsetting, hmem⟩
      rw [writeSetting_eq_self hsetting]
      exact (ih hrest).mpr hmem

theorem setting_eq (db : Database) (key : Str) :
    db.setting key = (db.settings.find? key).map Setting.value := by
  unfold Database.setting Table.find?
  simp only [beq_eq_decide]

theorem find?_foldl_writeSetting {settings : Table Setting.key} {key : Str}
    (hothers : key ∉ others.map Setting.key) :
    (others.foldl writeSetting settings).find? key = settings.find? key := by
  induction others generalizing settings with
  | nil => rfl
  | cons other rest ih =>
    obtain ⟨hne, hrest⟩ := not_or.mp (List.mem_cons.not.mp hothers)
    exact (ih hrest).trans (Table.find?_upsert_of_ne hne)

/-! ## The handler -/

section Handler

variable [Unicode] [RegexCrate] [IpNetCrate] [SerdeJson]

def execute (env : SettingsEnv) (statement : Statement) (state : DnsState) : DnsState :=
  match statement with
  | .set setting =>
    { state with
      db := { state.db with settings := writeSetting state.db.settings setting } }
  | .reloadFilter reload =>
    { state with
      filter := (FilterEngine.reload reload.fails reload.now state.db).getD state.filter }
  | .reloadAcl allowed denied => { state with acl := Acl.fromCidrs allowed denied }
  | .reloadUpstreams =>
    if env.upstreamsFail then state
    else
      { state with
        pool := UpstreamPool.new (Upstreams.listUpstreams state.db)
          ((state.db.setting (str "upstream_strategy")).getD (str "priority"))
          env.preferIpv4 }

abbrev FieldPart := Part DnsState Statement AppError

def fieldPart {α : Type} (field : Option α) (refused : α → Bool) (message : Str)
    (statements : α → List Statement) : FieldPart where
  check _ := if field.any refused then some (.validation message) else none
  statements _ := field.elim [] statements

/-- `to_string` of a number. -/
def showNumber (n : ℕ) : Str := str (toString n)

def showSwitch (enabled : Bool) : Str := if enabled then str "true" else str "false"

/-- `cache_ttl`. -/
def cacheTtlPart (body : UpdateDnsSettingsRequest) : FieldPart :=
  fieldPart body.cacheTtl (86400 < ·) (str "cache_ttl must be between 0 and 86400 seconds")
    fun ttl => [.set ⟨str "dns_cache_ttl", showNumber ttl⟩]

def retentionPart (key : String) (days : Option ℕ) : FieldPart :=
  fieldPart days (fun days => days = 0 || 365 < days)
    (str key ++ str " must be between 1 and 365")
    fun days => [.set ⟨str key, showNumber days⟩]

def switchPart (key : String) (enabled : Option Bool) (reload : ReloadEnv) : FieldPart :=
  fieldPart enabled (fun _ => false) []
    fun enabled => [.set ⟨str key, showSwitch enabled⟩, .reloadFilter reload]

/-- `parental_control_level`. -/
def parentalLevelPart (body : UpdateDnsSettingsRequest) (reload : ReloadEnv) : FieldPart :=
  fieldPart body.parentalControlLevel
    (! [str "none", str "basic", str "standard", str "strict"].contains ·)
    (str "parental_control_level must be one of: none, basic, standard, strict")
    fun level => [.set ⟨str "parental_control_level", level⟩, .reloadFilter reload]

def storedList (db : Database) (key : Str) : List Str :=
  ((db.setting key).bind SerdeJson.stringVec).getD []

/-- `serde_json::to_string` on a list. -/
def listText (entries : List Str) : Str := SerdeJson.toStr (.array (entries.map .string))

def UpdateDnsSettingsRequest.newLists (body : UpdateDnsSettingsRequest) (db : Database) :
    List Str × List Str :=
  (body.aclAllowedNetworks.getD (storedList db (str "acl_allowed_networks")),
    body.aclDeniedNetworks.getD (storedList db (str "acl_denied_networks")))

/-- `acl_allowed_networks` and `acl_denied_networks`. -/
def aclPart (body : UpdateDnsSettingsRequest) : FieldPart where
  check state :=
    if body.aclAllowedNetworks.isSome || body.aclDeniedNetworks.isSome then
      let (allowed, denied) := body.newLists state.db
      let bad := Acl.validateCidrs allowed ++ Acl.validateCidrs denied
      if bad.isEmpty then none
      else some (.validation (str "Invalid CIDR entries: " ++ join (str ", ") bad))
    else none
  statements state :=
    if body.aclAllowedNetworks.isSome || body.aclDeniedNetworks.isSome then
      let (allowed, denied) := body.newLists state.db
      [.set ⟨str "acl_allowed_networks", listText allowed⟩,
        .set ⟨str "acl_denied_networks", listText denied⟩, .reloadAcl allowed denied]
    else []

/-- `upstream_strategy`. -/
def strategyPart (body : UpdateDnsSettingsRequest) : FieldPart :=
  fieldPart body.upstreamStrategy
    (! [str "priority", str "fastest", str "load_balance"].contains ·)
    (str "upstream_strategy must be one of: priority, fastest, load_balance")
    fun strategy => [.set ⟨str "upstream_strategy", strategy⟩, .reloadUpstreams]

def fieldParts (env : SettingsEnv) (body : UpdateDnsSettingsRequest) : List FieldPart :=
  [cacheTtlPart body, retentionPart "query_log_retention_days" body.queryLogRetentionDays,
    retentionPart "stats_retention_days" body.statsRetentionDays,
    switchPart "safe_search_enabled" body.safeSearchEnabled env.safeSearchReload,
    switchPart "parental_control_enabled" body.parentalControlEnabled env.parentalControlReload,
    parentalLevelPart body env.parentalLevelReload]

/-- The parts of the handler, in its order.  The field `upstreams` is ignored. -/
def parts (env : SettingsEnv) (body : UpdateDnsSettingsRequest) : List FieldPart :=
  fieldParts env body ++ [aclPart body] ++ [strategyPart body]

def updateDns (env : SettingsEnv) (body : UpdateDnsSettingsRequest) :
    Program DnsState AppError Unit :=
  run (execute env) (parts env body)

/-! ## What the statements change -/

def written : List Statement → List Setting :=
  List.filterMap fun
    | .set setting => some setting
    | .reloadFilter _ | .reloadAcl _ _ | .reloadUpstreams => none

/-- The engine after some statements that leave the database as it is: that of the last
reload that succeeds. -/
def engineAfter (db : Database) : List Statement → FilterEngine → FilterEngine
  | [], engine => engine
  | .reloadFilter reload :: rest, engine =>
    engineAfter db rest ((FilterEngine.reload reload.fails reload.now db).getD engine)
  | .set _ :: rest, engine | .reloadAcl _ _ :: rest, engine | .reloadUpstreams :: rest, engine =>
    engineAfter db rest engine

def aclAfter : List Statement → Acl → Acl
  | [], acl => acl
  | .reloadAcl allowed denied :: rest, _ => aclAfter rest (Acl.fromCidrs allowed denied)
  | .set _ :: rest, acl | .reloadFilter _ :: rest, acl | .reloadUpstreams :: rest, acl =>
    aclAfter rest acl

/-- The statements change nothing: the settings have the values that are written, and the
engine and the access list come out as they were. -/
structure LeavesAsIs (statements : List Statement) (state : DnsState) : Prop where
  settings : ∀ setting ∈ written statements, setting ∈ state.db.settings.rows
  filter : engineAfter state.db statements state.filter = state.filter
  acl : aclAfter statements state.acl = state.acl

section Writes

variable {env : SettingsEnv} {statements : List Statement} {state : DnsState}

variable (env) in
theorem db_executeAll (statements : List Statement) (state : DnsState) :
    (executeAll (execute env) statements state).db =
      { state.db with settings := (written statements).foldl writeSetting state.db.settings } := by
  induction statements generalizing state with
  | nil => rfl
  | cons statement rest ih =>
    refine (ih (execute env statement state)).trans ?_
    cases statement with
    | reloadUpstreams =>
      simp only [execute]
      split_ifs <;> rfl
    | set _ | reloadFilter _ | reloadAcl _ _ => rfl

variable (env) in
theorem acl_executeAll (statements : List Statement) (state : DnsState) :
    (executeAll (execute env) statements state).acl = aclAfter statements state.acl := by
  induction statements generalizing state with
  | nil => rfl
  | cons statement rest ih =>
    refine (ih (execute env statement state)).trans ?_
    cases statement with
    | reloadUpstreams =>
      simp only [execute]
      split_ifs <;> rfl
    | set _ | reloadFilter _ | reloadAcl _ _ => rfl

variable (env) in
theorem filter_executeAll (hwritten : ∀ setting ∈ written statements,
    setting ∈ state.db.settings.rows) :
    (executeAll (execute env) statements state).filter =
      engineAfter state.db statements state.filter := by
  induction statements generalizing state with
  | nil => rfl
  | cons statement rest ih =>
    cases statement with
    | set setting =>
      obtain ⟨hsetting, hrest⟩ := List.forall_mem_cons.mp hwritten
      have hstate : execute env (.set setting) state = state := by
        simp only [execute, writeSetting_eq_self hsetting]
      exact (congrArg DnsState.filter (congrArg (executeAll (execute env) rest) hstate)).trans
        (ih hrest)
    | reloadFilter reload => exact ih hwritten
    | reloadAcl allowed denied => exact ih hwritten
    | reloadUpstreams =>
      have hexecute : (execute env .reloadUpstreams state).db = state.db ∧
          (execute env .reloadUpstreams state).filter = state.filter := by
        simp only [execute]
        split_ifs <;> exact ⟨rfl, rfl⟩
      refine (ih (hexecute.1 ▸ hwritten)).trans ?_
      rw [hexecute.1, hexecute.2]
      rfl

theorem pool_executeAll (hpool : .reloadUpstreams ∉ statements) :
    (executeAll (execute env) statements state).pool = state.pool := by
  induction statements generalizing state with
  | nil => rfl
  | cons statement rest ih =>
    obtain ⟨hne, hrest⟩ := not_or.mp (List.mem_cons.not.mp hpool)
    refine (ih hrest).trans ?_
    cases statement with
    | reloadUpstreams => exact absurd rfl hne
    | set _ | reloadFilter _ | reloadAcl _ _ => rfl

/-- Statements that write different settings, and do not reload the pool, change nothing if
and only if `LeavesAsIs`. -/
theorem executeAll_eq_self_iff (hkeys : ((written statements).map Setting.key).Nodup)
    (hpool : .reloadUpstreams ∉ statements) :
    executeAll (execute env) statements state = state ↔ LeavesAsIs statements state := by
  constructor
  · intro hself
    have hdb : (written statements).foldl writeSetting state.db.settings = state.db.settings := by
      have hsettings := congrArg Database.settings (db_executeAll env statements state)
      rw [hself] at hsettings
      exact hsettings.symm
    have hwritten := (foldl_writeSetting_eq_self_iff hkeys).mp hdb
    refine ⟨hwritten, ?_, ?_⟩
    · rw [← filter_executeAll env hwritten, hself]
    · rw [← acl_executeAll env, hself]
  · intro hleaves
    have hdb := (foldl_writeSetting_eq_self_iff hkeys).mpr hleaves.settings
    refine DnsState.ext ?_ ?_ ?_ (pool_executeAll hpool)
    · rw [db_executeAll, hdb]
    · rw [filter_executeAll env hleaves.settings, hleaves.filter]
    · rw [acl_executeAll, hleaves.acl]

end Writes

/-! ## The parts -/

section Parts

variable {env : SettingsEnv} {body : UpdateDnsSettingsRequest}

def fieldKeys : List Str :=
  [str "dns_cache_ttl", str "query_log_retention_days", str "stats_retention_days",
    str "safe_search_enabled", str "parental_control_enabled", str "parental_control_level"]

def aclKeys : List Str := [str "acl_allowed_networks", str "acl_denied_networks"]

omit [Unicode] [RegexCrate] [IpNetCrate] [SerdeJson] in
theorem written_append (first second : List Statement) :
    written (first ++ second) = written first ++ written second := List.filterMap_append

variable {α : Type} {message : Str} {part : FieldPart}

omit [SerdeJson] in
theorem keys_fieldPart {field : Option α} {refused : α → Bool} {key : Str}
    {statements : α → List Statement} (state : DnsState)
    (hkeys : ∀ value, (written (statements value)).map Setting.key = [key]) :
    ((written ((fieldPart field refused message statements).statements state)).map
      Setting.key).Sublist [key] := by
  cases field with
  | none => exact List.nil_sublist _
  | some value => exact (hkeys value).symm ▸ List.Sublist.refl _

variable {state : DnsState}

omit [SerdeJson] in
theorem keys_flatMap {parts : List FieldPart} {keys : List Str}
    (hparts : List.Forall₂ (fun (part : FieldPart) key =>
      ((written (part.statements state)).map Setting.key).Sublist [key]) parts keys) :
    ((written (parts.flatMap (·.statements state))).map Setting.key).Sublist keys := by
  induction hparts with
  | nil => exact List.Sublist.refl _
  | cons hpart _ ih =>
    rw [List.flatMap_cons, written_append, List.map_append]
    exact hpart.append ih

omit [SerdeJson] in
theorem keys_fieldParts (env : SettingsEnv) (body : UpdateDnsSettingsRequest) (state : DnsState) :
    List.Forall₂ (fun (part : FieldPart) key =>
      ((written (part.statements state)).map Setting.key).Sublist [key])
      (fieldParts env body) fieldKeys :=
  .cons (keys_fieldPart state fun _ => rfl) <| .cons (keys_fieldPart state fun _ => rfl) <|
    .cons (keys_fieldPart state fun _ => rfl) <| .cons (keys_fieldPart state fun _ => rfl) <|
    .cons (keys_fieldPart state fun _ => rfl) <| .cons (keys_fieldPart state fun _ => rfl) .nil

theorem keys_aclPart (body : UpdateDnsSettingsRequest) (state : DnsState) :
    ((written ((aclPart body).statements state)).map Setting.key).Sublist aclKeys := by
  simp only [aclPart]
  split_ifs
  · exact List.Sublist.refl _
  · exact List.nil_sublist _

theorem nodup_keys_handled (state : DnsState) :
    ((written (handled (fieldParts env body ++ [aclPart body]) state)).map
      Setting.key).Nodup := by
  have hall : ((written ((fieldParts env body ++ [aclPart body]).flatMap
      (·.statements state))).map Setting.key).Sublist (fieldKeys ++ aclKeys) := by
    rw [List.flatMap_append, written_append, List.map_append]
    refine (keys_flatMap (keys_fieldParts env body state)).append ?_
    simpa using keys_aclPart body state
  have hsome : (handled (fieldParts env body ++ [aclPart body]) state).Sublist
      ((fieldParts env body ++ [aclPart body]).flatMap (·.statements state)) :=
    ( List.takeWhile_prefix _).sublist.flatMap _
  have hkeys : (fieldKeys ++ aclKeys).Nodup := by decide +kernel
  exact hkeys.sublist (((hsome.filterMap _).map _).trans hall)

omit [SerdeJson] in
theorem not_mem_fieldPart {field : Option α} {refused : α → Bool} {statements : α → List Statement}
    {statement : Statement} (hnot : ∀ value, statement ∉ statements value) :
    statement ∉ (fieldPart field refused message statements).statements state := by
  cases field with
  | none => exact List.not_mem_nil
  | some value => exact hnot value

theorem reloadUpstreams_not_mem_handled (state : DnsState) :
    .reloadUpstreams ∉ handled (fieldParts env body ++ [aclPart body]) state := by
  intro hmem
  obtain ⟨part, hpart, hmem⟩ := List.mem_flatMap.mp hmem
  have hpart := ( List.takeWhile_prefix _).subset hpart
  simp only [fieldParts, List.cons_append, List.nil_append, List.mem_cons, List.not_mem_nil,
    or_false] at hpart
  rcases hpart with rfl | rfl | rfl | rfl | rfl | rfl | rfl
  · exact not_mem_fieldPart (by simp) hmem
  · exact not_mem_fieldPart (by simp) hmem
  · exact not_mem_fieldPart (by simp) hmem
  · exact not_mem_fieldPart (by simp) hmem
  · exact not_mem_fieldPart (by simp) hmem
  · exact not_mem_fieldPart (by simp) hmem
  · simp only [aclPart] at hmem
    split_ifs at hmem <;> simp at hmem

theorem unaffected_aclPart (hpart : part ∈ fieldParts env body) :
    Unaffected (execute env) part (aclPart body) := by
  intro state
  have hnot : ∀ key ∈ aclKeys, key ∉ (written (part.statements state)).map Setting.key := by
    intro key hacl hkey
    have hall : (written (part.statements state)).map Setting.key ⊆ fieldKeys := by
      refine List.Subset.trans (List.map_subset _ (List.filterMap_subset _ ?_))
        (keys_flatMap (keys_fieldParts env body state)).subset
      exact fun statement hstatement => List.mem_flatMap.mpr ⟨part, hpart, hstatement⟩
    have hdisjoint : ∀ key ∈ aclKeys, key ∉ fieldKeys := by decide +kernel
    exact hdisjoint key hacl (hall hkey)
  have hlists : body.newLists (executeAll (execute env) (part.statements state) state).db =
      body.newLists state.db := by
    have hsetting : ∀ key ∈ aclKeys,
        (executeAll (execute env) (part.statements state) state).db.setting key =
          state.db.setting key := by
      intro key hkey
      rw [setting_eq, setting_eq, db_executeAll]
      exact congrArg _ (find?_foldl_writeSetting (hnot key hkey))
    unfold UpdateDnsSettingsRequest.newLists storedList
    rw [hsetting _ List.mem_cons_self, hsetting _ (List.mem_cons_of_mem _ List.mem_cons_self)]
  simp only [aclPart, hlists, and_self]

theorem pairwise_parts (env : SettingsEnv) (body : UpdateDnsSettingsRequest) :
    (parts env body).Pairwise (Unaffected (execute env)) := by
  -- only the access lists read the state
  have hconstant : ∀ earlier : FieldPart, ∀ later ∈ fieldParts env body ++ [strategyPart body],
      Unaffected (execute env) earlier later := by
    intro earlier later hlater state
    simp only [fieldParts, List.cons_append, List.nil_append, List.mem_cons, List.not_mem_nil,
      or_false] at hlater
    rcases hlater with rfl | rfl | rfl | rfl | rfl | rfl | rfl <;> exact ⟨rfl, rfl⟩
  have hfields : (fieldParts env body).Pairwise (Unaffected (execute env)) :=
    List.pairwise_of_forall_mem_list fun earlier _ later hlater =>
      hconstant earlier later (List.mem_append_left _ hlater)
  refine List.pairwise_append.mpr ⟨List.pairwise_append.mpr ⟨hfields, List.pairwise_singleton _ _,
    fun part hpart later hlater => ?_⟩, List.pairwise_singleton _ _,
    fun part _ later hlater => hconstant part later (List.mem_append_right _ hlater)⟩
  obtain rfl := List.mem_singleton.mp hlater
  exact unaffected_aclPart hpart

theorem exists_validation (hpart : part ∈ parts env body) {error : AppError}
    (hcheck : part.check state = some error) : ∃ message, error = .validation message := by
  simp only [parts, fieldParts, List.cons_append, List.nil_append, List.mem_cons,
    List.not_mem_nil, or_false] at hpart
  rcases hpart with rfl | rfl | rfl | rfl | rfl | rfl | rfl | rfl
  all_goals
    simp only [cacheTtlPart, retentionPart, switchPart, parentalLevelPart, aclPart, strategyPart,
      fieldPart] at hcheck
    split_ifs at hcheck
    exact ⟨_, (Option.some.inj hcheck).symm⟩

def Rejected (env : SettingsEnv) (body : UpdateDnsSettingsRequest) (state : DnsState) : Prop :=
  ∃ part ∈ parts env body, part.check state ≠ none

theorem firstError_ne_none_iff :
    firstError (parts env body) state ≠ none ↔ Rejected env body state := by
  unfold firstError Rejected
  rw [ne_eq, List.findSome?_eq_none_iff]
  simp only [not_forall, exists_prop, ne_eq]

/-- The handler ends with a validation error if and only if the request is refused. -/
theorem updateDns_validation_iff :
    (∃ message, ((updateDns env body).eval state).1 = .error (.validation message)) ↔
      Rejected env body state := by
  rw [updateDns, eval_run _ (pairwise_parts env body), ← firstError_ne_none_iff]
  cases herror : firstError (parts env body) state with
  | none => simp
  | some error =>
    obtain ⟨part, hpart, hcheck⟩ := List.exists_of_findSome?_eq_some herror
    obtain ⟨message, rfl⟩ := exists_validation hpart hcheck
    simp

end Parts

/-- If the request ends with a validation error, the settings, the access list, the filter
engine and the upstream pool are as they were. -/
def AllOrNothing (env : SettingsEnv) (body : UpdateDnsSettingsRequest) (state : DnsState) :
    Prop :=
  (∃ message, ((updateDns env body).eval state).1 = .error (.validation message)) →
    let after := (updateDns env body).exec state
    after.db.settings = state.db.settings ∧ after.acl = state.acl ∧
      after.filter = state.filter ∧ after.pool = state.pool

/-- **When a refused request changes nothing.**  If and only if the fields before the first
one that is refused change nothing: the settings have the values that are written, and the
filter engine and the access list come out as they were. -/
theorem updateDns_allOrNothing_iff (env : SettingsEnv) (body : UpdateDnsSettingsRequest)
    (state : DnsState) :
    AllOrNothing env body state ↔
      (Rejected env body state →
        LeavesAsIs (handled (fieldParts env body ++ [aclPart body]) state) state) := by
  unfold AllOrNothing
  rw [updateDns_validation_iff]
  refine forall_congr' fun hrejected => ?_
  have hexec : (updateDns env body).exec state =
      executeAll (execute env) (handled (fieldParts env body ++ [aclPart body]) state) state := by
    rw [Program.exec, updateDns, eval_run _ (pairwise_parts env body), parts,
      handled_concat (firstError_ne_none_iff.mpr hrejected)]
  rw [hexec, ← executeAll_eq_self_iff (nodup_keys_handled state)
    (reloadUpstreams_not_mem_handled state)]
  constructor
  · rintro ⟨hsettings, hacl, hfilter, hpool⟩
    refine DnsState.ext ?_ hfilter hacl hpool
    rw [db_executeAll] at hsettings ⊢
    rw [show (written _).foldl writeSetting state.db.settings = _ from hsettings]
  · intro hself
    rw [hself]
    exact ⟨rfl, rfl, rfl, rfl⟩

end Handler

/-! ### A request that is refused halfway -/

section Example

attribute [local instance] Unicode.ascii RegexCrate.fragment IpNetCrate.cidr SerdeJson.plain

/-- A server without settings and upstreams. -/
def freshState : DnsState where
  db := .empty
  filter := ⟨.new, .empty⟩
  acl := ⟨[], []⟩
  pool := .new [] (str "priority") false

def failingEnv : SettingsEnv where
  safeSearchReload := ⟨str "2026-02-01", fun _ => true⟩
  parentalControlReload := ⟨str "2026-02-01", fun _ => true⟩
  parentalLevelReload := ⟨str "2026-02-01", fun _ => true⟩
  upstreamsFail := true
  preferIpv4 := false

/-- The time to live is written before the number of days is refused, and a list of denied
networks is in force before the strategy is. -/
theorem not_allOrNothing_refused :
    ¬ AllOrNothing failingEnv { cacheTtl := some 600, queryLogRetentionDays := some 0 }
        freshState ∧
      ¬ AllOrNothing failingEnv
        { aclDeniedNetworks := some [str "10.0.0.0/8"], upstreamStrategy := some (str "random") }
        freshState := by
  refine ⟨fun hnothing => ?_, fun hnothing => ?_⟩
  · obtain ⟨hsettings, -⟩ :=
      hnothing ⟨str "query_log_retention_days must be between 1 and 365", rfl⟩
    exact absurd (congrArg Table.rows hsettings) (by decide +kernel)
  · obtain ⟨-, hacl, -⟩ := hnothing
      ⟨str "upstream_strategy must be one of: priority, fastest, load_balance", rfl⟩
    exact absurd (congrArg (·.denied.length) hacl) (by decide +kernel)

end Example

end RustDns.Api.Settings
