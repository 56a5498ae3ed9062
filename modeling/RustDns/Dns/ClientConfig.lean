import RustDns.Net.IpNet
import RustDns.Dns.Filter

/-!
# The policy of a client

`DnsHandler::resolve_client_config` and the two group loaders of
`dns/handler.rs`.  The policy of an address is found in three steps: all rows of
`clients` are decoded, the first row with a matching identifier is taken, and
the rules and rewrites bound to its groups are loaded.

Decoding is all or nothing.  A single row whose `filter_enabled` is not an
`INTEGER` makes the query an error, and an error is answered with the default
policy.  Under the migrated schema every row is such a row, so a client only
gets its own policy when that is the default policy anyway
(`resolveClientConfig_faithful_iff`).
-/

namespace RustDns

open Text

/-! ## Configurations -/

structure ClientConfig [Unicode] [RegexCrate] where
  filterEnabled : Bool
  upstreamUrls : Option (List Str)
  groupRuleset : Option RuleSet
  groupRewrites : Option Rewrites

def ClientConfig.default [Unicode] [RegexCrate] : ClientConfig := ⟨true, none, none, none⟩

/-- The queries of `resolve_client_config` and the loaders. -/
inductive ClientQuery where
  | clients
  | groupRules
  | groupRewrites
deriving DecidableEq

namespace Client

/-! ## Matching identifiers -/

section Matching

variable [SerdeJson] [IpNetCrate]

/-- Whether one identifier names the address: exactly, or as a network that
contains it.  A value that is not a string counts as the empty string. -/
def identifierMatches (clientIp : Str) (identifier : Option Str) : Bool :=
  let idStr := identifier.getD []
  if idStr == clientIp then true
  else match IpNetCrate.parse idStr with
    | some network =>
      match IpAddr.parse clientIp with
      | some ip => IpNetCrate.contains network ip
      | none => false
    | none => false

/-- Whether a row of `clients` has an identifier for the address. -/
def isMatch (clientIp : Str) (client : Client) : Bool :=
  match SerdeJson.valueVec client.identifiers with
  | some identifiers => identifiers.any (identifierMatches clientIp)
  | none => false

/-- The upstream list of a row, unless it is missing, malformed or empty. -/
def upstreamUrls (client : Client) : Option (List Str) :=
  (client.upstreams.bind SerdeJson.stringVec).filter (! ·.isEmpty)

end Matching

end Client

/-! ## Group loaders -/

namespace Database

/-- The join of the group queries: the bindings of the given type of the groups
of a client, with their groups. -/
def groupBindings (db : Database) (clientId ruleType : Str) : List (ClientGroup × GroupRule) :=
  (db.clientGroupMemberships.rows.filter (·.clientId == clientId)).flatMap fun membership =>
    (db.clientGroups.rows.filter (·.id == membership.groupId)).flatMap fun group =>
      (db.clientGroupRules.rows.filter fun binding =>
        binding.groupId == membership.groupId && binding.ruleType == ruleType).map (group, ·)

/-- The rows that the bindings point to, `ORDER BY cg.priority ASC`. -/
def boundRows {Row : Type} (db : Database) (clientId ruleType : Str) (id : Row → Str)
    (rows : List Row) : List Row :=
  let joined := (db.groupBindings clientId ruleType).flatMap fun (group, binding) =>
    (rows.filter (id · == binding.ruleId)).map (group.priority, ·)
  (joined.insertionSort fun row other => row.1 ≤ other.1).map Prod.snd

def boundRules (db : Database) (clientId : Str) : List CustomRule :=
  db.boundRows clientId (str "custom_rule") CustomRule.id db.customRules.rows

def boundRewrites (db : Database) (clientId : Str) : List DnsRewrite :=
  db.boundRows clientId (str "rewrite") DnsRewrite.id db.dnsRewrites.rows

theorem map_boundRows {Row α : Type} (db : Database) (clientId ruleType : Str) (id : Row → Str)
    (rows : List Row) (shown : Row → α) :
    (db.boundRows clientId ruleType id rows).map shown =
      (((db.groupBindings clientId ruleType).flatMap fun pair =>
        ((rows.filter (id · == pair.2.ruleId)).map shown).map (pair.1.priority, ·)).insertionSort
          fun row other => row.1 ≤ other.1).map Prod.snd := by
  unfold boundRows
  dsimp only
  -- the order of the query looks at the priorities only
  have hsort := List.map_insertionSort (fun row other : ℤ × Row => row.1 ≤ other.1)
    (fun row other : ℤ × α => row.1 ≤ other.1) (fun row => (row.1, shown row.2))
    ((db.groupBindings clientId ruleType).flatMap fun pair =>
      (rows.filter (id · == pair.2.ruleId)).map (pair.1.priority, ·))
    (fun _ _ _ _ => Iff.rfl)
  rw [List.map_flatMap] at hsort
  simp only [List.map_map, Function.comp_def] at hsort ⊢
  rw [← hsort, List.map_map]
  rfl

/-- Group queries over the same bindings agree, if they agree on the rows that are
joined to the bindings. -/
theorem map_boundRows_congr {Row α : Type} {db db' : Database} {clientId ruleType : Str}
    {id : Row → Str} {rows rows' : List Row} {shown : Row → α}
    (hbindings : db'.groupBindings clientId ruleType = db.groupBindings clientId ruleType)
    (hrows : ∀ pair ∈ db.groupBindings clientId ruleType,
      (rows'.filter (id · == pair.2.ruleId)).map shown =
        (rows.filter (id · == pair.2.ruleId)).map shown) :
    (db'.boundRows clientId ruleType id rows').map shown =
      (db.boundRows clientId ruleType id rows).map shown := by
  rw [map_boundRows, map_boundRows, hbindings]
  congr 2
  exact List.flatMap_congr fun pair hpair => by rw [hrows pair hpair]

end Database

section Loaders

variable [Unicode]

def loadGroupRewritesForClient (fails : ClientQuery → Bool) (db : Database) (clientId : Str) :
    Option Rewrites :=
  if fails .groupRewrites then none
  else
    let rows := db.boundRewrites clientId
    if rows.isEmpty then none
    else some (Rewrites.empty.insertAll (rows.map fun row => (row.domain, row.answer)))

variable [RegexCrate]

/-- `load_group_rules_for_client`.  The rows are filtered by `is_enabled` only,
and the rule set is not built. -/
def loadGroupRulesForClient (fails : ClientQuery → Bool) (db : Database) (clientId : Str) :
    Option RuleSet :=
  if fails .groupRules then none
  else
    let rows := (db.boundRules clientId).filter (·.isEnabled)
    if rows.isEmpty then none
    else some (RuleSet.ofLines (rows.map CustomRule.rule))

end Loaders

/-! ## The lookup -/

/-- `SELECT id, identifiers, filter_enabled, upstreams FROM clients`, decoded.
One row that does not decode is an error of the whole query. -/
def fetchClients (fails : ClientQuery → Bool) (db : Database) : Option (List (Client × ℤ)) :=
  if fails .clients then none
  else db.clients.rows.mapM fun client => client.filterEnabled.decodeI32.map (client, ·)

theorem find?_fetchClients {fails : ClientQuery → Bool} {db : Database} {rows : List (Client × ℤ)}
    (hfetch : fetchClients fails db = some rows) (condition : Client → Bool) :
    (rows.find? (condition ·.1)).map Prod.fst = db.clients.rows.find? condition := by
  unfold fetchClients at hfetch
  split_ifs at hfetch
  revert rows
  induction db.clients.rows with
  | nil =>
    intro rows hfetch
    obtain rfl : rows = [] := by simpa using hfetch.symm
    rfl
  | cons client rest ih =>
    intro rows hfetch
    rw [List.mapM_cons] at hfetch
    obtain ⟨first, hfirst, hrest⟩ := Option.bind_eq_some_iff.mp hfetch
    obtain ⟨others, hothers, hrows⟩ := Option.bind_eq_some_iff.mp hrest
    obtain ⟨value, -, rfl⟩ := Option.map_eq_some_iff.mp hfirst
    obtain rfl : (client, value) :: others = rows := by simpa using hrows
    cases hcondition : condition client with
    | true => simp [hcondition]
    | false => simpa [hcondition] using ih hothers

section Lookup

variable [Unicode] [RegexCrate] [SerdeJson]

variable [IpNetCrate] in
def resolveClientConfig (fails : ClientQuery → Bool) (db : Database) (clientIp : Str) :
    ClientConfig :=
  match fetchClients fails db with
  | none => .default
  | some rows =>
    match rows.find? fun row => row.1.isMatch clientIp with
    | none => .default
    | some (client, filterEnabled) =>
      { filterEnabled := filterEnabled == 1
        upstreamUrls := client.upstreamUrls
        groupRuleset := loadGroupRulesForClient fails db client.id
        groupRewrites := loadGroupRewritesForClient fails db client.id }

/-! ## Which policy a client should get -/

def policyOf (db : Database) (client : Client) : ClientConfig where
  filterEnabled := client.filterEnabled.truth
  upstreamUrls := client.upstreamUrls
  groupRuleset := loadGroupRulesForClient (fun _ => false) db client.id
  groupRewrites := loadGroupRewritesForClient (fun _ => false) db client.id

def HasDefaultPolicy (db : Database) (client : Client) : Prop :=
  client.filterEnabled.truth = true ∧ client.upstreamUrls = none ∧
    (db.boundRules client.id).filter (·.isEnabled) = [] ∧ db.boundRewrites client.id = []

theorem policyOf_eq_default_iff (db : Database) (client : Client) :
    policyOf db client = .default ↔ HasDefaultPolicy db client := by
  simp [policyOf, ClientConfig.default, HasDefaultPolicy, loadGroupRulesForClient,
    loadGroupRewritesForClient]

variable [IpNetCrate]

/-- What is expected of the configuration returned for an address: the policy of
the row that matches, if exactly one does, and the default only for want of a
row with another policy. -/
structure Faithful (fails : ClientQuery → Bool) (db : Database) (clientIp : Str)
    (config : ClientConfig) : Prop where
  matched : (∀ query, fails query = false) → ∀ client ∈ db.clients,
    (∀ other ∈ db.clients, other.isMatch clientIp = true ↔ other = client) →
      config = policyOf db client
  defaulted : config = .default →
    (∃ query, fails query = true) ∨ (∀ client ∈ db.clients, client.isMatch clientIp = false) ∨
      ∃ client ∈ db.clients, client.isMatch clientIp = true ∧ policyOf db client = .default

theorem resolveClientConfig_eq_default {db : Database} (hschema : db.WellTyped)
    (fails : ClientQuery → Bool) (clientIp : Str) :
    resolveClientConfig fails db clientIp = .default := by
  unfold resolveClientConfig fetchClients
  by_cases hfails : fails .clients = true
  · simp [hfails]
  · cases hrows : db.clients.rows with
    | nil => simp [hfails]
    | cons client rest =>
      have hnone := hschema.decodeI32_eq_none (Table.mem_rows.mp (hrows ▸ List.mem_cons_self))
      simp [hfails, hnone, List.mapM_cons]

/-- **Who gets the right policy under the migrated schema.**  Those for whom the
default is right: no row matches, or a matching row has the default policy, or a
query fails. -/
theorem resolveClientConfig_faithful_iff (db : Database) (hschema : db.WellTyped)
    (fails : ClientQuery → Bool) (clientIp : Str) :
    Faithful fails db clientIp (resolveClientConfig fails db clientIp) ↔
      (∃ query, fails query = true) ∨ (∀ client ∈ db.clients, client.isMatch clientIp = false) ∨
        ∃ client ∈ db.clients, client.isMatch clientIp = true ∧ HasDefaultPolicy db client := by
  rw [resolveClientConfig_eq_default hschema]
  simp only [← policyOf_eq_default_iff]
  constructor
  · exact fun h => h.defaulted rfl
  · intro hdefault
    refine ⟨fun hfails client hclient hunique => ?_, fun _ => hdefault⟩
    have hmatch := (hunique client hclient).mpr rfl
    rcases hdefault with ⟨query, hquery⟩ | hnone | ⟨other, hother, hothermatch, hpolicy⟩
    · simp [hfails query] at hquery
    · simp [hnone client hclient] at hmatch
    · obtain rfl := (hunique other hother).mp hothermatch
      exact hpolicy.symm

end Lookup

/-! ## What a policy depends on -/

def CustomRule.shown (row : CustomRule) : Bool × Str := (row.isEnabled, row.rule)

def DnsRewrite.shown (row : DnsRewrite) : Str × Str := (row.domain, row.answer)

structure Database.SamePolicies (db db' : Database) : Prop where
  clients : db'.clients = db.clients
  rules : ∀ clientId, (db'.boundRules clientId).map CustomRule.shown =
    (db.boundRules clientId).map CustomRule.shown
  rewrites : ∀ clientId, (db'.boundRewrites clientId).map DnsRewrite.shown =
    (db.boundRewrites clientId).map DnsRewrite.shown

section Dependence

variable [Unicode]

variable {db db' : Database}

theorem loadGroupRewritesForClient_congr (hsame : db.SamePolicies db')
    (fails : ClientQuery → Bool) (clientId : Str) :
    loadGroupRewritesForClient fails db' clientId =
      loadGroupRewritesForClient fails db clientId := by
  have hrows : (db'.boundRewrites clientId).map (fun row => (row.domain, row.answer)) =
      (db.boundRewrites clientId).map fun row => (row.domain, row.answer) :=
    hsame.rewrites clientId
  have hempty : (db'.boundRewrites clientId).isEmpty = (db.boundRewrites clientId).isEmpty := by
    simpa using congrArg List.isEmpty hrows
  unfold loadGroupRewritesForClient
  dsimp only
  rw [hrows, hempty]

variable [RegexCrate]

theorem loadGroupRulesForClient_congr (hsame : db.SamePolicies db') (fails : ClientQuery → Bool)
    (clientId : Str) :
    loadGroupRulesForClient fails db' clientId = loadGroupRulesForClient fails db clientId := by
  have hlines : ((db'.boundRules clientId).filter (·.isEnabled)).map CustomRule.rule =
      ((db.boundRules clientId).filter (·.isEnabled)).map CustomRule.rule := by
    have hshown := congrArg (fun rows => (rows.filter Prod.fst).map Prod.snd)
      (hsame.rules clientId)
    simp only [List.filter_map, List.map_map] at hshown
    exact hshown
  have hempty : ((db'.boundRules clientId).filter (·.isEnabled)).isEmpty =
      ((db.boundRules clientId).filter (·.isEnabled)).isEmpty := by
    rw [← List.isEmpty_map, hlines, List.isEmpty_map]
  unfold loadGroupRulesForClient
  dsimp only
  rw [hlines, hempty]

theorem resolveClientConfig_congr [SerdeJson] [IpNetCrate] (hsame : db.SamePolicies db')
    (fails : ClientQuery → Bool) (clientIp : Str) :
    resolveClientConfig fails db' clientIp = resolveClientConfig fails db clientIp := by
  have hfetch : fetchClients fails db' = fetchClients fails db := by
    unfold fetchClients
    rw [hsame.clients]
  unfold resolveClientConfig
  rw [hfetch]
  simp only [loadGroupRulesForClient_congr hsame, loadGroupRewritesForClient_congr hsame]

end Dependence

/-! ### A client with filtering switched off -/

section FilterOff

attribute [local instance] Unicode.ascii RegexCrate.fragment SerdeJson.plain IpNetCrate.cidr

def filterOffDb : Database :=
  { Database.empty with
    clients := ⟨[⟨str "c1", str "TV", str "[\"192.168.1.10\"]", none, .bool false, none,
      str "2026-01-01", str "2026-01-01"⟩], by decide⟩ }

theorem filterOffDb_wellTyped : filterOffDb.WellTyped := by
  intro client hclient
  obtain rfl := List.mem_singleton.mp hclient
  exact Schema.columnType_filter_enabled

/-- Its address gets a configuration with filtering on. -/
theorem resolveClientConfig_filterOffDb :
    filterOffDb.WellTyped ∧
      ¬ Faithful (fun _ => false) filterOffDb (str "192.168.1.10")
        (resolveClientConfig (fun _ => false) filterOffDb (str "192.168.1.10")) := by
  refine ⟨filterOffDb_wellTyped, fun hfaithful => ?_⟩
  have hconfig := hfaithful.matched (fun _ => rfl) _ (List.mem_singleton.mpr rfl) (by
    intro other hother
    obtain rfl := List.mem_singleton.mp hother
    decide +kernel)
  exact absurd (congrArg (fun config => config.filterEnabled) hconfig) (by decide +kernel)

/-- An address that no row matches gets what it should. -/
theorem resolveClientConfig_faithful_filterOffDb :
    Faithful (fun _ => false) filterOffDb (str "10.0.0.1")
      (resolveClientConfig (fun _ => false) filterOffDb (str "10.0.0.1")) := by
  refine (resolveClientConfig_faithful_iff filterOffDb filterOffDb_wellTyped _ _).mpr
    (Or.inr (Or.inl fun client hclient => ?_))
  obtain rfl := List.mem_singleton.mp hclient
  decide +kernel

end FilterOff

/-- A database with one client in one group, whose `filter_enabled` decodes. -/
def oneGroupDb : Database :=
  { Database.empty with
    clients := ⟨[⟨str "c1", str "TV", str "[\"192.168.1.10\"]", none, .int4 1, none,
      str "2026-01-01", str "2026-01-01"⟩], by decide⟩
    clientGroups := ⟨[⟨1, str "Media", str "#fff", none, 0, str "2026-01-01",
      str "2026-01-01"⟩], by decide⟩
    clientGroupMemberships := ⟨[⟨str "c1", 1, str "2026-01-01"⟩], by decide⟩ }

end RustDns
