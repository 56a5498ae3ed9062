import RustDns.Dns.Decision

/-!
# Group isolation

A rule or rewrite that is bound to groups is meant for the members of these
groups.  This file compares the decisions in two databases, one of which lacks a
rule or rewrite together with its bindings, for a client that is in none of the
groups.

The configuration of the client is the same in both
(`resolveClientConfig_without`): the group queries never reach the removed rows.
What can differ is the global engine, because `reload` loads all rules and
rewrites, bound or not.  `Invisible` says when that makes no difference to a
question.
-/

namespace RustDns

open Text RuleSet Reload

inductive BoundKind where
  | customRule
  | rewrite
deriving DecidableEq

/-- The value of `rule_type`. -/
def BoundKind.ruleType : BoundKind → Str
  | customRule => str "custom_rule"
  | rewrite => str "rewrite"

namespace Database

/-- The database without a rule or rewrite and its bindings. -/
def without (db : Database) (kind : BoundKind) (id : Str) : Database :=
  { db with
    customRules := match kind with
      | .customRule => db.customRules.deleteWhere (·.id == id)
      | .rewrite => db.customRules
    dnsRewrites := match kind with
      | .customRule => db.dnsRewrites
      | .rewrite => db.dnsRewrites.deleteWhere (·.id == id)
    clientGroupRules := db.clientGroupRules.deleteWhere fun binding =>
      binding.ruleId == id && binding.ruleType == kind.ruleType }

def NoMember (db : Database) (kind : BoundKind) (id clientId : Str) : Prop :=
  ∀ membership ∈ db.clientGroupMemberships, membership.clientId = clientId →
    ∀ binding ∈ db.clientGroupRules, binding.ruleId = id → binding.ruleType = kind.ruleType →
      binding.groupId ≠ membership.groupId

variable {db : Database} {kind : BoundKind} {id clientId : Str}

theorem NoMember.ruleId_ne (hno : db.NoMember kind id clientId) {group : ClientGroup}
    {binding : GroupRule} (hbinding : (group, binding) ∈ db.groupBindings clientId kind.ruleType) :
    binding.ruleId ≠ id := by
  unfold groupBindings at hbinding
  simp only [List.mem_flatMap, List.mem_filter, List.mem_map, beq_iff_eq, Bool.and_eq_true,
    Prod.mk.injEq] at hbinding
  obtain ⟨membership, ⟨hmembership, hclient⟩, _, -, found, ⟨hfound, hgroup, htype⟩, -, rfl⟩ :=
    hbinding
  exact fun hid => hno membership hmembership hclient found hfound hid htype hgroup

theorem groupBindings_without (hno : db.NoMember kind id clientId) (ruleType : Str) :
    (db.without kind id).groupBindings clientId ruleType = db.groupBindings clientId ruleType := by
  unfold groupBindings
  refine List.flatMap_congr fun membership hmembership => ?_
  obtain ⟨hmem, hclient⟩ := List.mem_filter.mp hmembership
  refine List.flatMap_congr fun group _ => ?_
  congr 1
  refine Table.filter_deleteWhere fun binding hbinding hselect => ?_
  simp only [Bool.and_eq_true, beq_iff_eq] at hselect
  rw [← Bool.not_eq_true, Bool.and_eq_true, beq_iff_eq, beq_iff_eq]
  rintro ⟨hid, htype⟩
  exact hno membership hmem (by simpa using hclient) binding hbinding hid htype hselect.1

/-- The rows that the group queries return do not change, if the rows that are
joined to the bindings do not. -/
theorem boundRows_without {Row : Type} (hno : db.NoMember kind id clientId) (ruleType : Str)
    (rowId : Row → Str) {rows rows' : List Row}
    (hrows : ∀ group binding, (group, binding) ∈ db.groupBindings clientId ruleType →
      rows'.filter (rowId · == binding.ruleId) = rows.filter (rowId · == binding.ruleId)) :
    (db.without kind id).boundRows clientId ruleType rowId rows' =
      db.boundRows clientId ruleType rowId rows := by
  have hmap : ((db.without kind id).boundRows clientId ruleType rowId rows').map (fun row => row) =
      (db.boundRows clientId ruleType rowId rows).map (fun row => row) := by
    refine map_boundRows_congr (groupBindings_without hno ruleType) fun pair hpair => ?_
    rw [hrows pair.1 pair.2 hpair]
  simpa using hmap

theorem filter_delete_ne {Row : Type} {key : Row → Str} {table : Table key} {other : Str}
    (hne : other ≠ id) :
    (table.deleteWhere (key · == id)).rows.filter (key · == other) =
      table.rows.filter (key · == other) := by
  refine Table.filter_deleteWhere fun row _ hrow => ?_
  rw [beq_iff_eq] at hrow
  simpa [hrow] using hne

theorem boundRules_without (hno : db.NoMember kind id clientId) :
    (db.without kind id).boundRules clientId = db.boundRules clientId := by
  refine boundRows_without hno _ _ fun group binding hbinding => ?_
  cases kind with
  | customRule => exact filter_delete_ne (hno.ruleId_ne hbinding)
  | rewrite => rfl

theorem boundRewrites_without (hno : db.NoMember kind id clientId) :
    (db.without kind id).boundRewrites clientId = db.boundRewrites clientId := by
  refine boundRows_without hno _ _ fun group binding hbinding => ?_
  cases kind with
  | customRule => rfl
  | rewrite => exact filter_delete_ne (hno.ruleId_ne hbinding)

end Database

/-! ## The configuration does not change -/

section Configuration

variable [Unicode] [RegexCrate] [SerdeJson] [IpNetCrate]

def NoMemberAt (db : Database) (kind : BoundKind) (id clientIp : Str) : Prop :=
  ∀ client, db.clients.rows.find? (·.isMatch clientIp) = some client →
    db.NoMember kind id client.id

theorem resolveClientConfig_without {db : Database} {kind : BoundKind} {id clientIp : Str}
    (hno : NoMemberAt db kind id clientIp) (fails : ClientQuery → Bool) :
    resolveClientConfig fails (db.without kind id) clientIp =
      resolveClientConfig fails db clientIp := by
  unfold resolveClientConfig
  have hclients : fetchClients fails (db.without kind id) = fetchClients fails db := rfl
  rw [hclients]
  cases hfetch : fetchClients fails db with
  | none => rfl
  | some rows =>
    cases hfind : rows.find? fun row => row.1.isMatch clientIp with
    | none => simp only [hfind]
    | some found =>
      have hclient := find?_fetchClients hfetch (·.isMatch clientIp)
      rw [hfind] at hclient
      have hmember := hno found.1 hclient.symm
      simp only [hfind, loadGroupRulesForClient, loadGroupRewritesForClient,
        Database.boundRules_without hmember, Database.boundRewrites_without hmember]

end Configuration

/-! ## What the global engine lets through -/

section Engine

variable [SerdeJson]

/-- The line of a custom rule, if `reload` loads it. -/
def ruleLines (now : Str) (db : Database) (id : Str) : List Str :=
  ((liveRows now db).filter (·.id == id)).map CustomRule.rule

theorem liveLines_without_sublist (now : Str) (db : Database) (id : Str) :
    (liveLines now (db.without .customRule id)).Sublist (liveLines now db) :=
  ((List.filter_sublist.filter _).map _).append (List.Sublist.refl _)

theorem mem_liveLines_without (now : Str) (db : Database) (id line : Str) :
    line ∈ liveLines now db ↔
      line ∈ liveLines now (db.without .customRule id) ∨ line ∈ ruleLines now db id := by
  -- both sides have the same parental-control lines
  simp only [liveLines, ruleLines, liveRows, Database.without, Table.deleteWhere, List.mem_append,
    List.mem_map, List.mem_filter, Bool.not_eq_true', beq_eq_false_iff_ne, beq_iff_eq]
  constructor
  · rintro (⟨row, ⟨hrow, hlive⟩, rfl⟩ | hline)
    · by_cases hid : row.id = id
      · exact Or.inr ⟨row, ⟨⟨hrow, hlive⟩, hid⟩, rfl⟩
      · exact Or.inl (Or.inl ⟨row, ⟨⟨hrow, hid⟩, hlive⟩, rfl⟩)
    · exact Or.inl (Or.inr hline)
  · rintro ((⟨row, ⟨⟨hrow, -⟩, hlive⟩, rfl⟩ | hline) | ⟨row, ⟨⟨hrow, hlive⟩, -⟩, rfl⟩)
    · exact Or.inl ⟨row, ⟨hrow, hlive⟩, rfl⟩
    · exact Or.inr hline
    · exact Or.inl ⟨row, ⟨hrow, hlive⟩, rfl⟩

end Engine

/-! ## Isolation -/

section Isolation

variable [Unicode] [RegexCrate] [SerdeJson]

variable [IpNetCrate] in
def decisionAfterReload (now : Str) (db : Database) (clientIp domain : Str)
    (qtype : RecordType) : Option Decision :=
  (FilterEngine.reload noFailure now db).map fun engine =>
    decision (resolveClientConfig (fun _ => false) db clientIp) engine domain qtype

/-- A rule or rewrite makes no difference to a question of a client outside its
groups. -/
def Invisible (now : Str) (db : Database) (kind : BoundKind) (id : Str) (config : ClientConfig)
    (name : Str) (qtype : RecordType) : Prop :=
  match kind with
  -- the question is answered by a rewrite, or the global rules are not asked, or
  -- the rule does not overturn what the others decide
  | .customRule =>
    (((config.groupAnswer name).or (FilterEngine.globalAnswer db (toLowercase name))).bind
        (rewriteRData · qtype)).isSome = true ∨
      config.filterEnabled = false ∨ groupMatch config.groupRuleset name ≠ .none ∨
      ¬ Overturned (liveLines now db) (liveLines now (db.without .customRule id))
        (ruleLines now db id) (normalizeQuery name)
  -- the groups of the client have an answer, or the answer that is left gives the
  -- same address
  | .rewrite =>
    (config.groupAnswer name).isSome = true ∨
      (FilterEngine.globalAnswer (db.without .rewrite id) (toLowercase name)).bind
          (rewriteRData · qtype) =
        (FilterEngine.globalAnswer db (toLowercase name)).bind (rewriteRData · qtype)

theorem rewriteAddress_reload {now : Str} {db : Database} {engine : FilterEngine}
    (hreload : FilterEngine.reload noFailure now db = some engine) (config : ClientConfig)
    (name : Str) (qtype : RecordType) :
    rewriteAddress config engine name qtype =
      ((config.groupAnswer name).or (FilterEngine.globalAnswer db (toLowercase name))).bind
        (rewriteRData · qtype) := by
  rw [FilterEngine.reload_noFailure] at hreload
  cases hreload
  unfold rewriteAddress rewriteAnswer FilterEngine.checkRewrite
  cases config.groupAnswer name with
  | some answer => rfl
  | none => simp [FilterEngine.get_reloadRewrites]

variable [IpNetCrate]

theorem decisionAfterReload_eq (now : Str) (db : Database) (clientIp domain : Str)
    (qtype : RecordType) :
    decisionAfterReload now db clientIp domain qtype =
      some (decision (resolveClientConfig (fun _ => false) db clientIp)
        ⟨built (liveLines now db), FilterEngine.reloadRewrites noFailure db⟩ domain qtype) := by
  simp [decisionAfterReload, FilterEngine.reload_noFailure]

/-- **When a group keeps its rules to itself.**  A client outside the groups of a
rule or rewrite gets the decision it would get without it, exactly when the rule
or rewrite is invisible to its question in the global engine. -/
theorem decisionAfterReload_without_iff (now : Str) (db : Database) (kind : BoundKind)
    (id clientIp : Str) (hno : NoMemberAt db kind id clientIp) (domain : Str)
    (qtype : RecordType) :
    decisionAfterReload now (db.without kind id) clientIp domain qtype =
        decisionAfterReload now db clientIp domain qtype ↔
      Invisible now db kind id (resolveClientConfig (fun _ => false) db clientIp)
        (trimEndMatches '.' domain) qtype := by
  rw [decisionAfterReload_eq, decisionAfterReload_eq, resolveClientConfig_without hno,
    Option.some_inj, decision_eq_iff, filterBlocks_eq_iff,
    rewriteAddress_reload (FilterEngine.reload_noFailure now db),
    rewriteAddress_reload (FilterEngine.reload_noFailure now (db.without kind id))]
  generalize resolveClientConfig (fun _ => false) db clientIp = config
  generalize trimEndMatches '.' domain = name
  cases kind with
  | customRule =>
    have hsame : FilterEngine.globalAnswer (db.without .customRule id) =
        FilterEngine.globalAnswer db := rfl
    have hblocked := eq_comm.trans (isBlocked_eq_iff (liveLines_without_sublist now db id)
      (mem_liveLines_without now db id) name)
    rw [hsame, Invisible, ← hblocked]
    simp only [FilterEngine.isBlocked, true_and, imp_iff_not_or, ← Option.ne_none_iff_isSome,
      ne_eq]
  | rewrite =>
    have hlines : liveLines now (db.without .rewrite id) = liveLines now db := rfl
    rw [hlines, Invisible]
    cases config.groupAnswer name <;> simp [FilterEngine.isBlocked]

end Isolation

/-! ### A rule and a rewrite bound to a group -/

section BoundGroup

attribute [local instance] Unicode.ascii RegexCrate.fragment SerdeJson.plain IpNetCrate.cidr

def boundGroupDb : Database :=
  { oneGroupDb with
    clientGroupRules := ⟨[⟨1, str "r1", str "custom_rule", 0, str "2026-01-01"⟩,
      ⟨1, str "w1", str "rewrite", 0, str "2026-01-01"⟩], by decide⟩
    customRules := ⟨[⟨str "r1", str "||ads.com^", none, true, str "admin", str "2026-01-01",
      none⟩], by decide⟩
    dnsRewrites := ⟨[⟨str "w1", str "nas.home", str "10.0.0.1", str "admin",
      str "2026-01-01"⟩], by decide⟩ }

theorem noMemberAt_boundGroupDb (kind : BoundKind) (id : Str) :
    NoMemberAt boundGroupDb kind id (str "192.168.1.20") := by
  intro client hclient
  have hnone : boundGroupDb.clients.rows.find? (·.isMatch (str "192.168.1.20")) = none := by
    decide +kernel
  rw [hnone] at hclient
  cases hclient

/-- The rule of the group blocks a question of that address. -/
theorem decisionAfterReload_boundGroupDb :
    NoMemberAt boundGroupDb .customRule (str "r1") (str "192.168.1.20") ∧
      decisionAfterReload (str "2026-02-01") (boundGroupDb.without .customRule (str "r1"))
          (str "192.168.1.20") (str "ads.com.") .a ≠
        decisionAfterReload (str "2026-02-01") boundGroupDb (str "192.168.1.20")
          (str "ads.com.") .a :=
  ⟨noMemberAt_boundGroupDb .customRule (str "r1"), by decide +kernel⟩

/-- The rewrite of the group is invisible to questions for other names. -/
theorem decisionAfterReload_without_boundGroupDb :
    decisionAfterReload (str "2026-02-01") (boundGroupDb.without .rewrite (str "w1"))
        (str "192.168.1.20") (str "example.com.") .a =
      decisionAfterReload (str "2026-02-01") boundGroupDb (str "192.168.1.20")
        (str "example.com.") .a :=
  (decisionAfterReload_without_iff _ boundGroupDb .rewrite (str "w1") _
    (noMemberAt_boundGroupDb .rewrite (str "w1")) _ _).mpr (Or.inr (by decide +kernel))

end BoundGroup

end RustDns
