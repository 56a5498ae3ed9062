import RustDns.RowOrder
import RustDns.Dns.Decision

/-!
# The priority of groups

Both group loaders fetch the rows of all groups of a client in the order of the priorities, as if
the group with the smallest one came first.  But the rewrites go into a map, where a later row
replaces an earlier one, and the rules go into one rule set, where an exception of any group comes
before every block rule.  So for the rewrites the group with the largest priority wins, and for the
rules none does.  Moreover the rule set is never built, so that the wildcards of the groups, which
decide in a group's own rule set, count for nothing.

`boundRows_eq` brings the rows of a group query into blocks, one for each group.  What the loaders
make of the blocks is compared with the first group that has something to say
(`followsPriority_iff`).
-/

namespace RustDns

open Text RuleSet Reload

namespace Database

/-- The groups of a client, by ascending priority. -/
def groupsOf (db : Database) (clientId : Str) : List ClientGroup :=
  ((db.clientGroupMemberships.rows.filter (·.clientId == clientId)).flatMap fun membership =>
    db.clientGroups.rows.filter (·.id == membership.groupId)).insertionSort
      fun group other => group.priority ≤ other.priority

def groupRows {Row : Type} (db : Database) (ruleType : Str) (id : Row → Str) (rows : List Row)
    (group : ClientGroup) : List Row :=
  (db.clientGroupRules.rows.filter fun binding =>
    binding.groupId == group.id && binding.ruleType == ruleType).flatMap fun binding =>
      rows.filter (id · == binding.ruleId)

theorem boundRows_eq {Row : Type} (db : Database) (clientId ruleType : Str) (id : Row → Str)
    (rows : List Row) :
    db.boundRows clientId ruleType id rows =
      (db.groupsOf clientId).flatMap (db.groupRows ruleType id rows) := by
  have hjoined : ((db.groupBindings clientId ruleType).flatMap fun pair =>
      (rows.filter (id · == pair.2.ruleId)).map (pair.1.priority, ·)) =
      ((db.clientGroupMemberships.rows.filter (·.clientId == clientId)).flatMap fun membership =>
        db.clientGroups.rows.filter (·.id == membership.groupId)).flatMap fun group =>
          (db.groupRows ruleType id rows group).map (group.priority, ·) := by
    unfold groupBindings groupRows
    rw [List.flatMap_assoc, List.flatMap_assoc]
    refine List.flatMap_congr fun membership _ => ?_
    rw [List.flatMap_assoc]
    refine List.flatMap_congr fun group hgroup => ?_
    -- the group of the membership is the group that is joined
    have hid : group.id = membership.groupId := by simpa using (List.mem_filter.mp hgroup).2
    rw [hid, List.flatMap_map, List.map_flatMap]
  have hsort := List.insertionSort_flatMap Prod.fst ClientGroup.priority
    (fun group => (db.groupRows ruleType id rows group).map (group.priority, ·)) (by simp)
    ((db.clientGroupMemberships.rows.filter (·.clientId == clientId)).flatMap
      fun membership => db.clientGroups.rows.filter (·.id == membership.groupId))
  unfold boundRows groupsOf
  dsimp only
  rw [hjoined, hsort, List.map_flatMap]
  simp

section Groups

variable [Unicode]

/-- The answer of the rewrites of a group. -/
def groupRewrite (db : Database) (name : Str) (group : ClientGroup) : Option Str :=
  Rewrites.lastAnswer
    ((db.groupRows (str "rewrite") DnsRewrite.id db.dnsRewrites.rows group).map
      fun row => (row.domain, row.answer))
    (toLowercase name)

/-- The enabled rules of a group. -/
def groupLines (db : Database) (group : ClientGroup) : List Str :=
  enabledLines (db.groupRows (str "custom_rule") CustomRule.id db.customRules.rows group)

variable [RegexCrate]

/-- The verdict of the enabled rules of a group, in a rule set of their own. -/
def groupVerdict (db : Database) (domain : Str) (group : ClientGroup) : MatchResult :=
  (built (db.groupLines group)).matchDomain domain

/-- The verdict of the first group that has one. -/
def firstVerdict (db : Database) (clientId domain : Str) : Option MatchResult :=
  ((db.groupsOf clientId).map (db.groupVerdict domain)).find? (· ≠ .none)

end Groups

end Database

section Rewriting

variable [Unicode]

theorem groupAnswer_load (db : Database) (clientId name : Str) :
    (loadGroupRewritesForClient (fun _ => false) db clientId).bind (·.get name) =
      if toLowercase name = name then
        (db.groupsOf clientId).reverse.findSome? (db.groupRewrite name)
      else none := by
  split_ifs with hlower
  · have hlast : Rewrites.lastAnswer ((db.boundRewrites clientId).map fun row =>
        (row.domain, row.answer)) name =
        (db.groupsOf clientId).reverse.findSome? (db.groupRewrite name) := by
      unfold Database.boundRewrites
      rw [Database.boundRows_eq, List.map_flatMap, Rewrites.lastAnswer_flatMap]
      unfold Database.groupRewrite
      rw [hlower]
    rw [← hlast]
    unfold loadGroupRewritesForClient
    cases db.boundRewrites clientId with
    | nil => rfl
    | cons row rest => simp [Rewrites.get_insertAll, Rewrites.get_empty]
  · cases loadGroupRewritesForClient (fun _ => false) db clientId with
    | none => rfl
    | some rewrites => exact Rewrites.get_eq_none_of_ne hlower

/-- The rewrite of the first group is used if and only if there is none, or the name is in lower
case and the last group with a rewrite has the same answer. -/
theorem groupAnswer_load_eq_iff (db : Database) (clientId name : Str) :
    (loadGroupRewritesForClient (fun _ => false) db clientId).bind (·.get name) =
        (db.groupsOf clientId).findSome? (db.groupRewrite name) ↔
      (∀ group ∈ db.groupsOf clientId, db.groupRewrite name group = none) ∨
        toLowercase name = name ∧ (db.groupsOf clientId).reverse.findSome? (db.groupRewrite name) =
            (db.groupsOf clientId).findSome? (db.groupRewrite name) := by
  rw [groupAnswer_load]
  by_cases hnone : ∀ group ∈ db.groupsOf clientId, db.groupRewrite name group = none
  · have hfirst : (db.groupsOf clientId).findSome? (db.groupRewrite name) = none :=
      List.findSome?_eq_none_iff.mpr hnone
    have hlast : (db.groupsOf clientId).reverse.findSome? (db.groupRewrite name) = none :=
      List.findSome?_eq_none_iff.mpr fun group hgroup => hnone group (List.mem_reverse.mp hgroup)
    rw [hfirst, hlast, ite_self]
    exact iff_of_true rfl (Or.inl hnone)
  · have hfirst : (db.groupsOf clientId).findSome? (db.groupRewrite name) ≠ none :=
      fun h => hnone (List.findSome?_eq_none_iff.mp h)
    split_ifs with hlower
    · simp [hnone, hlower]
    · simp [hnone, hlower, Ne.symm hfirst]

end Rewriting

theorem mem_enabledLines_boundRules (db : Database) (clientId line : Str) :
    line ∈ enabledLines (db.boundRules clientId) ↔
      ∃ group ∈ db.groupsOf clientId, line ∈ db.groupLines group := by
  unfold Database.boundRules Database.groupLines enabledLines
  rw [Database.boundRows_eq]
  simp only [List.mem_map, List.mem_filter, List.mem_flatMap]
  constructor
  · rintro ⟨row, ⟨⟨group, hgroup, hrow⟩, henabled⟩, rfl⟩
    exact ⟨group, hgroup, row, ⟨hrow, henabled⟩, rfl⟩
  · rintro ⟨group, hgroup, row, ⟨hrow, henabled⟩, rfl⟩
    exact ⟨row, ⟨⟨group, hgroup, hrow⟩, henabled⟩, rfl⟩

section Verdicts

variable [Unicode]

variable (db : Database) (clientId domain : Str)

theorem covered_boundRules (action : Action) (name : Str) :
    Covered (domains action (enabledLines (db.boundRules clientId))) name ↔
      ∃ group ∈ db.groupsOf clientId, Covered (domains action (db.groupLines group)) name := by
  simp only [Covered, mem_domains, mem_enabledLines_boundRules]
  constructor
  · rintro ⟨domain, ⟨line, ⟨group, hgroup, hline⟩, hparse⟩, hwithin⟩
    exact ⟨group, hgroup, domain, ⟨line, hline, hparse⟩, hwithin⟩
  · rintro ⟨group, hgroup, domain, ⟨line, hline, hparse⟩, hwithin⟩
    exact ⟨domain, ⟨line, ⟨group, hgroup, hline⟩, hparse⟩, hwithin⟩

theorem blocksUnbuilt_boundRules (name : Str) :
    BlocksUnbuilt (enabledLines (db.boundRules clientId)) name ↔
      ∃ group ∈ db.groupsOf clientId, BlocksUnbuilt (db.groupLines group) name := by
  simp only [BlocksUnbuilt, covered_boundRules, hasBlockAll_iff, mem_enabledLines_boundRules,
    and_or_left, exists_or]
  refine or_congr_left ⟨?_, ?_⟩
  · rintro ⟨line, ⟨group, hgroup, hline⟩, hparse⟩
    exact ⟨group, hgroup, line, hline, hparse⟩
  · rintro ⟨group, hgroup, line, hline, hparse⟩
    exact ⟨line, ⟨group, hgroup, hline⟩, hparse⟩

variable [RegexCrate]

/-- The groups together allow what one of them allows without a wildcard, and block likewise. -/
theorem verdict_groups :
    Verdict (groupMatch (loadGroupRulesForClient (fun _ => false) db clientId) domain)
      (∃ group ∈ db.groupsOf clientId,
        AllowsUnbuilt (db.groupLines group) (normalizeQuery domain))
      (∃ group ∈ db.groupsOf clientId,
        BlocksUnbuilt (db.groupLines group) (normalizeQuery domain)) := by
  have hload := verdict_ofLines (enabledLines (db.boundRules clientId)) domain
  rwa [← groupMatch_load, AllowsUnbuilt, covered_boundRules, blocksUnbuilt_boundRules] at hload

variable {db clientId domain}

/-- If no group has a verdict, none has a rule for the name. -/
theorem not_unbuilt_of_firstVerdict (hfirst : db.firstVerdict clientId domain = none)
    {group : ClientGroup} (hgroup : group ∈ db.groupsOf clientId) :
    ¬ AllowsUnbuilt (db.groupLines group) (normalizeQuery domain) ∧
      ¬ BlocksUnbuilt (db.groupLines group) (normalizeQuery domain) := by
  have hnone : db.groupVerdict domain group = .none := by
    have hall : ∀ group ∈ db.groupsOf clientId, db.groupVerdict domain group = .none := by
      simpa [Database.firstVerdict] using hfirst
    exact hall group hgroup
  obtain ⟨hallow, hblock⟩ := (verdict_built (db.groupLines group) domain).none.mp hnone
  exact ⟨fun h => hallow (Or.inl h), fun h => hblock (h.imp_right Or.inl)⟩

variable (db clientId domain)

/-- The verdict of the first group counts if and only if rules without wildcards, of whichever
groups, come to the same. -/
theorem groupMatch_load_eq_iff :
    groupMatch (loadGroupRulesForClient (fun _ => false) db clientId) domain =
        (db.firstVerdict clientId domain).getD .none ↔
      (db.firstVerdict clientId domain = some .allowed → ∃ group ∈ db.groupsOf clientId,
        AllowsUnbuilt (db.groupLines group) (normalizeQuery domain)) ∧
      (db.firstVerdict clientId domain = some .blocked →
        (∀ group ∈ db.groupsOf clientId,
          ¬ AllowsUnbuilt (db.groupLines group) (normalizeQuery domain)) ∧
        ∃ group ∈ db.groupsOf clientId,
          BlocksUnbuilt (db.groupLines group) (normalizeQuery domain)) := by
  have hverdict := verdict_groups db clientId domain
  cases hfirst : db.firstVerdict clientId domain with
  | none =>
    rw [Option.getD_none, hverdict.none]
    refine iff_of_true ⟨?_, ?_⟩ ⟨nofun, nofun⟩
    · rintro ⟨group, hgroup, hallow⟩
      exact (not_unbuilt_of_firstVerdict hfirst hgroup).1 hallow
    · rintro ⟨group, hgroup, hblock⟩
      exact (not_unbuilt_of_firstVerdict hfirst hgroup).2 hblock
  | some first =>
    rw [Option.getD_some]
    cases first with
    | none => exact absurd (List.find?_some hfirst) (by simp)
    | allowed => simp [hverdict.allowed]
    | blocked => simp [hverdict.blocked]

/-- The policy of a client follows its groups in ascending priority: the first group with a rewrite
for the name answers, and the first group with a verdict on it decides. -/
def FollowsPriority (db : Database) (clientId domain : Str) : Prop :=
  (loadGroupRewritesForClient (fun _ => false) db clientId).bind (·.get domain) =
      (db.groupsOf clientId).findSome? (db.groupRewrite domain) ∧
    groupMatch (loadGroupRulesForClient (fun _ => false) db clientId) domain =
      (db.firstVerdict clientId domain).getD .none

/-- **When the priorities count.**  The groups of a client are followed in ascending priority if and
only if none has a rewrite for the name, or the name is in lower case and the first and the last
that have one agree; and rules that are no wildcards come to the verdict of the first group that has
one: if it allows the name some group has such an exception, and if it blocks the name some group
has such a block rule and none has such an exception. -/
theorem followsPriority_iff (db : Database) (clientId domain : Str) :
    FollowsPriority db clientId domain ↔
      ((∀ group ∈ db.groupsOf clientId, db.groupRewrite domain group = none) ∨
        toLowercase domain = domain ∧
          (db.groupsOf clientId).reverse.findSome? (db.groupRewrite domain) =
            (db.groupsOf clientId).findSome? (db.groupRewrite domain)) ∧
      (db.firstVerdict clientId domain = some .allowed → ∃ group ∈ db.groupsOf clientId,
        AllowsUnbuilt (db.groupLines group) (normalizeQuery domain)) ∧
      (db.firstVerdict clientId domain = some .blocked →
        (∀ group ∈ db.groupsOf clientId,
          ¬ AllowsUnbuilt (db.groupLines group) (normalizeQuery domain)) ∧
        ∃ group ∈ db.groupsOf clientId,
          BlocksUnbuilt (db.groupLines group) (normalizeQuery domain)) :=
  and_congr (groupAnswer_load_eq_iff db clientId domain)
    (groupMatch_load_eq_iff db clientId domain)

end Verdicts

/-! ### Two groups that disagree -/

section Disagreeing

attribute [local instance] Unicode.ascii RegexCrate.fragment

/-- A client in two groups: the first blocks a domain, the second has an exception for it. -/
def twoGroupsDb : Database :=
  { oneGroupDb with
    clientGroups := ⟨[⟨1, str "Kids", str "#fff", none, 1, str "2026-01-01", str "2026-01-01"⟩,
      ⟨2, str "Media", str "#fff", none, 2, str "2026-01-01", str "2026-01-01"⟩], by decide⟩
    clientGroupMemberships := ⟨[⟨str "c1", 1, str "2026-01-01"⟩, ⟨str "c1", 2, str "2026-01-01"⟩],
      by decide⟩
    clientGroupRules := ⟨[⟨1, str "r1", str "custom_rule", 0, str "2026-01-01"⟩,
      ⟨2, str "r2", str "custom_rule", 0, str "2026-01-01"⟩], by decide⟩
    customRules := ⟨[⟨str "r1", str "||video.com^", none, true, str "u1", str "2026-01-01", none⟩,
      ⟨str "r2", str "@@||video.com^", none, true, str "u1", str "2026-01-01", none⟩],
      by decide⟩ }

/-- The exception wins, although its group comes second. -/
theorem not_followsPriority_twoGroupsDb :
    ((twoGroupsDb.groupsOf (str "c1")).map ClientGroup.priority).Nodup ∧
      ¬ FollowsPriority twoGroupsDb (str "c1") (str "video.com") := by
  refine ⟨by decide +kernel, ?_⟩
  rintro ⟨-, hverdict⟩
  revert hverdict
  decide +kernel

end Disagreeing

end RustDns
