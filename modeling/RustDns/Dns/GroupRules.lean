import RustDns.Dns.ClientConfig

/-!
# Two loaders for custom rules

`load_group_rules_for_client` and `FilterEngine::reload` both read custom rules
and add them to a rule set, but they differ in two ways.  The group loader keeps
rules that have expired, and it does not call `build`, so its wildcard patterns
match nothing.

`GroupRulesAgree` says when neither difference shows: every expired rule is
redundant next to the rules that are still in force, and so is every wildcard
that `build` would have compiled.
-/

namespace RustDns

open RuleSet Reload

/-! ## Verdicts of unbuilt rule sets -/

section Unbuilt

variable [Unicode]

/-- `lines` allow `name` without their wildcards. -/
def AllowsUnbuilt (lines : List Str) (name : Str) : Prop := Covered (domains .allow lines) name

/-- `lines` have a block rule for `name` that is not a wildcard. -/
def BlocksUnbuilt (lines : List Str) (name : Str) : Prop :=
  hasBlockAll lines = true ∨ Covered (domains .block lines) name

variable [RegexCrate] in
theorem verdict_ofLines (lines : List Str) (domain : Str) :
    Verdict ((ofLines lines).matchDomain domain) (AllowsUnbuilt lines (normalizeQuery domain))
      (BlocksUnbuilt lines (normalizeQuery domain)) := by
  rw [ofLines_eq]
  apply verdict_matchDomain
  · simp [AllowsUnbuilt, Covered, matchesSet_iff, matchesWildcardSet]
  · simp [BlocksUnbuilt, Covered, matchesSet_iff, matchesWildcardSet]

end Unbuilt

/-! ## The rows of a group -/

def enabledLines (rows : List CustomRule) : List Str :=
  (rows.filter (·.isEnabled)).map CustomRule.rule

/-- The rows in force at an instant: what `reload` adds. -/
def unexpiredLines (now : Str) (rows : List CustomRule) : List Str :=
  (rows.filter (isLive now)).map CustomRule.rule

def expiredLines (now : Str) (rows : List CustomRule) : List Str :=
  (rows.filter fun row => row.isEnabled && !isLive now row).map CustomRule.rule

theorem mem_enabledLines_iff (now : Str) (rows : List CustomRule) (line : Str) :
    line ∈ enabledLines rows ↔ line ∈ unexpiredLines now rows ∨ line ∈ expiredLines now rows := by
  simp only [enabledLines, unexpiredLines, expiredLines, List.mem_map, List.mem_filter,
    ← exists_or, ← or_and_right, ← and_or_left]
  refine exists_congr fun row => and_congr_left fun _ => and_congr_right fun _ => ?_
  cases henabled : row.isEnabled <;> cases hlive : isLive now row <;> simp_all [isLive]

section Agreement

variable [Unicode]

variable (now : Str) (rows : List CustomRule) (name : Str)

theorem allowsUnbuilt_enabled :
    AllowsUnbuilt (enabledLines rows) name ↔ AllowsUnbuilt (unexpiredLines now rows) name ∨
        AllowsUnbuilt (expiredLines now rows) name := by
  simp only [AllowsUnbuilt, Covered, mem_domains, mem_enabledLines_iff now, or_and_right, exists_or]

theorem blocksUnbuilt_enabled :
    BlocksUnbuilt (enabledLines rows) name ↔ BlocksUnbuilt (unexpiredLines now rows) name ∨
        BlocksUnbuilt (expiredLines now rows) name := by
  simp only [BlocksUnbuilt, Covered, mem_domains, hasBlockAll_iff, mem_enabledLines_iff now,
    or_and_right, exists_or]
  exact or_or_or_comm

variable [RegexCrate]

/-- Neither expiry nor wildcards make a difference to the rules `live` and
`expired`. -/
structure GroupRulesAgree (live expired : List Str) : Prop where
  /-- An expired exception is still granted. -/
  allow_expired : ∀ domain ∈ domains .allow expired, Allows live domain
  /-- A wildcard exception only frees names that a plain exception frees. -/
  allow_wildcard : ∀ domain,
    PatternHit (livePatterns (patterns .allow live)) (normalizeQuery domain) →
      AllowsUnbuilt live (normalizeQuery domain) ∨ AllowsUnbuilt expired (normalizeQuery domain)
  /-- A domain with an expired block rule is still decided. -/
  block_expired : ∀ domain ∈ domains .block expired, Allows live domain ∨ Blocks live domain
  /-- With an expired block-all rule, every name is still decided. -/
  blockAll_expired : hasBlockAll expired = true →
    ∀ domain, Allows live (normalizeQuery domain) ∨ Blocks live (normalizeQuery domain)
  /-- A wildcard block rule only catches names that are allowed, or blocked
  without it. -/
  block_wildcard : ∀ domain,
    PatternHit (livePatterns (patterns .block live)) (normalizeQuery domain) →
      Allows live (normalizeQuery domain) ∨ BlocksUnbuilt live (normalizeQuery domain) ∨
        BlocksUnbuilt expired (normalizeQuery domain)

theorem groupRulesAgree_iff {live expired : List Str} :
    GroupRulesAgree live expired ↔ ∀ domain,
      (AllowsUnbuilt live (normalizeQuery domain) ∨ AllowsUnbuilt expired (normalizeQuery domain) ↔
          Allows live (normalizeQuery domain)) ∧
        (¬ Allows live (normalizeQuery domain) → (BlocksUnbuilt live (normalizeQuery domain) ∨
              BlocksUnbuilt expired (normalizeQuery domain) ↔
            Blocks live (normalizeQuery domain))) := by
  constructor
  · intro hagree domain
    constructor
    · constructor
      · rintro (hlive | ⟨top, htop, hwithin⟩)
        · exact Or.inl hlive
        · exact (hagree.allow_expired top htop).of_within hwithin
      · rintro (hlive | hhit)
        · exact Or.inl hlive
        · exact hagree.allow_wildcard domain hhit
    · intro hopen
      constructor
      · rintro ((hall | hlive) | hall | ⟨top, htop, hwithin⟩)
        · exact Or.inl hall
        · exact Or.inr (Or.inl hlive)
        · exact (hagree.blockAll_expired hall domain).resolve_left hopen
        · refine (hagree.block_expired top htop).elim (fun hallows => ?_) (Blocks.of_within hwithin)
          exact absurd (Covers.of_within hwithin hallows) hopen
      · rintro (hall | hlive | hhit)
        · exact Or.inl (Or.inl hall)
        · exact Or.inl (Or.inr hlive)
        · exact (hagree.block_wildcard domain hhit).resolve_left hopen
  · intro hsame
    refine ⟨fun top htop => ?_, fun domain hhit => ?_, fun top htop => ?_, fun hall domain => ?_,
      fun domain hhit => ?_⟩
    -- a filed domain is looked up as itself, so it can stand for its rule
    · have hself := (hsame top).1
      rw [normalizeQuery_of_mem_domains htop] at hself
      exact hself.mp (Or.inr ⟨top, htop, Within.refl top⟩)
    · exact (hsame domain).1.mpr (Or.inr hhit)
    · have hself := (hsame top).2
      rw [normalizeQuery_of_mem_domains htop] at hself
      rw [or_iff_not_imp_left]
      exact fun hopen => (hself hopen).mp (Or.inr (Or.inr ⟨top, htop, Within.refl top⟩))
    · rw [or_iff_not_imp_left]
      exact fun hopen => ((hsame domain).2 hopen).mp (Or.inr (Or.inl hall))
    · rw [or_iff_not_imp_left]
      exact fun hopen => ((hsame domain).2 hopen).mpr (Or.inr (Or.inr hhit))

/-- The verdict of the group rules of a client; a client without group rules has
none. -/
def groupMatch (ruleset : Option RuleSet) (domain : Str) : MatchResult :=
  match ruleset with
  | some rs => rs.matchDomain domain
  | none => .none

theorem groupMatch_load (db : Database) (clientId domain : Str) :
    groupMatch (loadGroupRulesForClient (fun _ => false) db clientId) domain =
      (ofLines (enabledLines (db.boundRules clientId))).matchDomain domain := by
  unfold loadGroupRulesForClient enabledLines
  cases (db.boundRules clientId).filter (·.isEnabled) with
  | nil =>
    have hempty : (ofLines []).matchDomain domain = .none := by
      rw [(verdict_ofLines [] domain).none]
      simp [AllowsUnbuilt, BlocksUnbuilt, Covered, domains, hasBlockAll]
    simp [groupMatch, hempty]
  | cons row rest => simp [groupMatch]

/-- **When the two loaders agree.**  The rules bound to the groups of a client
give every domain the verdict that `reload` would give it from the same rows,
exactly when expired rules and wildcards make no difference among them. -/
theorem groupMatch_eq_reload_iff (db : Database) (clientId now : Str) :
    (∀ domain, groupMatch (loadGroupRulesForClient (fun _ => false) db clientId) domain =
        (built (unexpiredLines now (db.boundRules clientId))).matchDomain domain) ↔
      GroupRulesAgree (unexpiredLines now (db.boundRules clientId))
        (expiredLines now (db.boundRules clientId)) := by
  rw [groupRulesAgree_iff]
  refine forall_congr' fun domain => ?_
  rw [groupMatch_load, (verdict_ofLines _ domain).eq_iff (verdict_built _ domain),
    allowsUnbuilt_enabled now, blocksUnbuilt_enabled now]

end Agreement

/-! ### A wildcard rule bound to a group -/

section Wildcard

attribute [local instance] Unicode.ascii RegexCrate.fragment

def wildcardGroupDb : Database :=
  { oneGroupDb with
    clientGroupRules := ⟨[⟨1, str "r1", str "custom_rule", 0, str "2026-01-01"⟩], by decide⟩
    customRules := ⟨[⟨str "r1", str "||*.ads.com^", none, true, str "admin",
      str "2026-01-01", none⟩], by decide⟩ }

/-- The group loader lets through what `reload` blocks from the same row. -/
theorem groupMatch_wildcardGroupDb :
    ¬ ∀ domain, groupMatch (loadGroupRulesForClient (fun _ => false) wildcardGroupDb (str "c1"))
        domain =
      (built (unexpiredLines (str "2026-02-01")
        (wildcardGroupDb.boundRules (str "c1")))).matchDomain domain := by
  intro hsame
  exact absurd (hsame (str "x.ads.com")) (by decide +kernel)

end Wildcard

end RustDns
