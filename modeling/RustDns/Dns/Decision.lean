import RustDns.Dns.Message
import RustDns.Dns.GroupRules

/-!
# The decision on a query

The middle of `DnsHandler::handle_internal`: which of three things happens to a
question before the cache is asked.  A rewrite answers it, a rule blocks it, or
it is passed on.  The group of the client comes before the global engine in both
steps: its rewrites are looked up first, and its rules decide if they can.
-/

namespace RustDns

open Text RuleSet Reload

inductive Decision where
  | rewritten (address : IpAddr)
  | blocked
  | passed
deriving DecidableEq

/-- The record data of `rewrite_response`: an address of the family that was
asked for. -/
def rewriteRData (answer : Str) (qtype : RecordType) : Option IpAddr :=
  match IpAddr.parse answer, qtype with
  | some (.v4 a b c d), .a => some (.v4 a b c d)
  | some (.v6 segments), .aaaa => some (.v6 segments)
  | _, _ => none

section Steps

variable [Unicode] [RegexCrate]

def ClientConfig.groupAnswer (config : ClientConfig) (name : Str) : Option Str :=
  config.groupRewrites.bind (·.get name)

def rewriteAnswer (config : ClientConfig) (engine : FilterEngine) (name : Str) : Option Str :=
  match config.groupAnswer name with
  | some answer => some answer
  | none => engine.checkRewrite name

def filterBlocks (config : ClientConfig) (engine : FilterEngine) (name : Str) : Bool :=
  if config.filterEnabled then
    match config.groupRuleset with
    | some ruleset =>
      match ruleset.matchDomain name with
      | .blocked => true
      | .allowed => false
      -- the group has no rule for the name
      | .none => engine.isBlocked name
    | none => engine.isBlocked name
  else false

def rewriteAddress (config : ClientConfig) (engine : FilterEngine) (name : Str)
    (qtype : RecordType) : Option IpAddr :=
  (rewriteAnswer config engine name).bind (rewriteRData · qtype)

/-- The decision of `handle_internal` on a question. -/
def decision (config : ClientConfig) (engine : FilterEngine) (domain : Str)
    (qtype : RecordType) : Decision :=
  let name := trimEndMatches '.' domain
  match rewriteAddress config engine name qtype with
  | some address => .rewritten address
  | none => if filterBlocks config engine name then .blocked else .passed

/-- Two decisions agree when the same address is answered or, where none is, the
filter says the same. -/
theorem decision_eq_iff {config config' : ClientConfig} {engine engine' : FilterEngine}
    {domain domain' : Str} {qtype : RecordType} :
    decision config engine domain qtype = decision config' engine' domain' qtype ↔
      rewriteAddress config engine (trimEndMatches '.' domain) qtype =
          rewriteAddress config' engine' (trimEndMatches '.' domain') qtype ∧
        (rewriteAddress config' engine' (trimEndMatches '.' domain') qtype = none →
          filterBlocks config engine (trimEndMatches '.' domain) =
            filterBlocks config' engine' (trimEndMatches '.' domain')) := by
  unfold decision
  dsimp only
  cases rewriteAddress config engine (trimEndMatches '.' domain) qtype with
  | some address =>
    cases rewriteAddress config' engine' (trimEndMatches '.' domain') qtype with
    | some address' => simp
    | none => split_ifs <;> simp
  | none =>
    cases rewriteAddress config' engine' (trimEndMatches '.' domain') qtype with
    | some address' => split_ifs <;> simp
    | none =>
      cases filterBlocks config engine (trimEndMatches '.' domain) <;>
        cases filterBlocks config' engine' (trimEndMatches '.' domain') <;> simp

/-- The engine is only asked where the client is filtered and its groups have no
rule for the name. -/
theorem filterBlocks_eq_iff (config : ClientConfig) (engine engine' : FilterEngine) (name : Str) :
    filterBlocks config engine name = filterBlocks config engine' name ↔
      config.filterEnabled = false ∨ groupMatch config.groupRuleset name ≠ .none ∨
        engine.isBlocked name = engine'.isBlocked name := by
  unfold filterBlocks groupMatch
  cases config.filterEnabled with
  | false => simp
  | true =>
    cases config.groupRuleset with
    | none => simp
    | some ruleset => cases hmatch : ruleset.matchDomain name <;> simp [hmatch]

end Steps

/-! ## Letter case -/

section LetterCase

variable [Unicode]

theorem normalizeQuery_congr {domain domain' : Str} (hcase : EqIgnoreAsciiCase domain domain') :
    normalizeQuery domain = normalizeQuery domain' :=
  Unicode.toLowercase_congr _ _ hcase.trimEndMatches

variable [RegexCrate]

theorem matchDomain_congr (rs : RuleSet) {domain domain' : Str}
    (hcase : EqIgnoreAsciiCase domain domain') :
    rs.matchDomain domain = rs.matchDomain domain' := by
  unfold matchDomain
  rw [normalizeQuery_congr hcase]

variable (config : ClientConfig) (engine : FilterEngine) (name : Str)

theorem filterBlocks_congr {name name' : Str} (hcase : EqIgnoreAsciiCase name name') :
    filterBlocks config engine name = filterBlocks config engine name' := by
  simp only [filterBlocks, FilterEngine.isBlocked, RuleSet.isBlocked, matchDomain_congr _ hcase]

theorem groupAnswer_eq :
    config.groupAnswer name =
      if name = toLowercase name then config.groupAnswer (toLowercase name) else none := by
  split_ifs with hlower
  · rw [← hlower]
  · unfold ClientConfig.groupAnswer
    cases config.groupRewrites with
    | none => rfl
    | some rewrites => exact Rewrites.get_eq_none_of_ne (Ne.symm hlower)

/-- What a spelling of a name is rewritten to: under the lower-case spelling the
group is asked first, under any other only the engine. -/
theorem rewriteAddress_eq (qtype : RecordType) :
    rewriteAddress config engine name qtype =
      if name = toLowercase name ∧ (config.groupAnswer (toLowercase name)).isSome then
        (config.groupAnswer (toLowercase name)).bind (rewriteRData · qtype)
      else (engine.rewrites.get (toLowercase name)).bind (rewriteRData · qtype) := by
  unfold rewriteAddress rewriteAnswer
  rw [groupAnswer_eq]
  by_cases hlower : name = toLowercase name
  · rw [if_pos hlower]
    cases config.groupAnswer (toLowercase name) <;> simp [← hlower, FilterEngine.checkRewrite]
  · simp [hlower, FilterEngine.checkRewrite]

/-- **When letter case does not matter.**  The decisions on two spellings of a
name agree exactly when the groups of the client have no rewrite for the name,
or both or neither spelling is the lower-case one, or the group and the engine
answer the question with the same address. -/
theorem decision_eq_of_case_iff (config : ClientConfig) (engine : FilterEngine)
    (domain domain' : Str) (hcase : EqIgnoreAsciiCase domain domain') (qtype : RecordType) :
    decision config engine domain qtype = decision config engine domain' qtype ↔
      config.groupAnswer (normalizeQuery domain) = none ∨
        (trimEndMatches '.' domain = normalizeQuery domain ↔
          trimEndMatches '.' domain' = normalizeQuery domain) ∨
        (config.groupAnswer (normalizeQuery domain)).bind (rewriteRData · qtype) =
          (engine.rewrites.get (normalizeQuery domain)).bind (rewriteRData · qtype) := by
  rw [decision_eq_iff, and_iff_left fun _ => filterBlocks_congr config engine hcase.trimEndMatches,
    rewriteAddress_eq, rewriteAddress_eq]
  have hname' : toLowercase (trimEndMatches '.' domain') = normalizeQuery domain :=
    (normalizeQuery_congr hcase).symm
  have hname : toLowercase (trimEndMatches '.' domain) = normalizeQuery domain := rfl
  rw [hname, hname']
  cases config.groupAnswer (normalizeQuery domain) with
  | none => simp
  | some answer =>
    by_cases hlower : trimEndMatches '.' domain = normalizeQuery domain <;>
      by_cases hlower' : trimEndMatches '.' domain' = normalizeQuery domain <;>
      simp [hlower, hlower', eq_comm]

end LetterCase

/-! ### A group rewrite under Safe Search -/

section SafeSearch

attribute [local instance] Unicode.ascii RegexCrate.fragment SerdeJson.plain IpNetCrate.cidr

/-- A client in a group with a rewrite for a name that Safe Search rewrites as
well. -/
def safeSearchGroupDb : Database :=
  { oneGroupDb with
    clientGroupRules := ⟨[⟨1, str "w1", str "rewrite", 0, str "2026-01-01"⟩], by decide⟩
    dnsRewrites := ⟨[⟨str "w1", str "www.google.com", str "10.0.0.1", str "admin",
      str "2026-01-01"⟩], by decide⟩
    settings := ⟨[⟨str "safe_search_enabled", str "true"⟩], by decide⟩ }

/-- The lower-case name is answered with the address of the group; in capitals
it is passed on. -/
theorem decision_safeSearchGroupDb :
    EqIgnoreAsciiCase (str "www.google.com.") (str "WWW.GOOGLE.COM.") ∧
      ∃ engine, FilterEngine.reload noFailure (str "2026-02-01") safeSearchGroupDb = some engine ∧
        decision (resolveClientConfig (fun _ => false) safeSearchGroupDb (str "192.168.1.10"))
            engine (str "www.google.com.") .a ≠
          decision (resolveClientConfig (fun _ => false) safeSearchGroupDb (str "192.168.1.10"))
            engine (str "WWW.GOOGLE.COM.") .a := by
  refine ⟨by decide, _, FilterEngine.reload_noFailure _ _, ?_⟩
  decide +kernel

/-- A client without group rewrites gets one decision for both spellings. -/
theorem decision_eq_of_case_default :
    decision .default ⟨built [str "||ads.com^"], .empty⟩ (str "Ads.com.") .a =
      decision .default ⟨built [str "||ads.com^"], .empty⟩ (str "aDS.COM.") .a :=
  (decision_eq_of_case_iff .default _ (str "Ads.com.") (str "aDS.COM.") (by decide) .a).mpr
    (Or.inl rfl)

end SafeSearch

end RustDns
