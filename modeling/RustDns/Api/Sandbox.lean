import RustDns.Api.State
import RustDns.Dns.GroupRules

/-!
# The rule sandbox

`sandbox::test_rule` reads a text of rules into a rule set of its own and reports
how it decides a list of domains.  It is meant to show what the filter engine
would do, but it leaves out `build`, without which wildcard patterns match
nothing.

The report is right exactly for the domains on which the wildcards of the text
make no difference (`testRule_faithful_iff`).
-/

namespace RustDns.Api.Sandbox

open Text RuleSet

structure SandboxRequest where
  rule : Str
  testDomains : List Str

structure SandboxResult where
  domain : Str
  status : Str
deriving DecidableEq

structure SandboxResponse where
  ruleValid : Bool
  ruleType : Option Str
  parsedBlocks : ℕ
  parsedAllows : ℕ
  results : List SandboxResult
deriving DecidableEq

def statusText : MatchResult → Str
  | .blocked => str "blocked"
  | .allowed => str "allowed"
  | .none => str "unmatched"

theorem statusText_injective : Function.Injective statusText := by
  intro result other heq
  cases result <;> cases other <;> first | rfl | exact absurd heq (by decide)

section TestRule

variable [Unicode] [RegexCrate]

def blockedCount (rs : RuleSet) : ℕ := rs.blocked.card + rs.wildcardBlockedPatterns.length

def allowedCount (rs : RuleSet) : ℕ := rs.allowed.card + rs.wildcardAllowedPatterns.length

def ruleType (blockCount allowCount : ℕ) : Option Str :=
  if blockCount > 0 ∧ allowCount = 0 then some (str "block")
  else if allowCount > 0 ∧ blockCount = 0 then some (str "allow")
  else if blockCount > 0 ∧ allowCount > 0 then some (str "mixed")
  else none

def cleanedDomain (domain : Str) : Str := trimEndMatches '.' (trim domain)

def testRule (body : SandboxRequest) : Except AppError SandboxResponse :=
  if (trim body.rule).isEmpty then .error (.validation (str "Rule cannot be empty"))
  else if body.testDomains.isEmpty then
    .error (.validation (str "At least one test domain is required"))
  else
    let (ruleset, parsed) := RuleSet.new.addRulesFromStr body.rule
    let blockCount := blockedCount ruleset
    let allowCount := allowedCount ruleset
    .ok
      { ruleValid := parsed > 0
        ruleType := ruleType blockCount allowCount
        parsedBlocks := blockCount
        parsedAllows := allowCount
        results := body.testDomains.filterMap fun domain =>
          if (cleanedDomain domain).isEmpty then none
          else some ⟨domain, statusText (ruleset.matchDomain (cleanedDomain domain))⟩ }

/-- Every result is what the engine makes of the same lines, for the domain without
white space around it. -/
def Faithful (body : SandboxRequest) (response : SandboxResponse) : Prop :=
  ∀ result ∈ response.results,
    result.status =
      statusText ((built (lines body.rule)).matchDomain (trim result.domain))

/-- The compiled wildcards do not decide the name: it is already allowed, or
already blocked, without them. -/
structure WildcardsRedundant (lines : List Str) (name : Str) : Prop where
  allow : PatternHit (livePatterns (patterns .allow lines)) name → AllowsUnbuilt lines name
  block : PatternHit (livePatterns (patterns .block lines)) name →
    Allows lines name ∨ BlocksUnbuilt lines name

theorem matchDomain_ofLines_eq_built_iff (lines : List Str) (domain : Str) :
    (ofLines lines).matchDomain domain = (built lines).matchDomain domain ↔
      WildcardsRedundant lines (normalizeQuery domain) := by
  rw [(verdict_ofLines lines domain).eq_iff (verdict_built lines domain)]
  constructor
  · rintro ⟨hallows, hblocks⟩
    refine ⟨fun hhit => hallows.mpr (Or.inr hhit), fun hhit => ?_⟩
    rw [or_iff_not_imp_left]
    exact fun hopen => (hblocks hopen).mpr (Or.inr (Or.inr hhit))
  · rintro ⟨hallow, hblock⟩
    refine ⟨⟨Or.inl, fun hallows => hallows.elim id hallow⟩, fun hopen => ⟨?_, ?_⟩⟩
    · exact Or.imp id Or.inl
    · rintro (hall | hdomain | hhit)
      · exact Or.inl hall
      · exact Or.inr hdomain
      · exact (hblock hhit).resolve_left hopen

omit [RegexCrate] in
theorem normalizeQuery_cleanedDomain (domain : Str) :
    normalizeQuery (cleanedDomain domain) = normalizeQuery (trim domain) := by
  unfold normalizeQuery cleanedDomain trimEndMatches
  rw [List.rdropWhile_idempotent]

theorem testRule_results {body : SandboxRequest} {response : SandboxResponse}
    (hresponse : testRule body = .ok response) :
    response.results = body.testDomains.filterMap fun domain =>
      if (cleanedDomain domain).isEmpty then none
      else some ⟨domain,
        statusText ((ofLines (lines body.rule)).matchDomain (cleanedDomain domain))⟩ := by
  unfold testRule at hresponse
  split_ifs at hresponse
  rw [← addRulesFromStr_fst]
  exact (congrArg SandboxResponse.results (Except.ok.inj hresponse)).symm

/-- For one domain, the report of the sandbox is that of the engine exactly when
the wildcards are redundant. -/
theorem status_eq_iff (rules : List Str) (domain : Str) :
    statusText ((ofLines rules).matchDomain (cleanedDomain domain)) =
        statusText ((built rules).matchDomain (trim domain)) ↔
      WildcardsRedundant rules (normalizeQuery (trim domain)) := by
  -- the engine removes final dots itself, so the cleaned domain is the same question
  have hbuilt : (built rules).matchDomain (trim domain) =
      (built rules).matchDomain (cleanedDomain domain) := by
    simp only [matchDomain, normalizeQuery_cleanedDomain]
  rw [statusText_injective.eq_iff, hbuilt, matchDomain_ofLines_eq_built_iff,
    normalizeQuery_cleanedDomain]

/-- **When the sandbox tells the truth.**  Exactly when the wildcards of the text
are redundant for every domain that it looks up. -/
theorem testRule_faithful_iff (body : SandboxRequest) (response : SandboxResponse)
    (hresponse : testRule body = .ok response) :
    Faithful body response ↔
      ∀ domain ∈ body.testDomains, cleanedDomain domain ≠ [] →
        WildcardsRedundant (lines body.rule) (normalizeQuery (trim domain)) := by
  unfold Faithful
  rw [testRule_results hresponse]
  constructor
  · intro hfaithful domain hmem hne
    apply (status_eq_iff (lines body.rule) domain).mp
    refine hfaithful ⟨domain,
      statusText ((ofLines (lines body.rule)).matchDomain (cleanedDomain domain))⟩ ?_
    apply List.mem_filterMap.mpr
    refine ⟨domain, hmem, ?_⟩
    rw [if_neg (by simpa using hne)]
  · intro hredundant result hresult
    obtain ⟨domain, hmem, heq⟩ := List.mem_filterMap.mp hresult
    split_ifs at heq with hempty
    obtain rfl := Option.some.inj heq
    apply (status_eq_iff (lines body.rule) domain).mpr
    exact hredundant domain hmem (by simpa using hempty)

end TestRule

section Example

attribute [local instance] Unicode.ascii RegexCrate.fragment

/-- A wildcard rule blocks a domain in the engine, and the sandbox says that it
does not match. -/
theorem not_faithful_wildcardRule :
    ∃ response, testRule ⟨str "||*.ads.com^", [str "x.ads.com"]⟩ = .ok response ∧
      ¬ Faithful ⟨str "||*.ads.com^", [str "x.ads.com"]⟩ response := by
  refine ⟨⟨true, some (str "block"), 1, 0, [⟨str "x.ads.com", str "unmatched"⟩]⟩,
    by decide +kernel, ?_⟩
  intro hfaithful
  have hresult := hfaithful ⟨str "x.ads.com", str "unmatched"⟩ List.mem_cons_self
  revert hresult
  decide +kernel

/-- A domain that a plain rule blocks is reported rightly next to a wildcard. -/
theorem faithful_plainRule :
    ∃ response, testRule ⟨str "||ads.com^\n||*.ads.com^", [str "x.ads.com"]⟩ = .ok response ∧
      Faithful ⟨str "||ads.com^\n||*.ads.com^", [str "x.ads.com"]⟩ response := by
  have hresponse : testRule ⟨str "||ads.com^\n||*.ads.com^", [str "x.ads.com"]⟩ =
      .ok ⟨true, some (str "block"), 2, 0, [⟨str "x.ads.com", str "blocked"⟩]⟩ := by
    decide +kernel
  refine ⟨_, hresponse, (testRule_faithful_iff _ _ hresponse).mpr fun domain hdomain _ => ?_⟩
  obtain rfl := List.mem_singleton.mp hdomain
  refine ⟨fun hhit => ?_, fun _ => Or.inr (Or.inr ⟨str "ads.com", ?_, ?_⟩)⟩
  · have hpatterns : patterns .allow (lines (str "||ads.com^\n||*.ads.com^")) = [] := by
      decide +kernel
    rw [hpatterns] at hhit
    simp [livePatterns, PatternHit] at hhit
  · decide +kernel
  · decide +kernel

end Example

end RustDns.Api.Sandbox
