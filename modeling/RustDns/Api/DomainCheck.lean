import RustDns.Dns.RewriteAnswers

/-!
# The domain check

`api/handlers/domain_check.rs`: the endpoint that tells what the server does with a name.  It asks
the filter engine itself, and repeats the order of the checks of `handle_internal`.

The two differ in two places.  The handler looks up a rewrite under the name without its final dot,
the check under the name as it is given.  And the handler answers an A query from a rewrite only if
the target is an IPv4 address; the check reports every target.  So the report is what the handler
does if and only if the name has the same IPv4 target with the dot as without it, and no other
target (`agrees_checkDomain_iff`).
-/

namespace RustDns.Api.DomainCheck

open Text RuleSet

/-! ## The endpoint -/

structure DomainCheckResult where
  domain : Str
  blocked : Bool
  rewriteTarget : Option Str
  action : Str
deriving DecidableEq

inductive DomainCheckResponse where
  | results (results : List DomainCheckResult)
  | error (message : Str)
deriving DecidableEq

def actionOf (rewriteTarget : Option Str) (blocked : Bool) : Str :=
  match rewriteTarget with
  | some target => str "rewritten:" ++ target
  | none => if blocked then str "blocked" else str "allowed"

section Check

variable [Unicode] [RegexCrate]

def checkDomain (engine : FilterEngine) (domain : Str) : Option DomainCheckResult :=
  let domain := toLowercase (trim domain)
  if domain.isEmpty then none
  else
    let blocked := engine.isBlocked domain
    let rewriteTarget := engine.checkRewrite domain
    some ⟨domain, blocked, rewriteTarget, actionOf rewriteTarget blocked⟩

def checkDomains (engine : FilterEngine) (domains : List Str) : DomainCheckResponse :=
  if domains.isEmpty then .results []
  else if 100 < domains.length then .error (str "maximum 100 domains per request")
  else .results (domains.filterMap (checkDomain engine))

end Check

/-! ## What it should report -/

/-- A name of visible ASCII characters, at most 253 in all, with or without a final dot; its labels
have from one to 63 characters. -/
structure IsDnsName (domain : Str) : Prop where
  short : domain.length ≤ 253
  visible : ∀ c ∈ domain, 0x21 ≤ c.toNat ∧ c.toNat ≤ 0x7e
  labels : ∀ label ∈ (trimEndMatches '.' domain).splitOn '.', label ≠ [] ∧ label.length ≤ 63
  oneDot : ¬ str ".." <:+ domain

def SameName (first second : Str) : Prop :=
  EqIgnoreAsciiCase (trimEndMatches '.' first) (trimEndMatches '.' second)

instance (first second : Str) : Decidable (SameName first second) :=
  inferInstanceAs (Decidable (EqIgnoreAsciiCase _ _))

section Agrees

variable [Wire]

inductive Agrees (settings : HandlerSettings) (request : Message) (query : Query) (action : Str)
    (reply : Reply) : Prop where
  /-- The answer is the target. -/
  | rewritten (target : Str) (haction : action = str "rewritten:" ++ target) (ip : IpAddr)
      (hip : IpAddr.parse target = some ip)
      (hreply : reply =
        ⟨Wire.toVec (rewriteMessage request query ip settings.rewriteTtl), .rewritten ip⟩)
  /-- The answer is `NXDOMAIN`. -/
  | blocked (haction : action = str "blocked")
      (hreply : reply = ⟨Wire.toVec (nxdomain request), .blocked⟩)
  /-- The question went to the cache or to an upstream. -/
  | allowed (haction : action = str "allowed") (hreply : reply.via.decision = some .passed)

variable {settings : HandlerSettings} {request : Message} {query : Query} {reply : Reply}

theorem agrees_some_iff (target : Str) (blocked : Bool) :
    Agrees settings request query (actionOf (some target) blocked) reply ↔
      ∃ ip, IpAddr.parse target = some ip ∧ reply =
        ⟨Wire.toVec (rewriteMessage request query ip settings.rewriteTtl), .rewritten ip⟩ := by
  constructor
  · intro hagrees
    cases hagrees with
    | rewritten other haction ip hip hreply =>
      obtain rfl : target = other := List.append_cancel_left haction
      exact ⟨ip, hip, hreply⟩
    | blocked haction => simp [actionOf, str] at haction
    | allowed haction => simp [actionOf, str] at haction
  · rintro ⟨ip, hip, hreply⟩
    exact .rewritten target rfl ip hip hreply

theorem agrees_none_iff (blocked : Bool) :
    Agrees settings request query (actionOf none blocked) reply ↔
      if blocked then reply = ⟨Wire.toVec (nxdomain request), .blocked⟩
      else reply.via.decision = some .passed := by
  constructor
  · intro hagrees
    cases blocked with
    | true =>
      cases hagrees with
      | rewritten target haction => simp [actionOf, str] at haction
      | blocked _ hreply => exact hreply
      | allowed haction => simp [actionOf, str] at haction
    | false =>
      cases hagrees with
      | rewritten target haction => simp [actionOf, str] at haction
      | blocked haction => simp [actionOf, str] at haction
      | allowed _ hreply => exact hreply
  · intro hreply
    cases blocked with
    | true => exact .blocked rfl hreply
    | false => exact .allowed rfl hreply

end Agrees

/-! ## When it does -/

section Names

variable {domain : Str}

theorem IsDnsName.ne_nil (hdomain : IsDnsName domain) : domain ≠ [] := by
  rintro rfl
  exact (hdomain.labels [] (by decide)).1 rfl

theorem IsDnsName.trim_eq (hdomain : IsDnsName domain) : trim domain = domain := by
  have hdense : ∀ c ∈ domain, isWhitespace c = false := by
    intro c hc
    have hvisible := hdomain.visible c hc
    simp only [isWhitespace, Bool.or_eq_false_iff, Bool.and_eq_false_iff, decide_eq_false_iff_not,
      beq_eq_false_iff_ne]
    omega
  exact trim_eq_self (fun c hc => hdense c (List.mem_of_mem_head? hc))
    fun c hc => hdense c (List.mem_of_mem_getLast? hc)

variable [Unicode] [LawfulLowercase]

theorem IsDnsName.eqIgnoreAsciiCase (hdomain : IsDnsName domain) :
    EqIgnoreAsciiCase (toLowercase domain) domain := by
  have hascii : ∀ c ∈ domain, c.toNat < 128 := by
    intro c hc
    have hvisible := hdomain.visible c hc
    omega
  rw [LawfulLowercase.toLowercase_ascii domain hascii, EqIgnoreAsciiCase, List.map_map]
  congr 1
  funext c
  simp

end Names

section Comparison

variable [Unicode] [RegexCrate]

theorem isBlocked_congr (engine : FilterEngine) {name domain : Str} (hname : SameName name domain) :
    engine.isBlocked (trimEndMatches '.' name) = engine.isBlocked domain := by
  have hnormal : normalizeQuery (trimEndMatches '.' name) = normalizeQuery domain := by
    rw [normalizeQuery_congr hname, normalizeQuery, trimEndMatches_of_getLast, normalizeQuery]
    exact getLast_trimEndMatches '.' domain
  unfold FilterEngine.isBlocked RuleSet.isBlocked matchDomain
  rw [hnormal]

/-- Every rewrite of the name as it is given is to an IPv4 address, and it is the one that the name
has without its final dot. -/
structure HasIpv4Target (engine : FilterEngine) (domain : Str) : Prop where
  literal : ∀ target, engine.rewrites.get (toLowercase domain) = some target →
    ∃ a b c d, IpAddr.parse target = some (.v4 a b c d)
  undotted : (engine.rewrites.get (toLowercase domain)).bind (rewriteRData · .a) =
    (engine.rewrites.get (normalizeQuery domain)).bind (rewriteRData · .a)

variable [IpNetCrate] [Wire]

/-- What the handler does with a question of a client with the default configuration. -/
theorem handleInternal_default (settings : HandlerSettings) (state : HandlerState) {call : Call}
    {request : Message} {query : Query} (hquestion : call.question = some (request, query))
    (hconfig : call.config = .default) (htype : query.queryType = .a) {domain : Str}
    (hname : SameName query.name domain) :
    match (call.engine.rewrites.get (normalizeQuery domain)).bind (rewriteRData · .a) with
    | some ip => (handleInternal settings state call).2 =
        ⟨Wire.toVec (rewriteMessage request query ip settings.rewriteTtl), .rewritten ip⟩
    | none =>
      if call.engine.isBlocked domain then
        (handleInternal settings state call).2 = ⟨Wire.toVec (nxdomain request), .blocked⟩
      else (handleInternal settings state call).2.via.decision = some .passed := by
  have haddress : rewriteAddress call.config call.engine (trimEndMatches '.' query.name)
      query.queryType =
        (call.engine.rewrites.get (normalizeQuery domain)).bind (rewriteRData · .a) := by
    have hkey : toLowercase (trimEndMatches '.' query.name) = normalizeQuery domain :=
      Unicode.toLowercase_congr _ _ hname
    rw [rewriteAddress, hconfig, htype, ← hkey]
    rfl
  have hblocks : filterBlocks call.config call.engine (trimEndMatches '.' query.name) =
      call.engine.isBlocked domain := by
    rw [hconfig, ← isBlocked_congr call.engine hname]
    rfl
  rw [← haddress, ← hblocks]
  split
  · next ip hip => exact (handleInternal_rewritten_iff settings state hquestion ip).mpr hip
  · next hnone =>
    split_ifs with hblocked
    · exact handleInternal_blocked settings state hquestion hnone hblocked
    · rw [handleInternal_decision hquestion, decision_eq_passed hnone hblocked]

variable [LawfulLowercase]

omit [IpNetCrate] [Wire] in
/-- The result for a name: the verdict of the rules on it, and the rewrite of its spelling. -/
theorem checkDomain_eq (engine : FilterEngine) {domain : Str} (hdomain : IsDnsName domain) :
    let target := engine.rewrites.get (toLowercase domain)
    checkDomain engine domain = some ⟨toLowercase domain, engine.isBlocked domain, target,
      actionOf target (engine.isBlocked domain)⟩ := by
  have hlower : toLowercase domain ≠ [] := by
    intro hnil
    have hcase := hdomain.eqIgnoreAsciiCase
    rw [hnil, EqIgnoreAsciiCase, List.map_nil, eq_comm, List.map_eq_nil_iff] at hcase
    exact hdomain.ne_nil hcase
  have hblocked : engine.isBlocked (toLowercase domain) = engine.isBlocked domain := by
    simp only [FilterEngine.isBlocked, RuleSet.isBlocked,
      matchDomain_congr engine.rules hdomain.eqIgnoreAsciiCase]
  simp only [checkDomain, hdomain.trim_eq, List.isEmpty_iff, hlower, if_false, hblocked,
    FilterEngine.checkRewrite, Unicode.toLowercase_idem]

/-- **When the check reports what the handler does.**  The domain is one of at most a hundred in a
request to the endpoint, and an A query for it comes from a client with the default
configuration. -/
theorem agrees_checkDomain_iff (settings : HandlerSettings) (state : HandlerState) {call : Call}
    {request : Message} {query : Query} (hquestion : call.question = some (request, query))
    (hconfig : call.config = .default) (htype : query.queryType = .a) {domain : Str}
    (hdomain : IsDnsName domain) (hname : SameName query.name domain) {domains : List Str}
    (hmem : domain ∈ domains) (hcount : domains.length ≤ 100) :
    ∃ results, checkDomains call.engine domains = .results results ∧
      ∃ result ∈ results, result.domain = toLowercase domain ∧
        (Agrees settings request query result.action (handleInternal settings state call).2 ↔
          HasIpv4Target call.engine domain) := by
  have hresult := checkDomain_eq call.engine hdomain
  have hresults : checkDomains call.engine domains =
      .results (domains.filterMap (checkDomain call.engine)) := by
    rw [checkDomains, if_neg (by simpa using List.ne_nil_of_mem hmem), if_neg (by omega)]
  refine ⟨_, hresults, _, List.mem_filterMap.mpr ⟨domain, hmem, hresult⟩, rfl, ?_⟩
  have hhandler := handleInternal_default settings state hquestion hconfig htype hname
  dsimp only
  cases htarget : call.engine.rewrites.get (toLowercase domain) with
  | none =>
    rw [agrees_none_iff]
    cases haddress : (call.engine.rewrites.get (normalizeQuery domain)).bind
      (rewriteRData · .a) with
    | none =>
      rw [haddress] at hhandler
      refine iff_of_true hhandler ⟨?_, ?_⟩
      · simp [htarget]
      · rw [htarget, haddress, Option.bind_none]
    | some ip =>
      -- the handler answers, and the check does not know of it
      rw [haddress] at hhandler
      refine iff_of_false ?_ ?_
      · intro hrules
        rw [hhandler] at hrules
        split_ifs at hrules
        · exact Via.noConfusion (congrArg Reply.via hrules)
        · cases hrules
      · intro hhas
        have hundotted := hhas.undotted
        rw [htarget, haddress] at hundotted
        cases hundotted
  | some target =>
    rw [agrees_some_iff]
    constructor
    · rintro ⟨ip, hip, hreply⟩
      rw [hreply] at hhandler
      cases haddress : (call.engine.rewrites.get (normalizeQuery domain)).bind
        (rewriteRData · .a) with
      | none =>
        rw [haddress] at hhandler
        dsimp only at hhandler
        split_ifs at hhandler
        · exact Via.noConfusion (congrArg Reply.via hhandler)
        · cases hhandler
      | some found =>
        rw [haddress] at hhandler
        obtain rfl : ip = found := by
          injection hhandler with _ hvia
          injection hvia
        obtain ⟨answer, -, hanswer⟩ := Option.bind_eq_some_iff.mp haddress
        have hfamily := (rewriteRData_eq_some_iff.mp hanswer).2
        refine ⟨?_, ?_⟩
        · intro other hother
          obtain rfl : target = other := Option.some.inj (htarget.symm.trans hother)
          cases ip with
          | v4 a b c d => exact ⟨a, b, c, d, hip⟩
          | v6 segments => cases hfamily
        · rw [htarget, haddress, Option.bind_some]
          exact rewriteRData_eq_some_iff.mpr ⟨hip, hfamily⟩
    · intro hhas
      obtain ⟨a, b, c, d, hparse⟩ := hhas.literal target htarget
      have hdata : rewriteRData target .a = some (.v4 a b c d) :=
        rewriteRData_eq_some_iff.mpr ⟨hparse, rfl⟩
      have hundotted := hhas.undotted
      rw [htarget, Option.bind_some, hdata] at hundotted
      rw [← hundotted] at hhandler
      exact ⟨_, hparse, hhandler⟩

end Comparison

/-! ### Examples -/

section Examples

attribute [local instance] Unicode.ascii RegexCrate.fragment SerdeJson.plain IpNetCrate.cidr
  Wire.plain Unicode.lawfulLowercase_ascii

def nasEngine : FilterEngine := ⟨.new, Rewrites.empty.insert (str "nas.lan") (str "10.0.0.1")⟩

theorem isDnsName_nas : IsDnsName (str "nas.lan") ∧ IsDnsName (str "nas.lan.") := by
  have hall : (str "nas.lan.").all (fun c => 0x21 ≤ c.toNat && c.toNat ≤ 0x7e) = true := by decide
  have hvisible : ∀ c ∈ str "nas.lan.", 0x21 ≤ c.toNat ∧ c.toNat ≤ 0x7e := by
    intro c hc
    simpa using List.all_eq_true.mp hall c hc
  exact ⟨⟨by decide, fun c hc => hvisible c (List.mem_append_left _ hc), by decide, by decide⟩,
    ⟨by decide, hvisible, by decide, by decide⟩⟩

/-- Without the dot, the name is reported as rewritten to the address that is answered. -/
theorem agrees_checkDomain_nas :
    ∃ results, checkDomains nasEngine [str "nas.lan"] = .results results ∧
      ∃ result ∈ results, result.domain = str "nas.lan" ∧
        Agrees exampleSettings (exampleRequest 7 (str "nas.lan.")) ⟨str "nas.lan.", .a, 1⟩
          result.action
          (handleInternal exampleSettings .empty (engineCall nasEngine (str "nas.lan."))).2 := by
  obtain ⟨results, hresults, result, hmem, hdomain, hiff⟩ :=
    agrees_checkDomain_iff exampleSettings .empty
      (show (engineCall nasEngine (str "nas.lan.")).question =
        some (exampleRequest 7 (str "nas.lan."), ⟨str "nas.lan.", .a, 1⟩) by decide +kernel)
      rfl rfl isDnsName_nas.1 (show SameName _ _ by decide +kernel) (List.mem_singleton_self _)
      (by decide)
  refine ⟨results, hresults, result, hmem, hdomain, hiff.mpr ⟨?_, by decide +kernel⟩⟩
  intro target htarget
  obtain rfl : str "10.0.0.1" = target := Option.some.inj htarget
  exact ⟨10, 0, 0, 1, by decide +kernel⟩

/-- With the dot, the name is reported as allowed, and answered from the rewrite.  The name of a
search engine is reported as rewritten to the host name of Safe Search, and passed on. -/
theorem not_agrees_checkDomain :
    let search := FilterEngine.dictated (str "2026-01-01") safeSearchDb
    (IsDnsName (str "nas.lan.") ∧
      checkDomains nasEngine [str "nas.lan."] =
        .results [⟨str "nas.lan.", false, none, str "allowed"⟩] ∧
      ¬ Agrees exampleSettings (exampleRequest 7 (str "nas.lan.")) ⟨str "nas.lan.", .a, 1⟩
        (str "allowed")
        (handleInternal exampleSettings .empty (engineCall nasEngine (str "nas.lan."))).2) ∧
    checkDomains search [str "www.google.com"] =
        .results [⟨str "www.google.com", false, some (str "forcesafesearch.google.com"),
          str "rewritten:forcesafesearch.google.com"⟩] ∧
      ¬ Agrees exampleSettings (exampleRequest 7 (str "www.google.com."))
        ⟨str "www.google.com.", .a, 1⟩ (str "rewritten:forcesafesearch.google.com")
        (handleInternal exampleSettings .empty (engineCall search (str "www.google.com."))).2 := by
  intro search
  refine ⟨⟨isDnsName_nas.2, by decide +kernel, ?_⟩, by decide +kernel, ?_⟩
  · intro hagrees
    have hpassed := (agrees_none_iff false).mp hagrees
    revert hpassed
    decide +kernel
  · intro hagrees
    obtain ⟨ip, hip, -⟩ := (agrees_some_iff (str "forcesafesearch.google.com") false).mp hagrees
    have hhost : IpAddr.parse (str "forcesafesearch.google.com") = none := by decide +kernel
    rw [hhost] at hip
    cases hip

end Examples

end RustDns.Api.DomainCheck
