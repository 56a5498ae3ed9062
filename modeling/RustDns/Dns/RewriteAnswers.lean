import RustDns.Dns.CacheRuns
import RustDns.Dns.ReloadFailures

/-!
# What a rewrite keeps from an upstream

A name of the rewrite map should be answered from the target of its rewrite: with an address of the
family that was asked for, or with an empty answer where the target has none.  `rewrite_response`
builds an answer only from an address that is written out and of that family.  For a host name, as
all targets of Safe Search are, and for an address of the other family it returns an error, and
`handle_internal` goes on as if there were no rewrite.
(`handleInternal_answeredFrom_iff`).
-/

namespace RustDns

open Text RuleSet Reload

def IpAddr.recordType : IpAddr → RecordType
  | .v4 .. => .a
  | .v6 _ => .aaaa

theorem rewriteRData_eq_some_iff {answer : Str} {qtype : RecordType} {ip : IpAddr} :
    rewriteRData answer qtype = some ip ↔
      IpAddr.parse answer = some ip ∧ ip.recordType = qtype := by
  unfold rewriteRData
  cases hparse : IpAddr.parse answer with
  | none => simp
  | some found =>
    cases found <;> cases qtype <;> simp <;> rintro rfl <;> simp [IpAddr.recordType]

/-- The addresses of a target: an address stands for itself, and any other target is a host name. -/
def targetAddresses (hostAddresses : Str → List IpAddr) (target : Str) : List IpAddr :=
  match IpAddr.parse target with
  | some ip => [ip]
  | none => hostAddresses target

section Answers

variable [Unicode] [RegexCrate] [IpNetCrate] [Wire]

/-- The reply comes from the addresses of a target, and neither the cache nor an upstream was
asked. -/
inductive AnsweredFrom (settings : HandlerSettings) (request : Message) (query : Query)
    (addresses : List IpAddr) (reply : Reply) : Prop where
  /-- An address of the family that was asked for. -/
  | address (ip : IpAddr) (hip : ip ∈ addresses) (hfamily : ip.recordType = query.queryType)
      (hresult : reply.result =
        Wire.toVec (rewriteMessage request query ip settings.rewriteTtl))
      (hvia : reply.via = .rewritten ip)
  /-- There is none, and the answer is empty. -/
  | empty (hnone : ∀ ip ∈ addresses, ip.recordType ≠ query.queryType) (message : Message)
      (hempty : message.answers = []) (hresult : reply.result = Wire.toVec message)
      (hvia : reply.via.decision ≠ some .passed)

variable {request : Message} {query : Query} {config : ClientConfig} {engine : FilterEngine}
  {call : Call}

omit [Unicode] [RegexCrate] [IpNetCrate] in
theorem not_answeredFrom_of_passed {settings : HandlerSettings} {addresses : List IpAddr}
    {reply : Reply} (hpassed : reply.via.decision = some .passed) :
    ¬ AnsweredFrom settings request query addresses reply := by
  rintro (⟨ip, -, -, -, hvia⟩ | ⟨-, -, -, -, hvia⟩)
  · rw [hvia] at hpassed
    cases hpassed
  · exact hvia hpassed

omit [IpNetCrate] [Wire] in
theorem filterBlocks_iff (config : ClientConfig) (engine : FilterEngine) (name : Str) :
    filterBlocks config engine name = true ↔ config.filterEnabled = true ∧
      (groupMatch config.groupRuleset name = .blocked ∨
        groupMatch config.groupRuleset name = .none ∧ engine.isBlocked name = true) := by
  unfold filterBlocks groupMatch
  cases config.filterEnabled with
  | false => simp
  | true =>
    cases config.groupRuleset with
    | none => simp
    | some ruleset => cases hmatch : ruleset.matchDomain name <;> simp [hmatch]

omit [IpNetCrate] [Wire] in
theorem rewriteAnswer_eq {name globalTarget : Str}
    (hkey : engine.rewrites.get (toLowercase name) = some globalTarget) :
    rewriteAnswer config engine name = some ((config.groupAnswer name).getD globalTarget) := by
  unfold rewriteAnswer
  cases config.groupAnswer name with
  | some answer => rfl
  | none => exact hkey

variable (settings : HandlerSettings) (state : HandlerState)

/-- A question is answered with an address by the rewrite step if and only if the rewrites have that
address for it. -/
theorem handleInternal_rewritten_iff (hquestion : call.question = some (request, query))
    (ip : IpAddr) :
    (handleInternal settings state call).2 =
        ⟨Wire.toVec (rewriteMessage request query ip settings.rewriteTtl), .rewritten ip⟩ ↔
      rewriteAddress call.config call.engine (trimEndMatches '.' query.name) query.queryType =
        some ip := by
  have hdecision : (handleInternal settings state call).2.via.decision =
      some (decision call.config call.engine query.name query.queryType) :=
    handleInternal_decision hquestion
  constructor
  · intro hreply
    rw [hreply] at hdecision
    have hrewritten := (Option.some.inj hdecision).symm
    unfold decision at hrewritten
    dsimp only at hrewritten
    cases haddress : rewriteAddress call.config call.engine (trimEndMatches '.' query.name)
      query.queryType with
    | some found =>
      rw [haddress] at hrewritten
      rw [(Decision.rewritten.inj hrewritten)]
    | none =>
      rw [haddress] at hrewritten
      dsimp only at hrewritten
      split_ifs at hrewritten
  · intro haddress
    obtain ⟨answer, hanswer, hdata⟩ := Option.bind_eq_some_iff.mp haddress
    obtain ⟨bytes, hbytes⟩ := Option.isSome_iff_exists.mp (Wire.isSome_toVec
      (rewriteMessage request query ip settings.rewriteTtl) le_rfl le_rfl)
    have hreply : rewriteReply settings call request query = some (ip, bytes) := by
      simp [rewriteReply, hanswer, hdata, hbytes]
    rw [handleInternal_of_question hquestion, hbytes]
    simp only [handleQuery, hreply]

/-- A name without an address for the question that the rules block. -/
theorem handleInternal_blocked (hquestion : call.question = some (request, query))
    (haddress : rewriteAddress call.config call.engine (trimEndMatches '.' query.name)
      query.queryType = none)
    (hblocks : filterBlocks call.config call.engine (trimEndMatches '.' query.name) = true) :
    (handleInternal settings state call).2 = ⟨Wire.toVec (nxdomain request), .blocked⟩ := by
  have hreply : rewriteReply settings call request query = none := by
    rw [← rewriteReply_map_fst settings call request query] at haddress
    exact Option.map_eq_none_iff.mp haddress
  rw [handleInternal_of_question hquestion]
  simp only [handleQuery, hreply]
  rw [if_pos hblocks]

omit [IpNetCrate] [Wire] in
theorem decision_eq_passed {domain : Str} {qtype : RecordType}
    (haddress : rewriteAddress config engine (trimEndMatches '.' domain) qtype = none)
    (hblocks : ¬ filterBlocks config engine (trimEndMatches '.' domain) = true) :
    decision config engine domain qtype = .passed := by
  unfold decision
  dsimp only
  rw [haddress]
  exact if_neg hblocks

/-- **When a rewrite does not leak.**  A question for a name of the rewrite map is answered from the
target, that of the groups of the client if they have one, if and only if the target is an address
of the family that was asked for, or has none of that family and the rules block the name. -/
theorem handleInternal_answeredFrom_iff (settings : HandlerSettings) (state : HandlerState)
    {call : Call} {request : Message} {query : Query}
    (hquestion : call.question = some (request, query)) {globalTarget : Str}
    (hkey : call.engine.rewrites.get (normalizeQuery query.name) = some globalTarget)
    (hostAddresses : Str → List IpAddr) :
    let name := trimEndMatches '.' query.name
    let target := (call.config.groupAnswer name).getD globalTarget
    AnsweredFrom settings request query (targetAddresses hostAddresses target)
        (handleInternal settings state call).2 ↔
      (∃ ip, IpAddr.parse target = some ip ∧ ip.recordType = query.queryType) ∨
        (∀ ip ∈ targetAddresses hostAddresses target, ip.recordType ≠ query.queryType) ∧
          call.config.filterEnabled = true ∧
            (groupMatch call.config.groupRuleset name = .blocked ∨
              groupMatch call.config.groupRuleset name = .none ∧
                call.engine.isBlocked name = true) := by
  intro name target
  have haddress : rewriteAddress call.config call.engine name query.queryType =
      rewriteRData target query.queryType := by
    rw [rewriteAddress, rewriteAnswer_eq hkey, Option.bind_some]
  rw [← filterBlocks_iff]
  cases hdata : rewriteRData target query.queryType with
  | some ip =>
    obtain ⟨hparse, hfamily⟩ := rewriteRData_eq_some_iff.mp hdata
    have hmem : ip ∈ targetAddresses hostAddresses target := by simp [targetAddresses, hparse]
    refine iff_of_true ?_ (Or.inl ⟨ip, hparse, hfamily⟩)
    rw [(handleInternal_rewritten_iff settings state hquestion ip).mpr (haddress.trans hdata)]
    exact .address ip hmem hfamily rfl rfl
  | none =>
    have hliteral : ¬ ∃ ip, IpAddr.parse target = some ip ∧ ip.recordType = query.queryType := by
      rintro ⟨ip, hip⟩
      rw [rewriteRData_eq_some_iff.mpr hip] at hdata
      cases hdata
    rw [or_iff_right hliteral]
    by_cases hblocks : filterBlocks call.config call.engine name = true
    · -- the reply is empty
      rw [handleInternal_blocked settings state hquestion (haddress.trans hdata) hblocks]
      constructor
      · intro hanswered
        cases hanswered with
        | address ip hip hfamily hresult hvia => cases hvia
        | empty hnone => exact ⟨hnone, hblocks⟩
      · rintro ⟨hnone, -⟩
        exact .empty hnone (nxdomain request) rfl rfl nofun
    · -- the question is passed on
      have hpassed : (handleInternal settings state call).2.via.decision = some .passed := by
        rw [handleInternal_decision hquestion,
          decision_eq_passed (haddress.trans hdata) hblocks]
      exact iff_of_false (not_answeredFrom_of_passed hpassed) fun h => hblocks h.2

end Answers

/-! ### Safe Search -/

section SafeSearch

attribute [local instance] Unicode.ascii RegexCrate.fragment SerdeJson.plain IpNetCrate.cidr
  Wire.plain

def engineCall (engine : FilterEngine) (name : Str) : Call :=
  { exampleCall 7 .default (downLookup []) with
    data := PlainWire.write (exampleRequest 7 name)
    engine := engine }

/-- With Safe Search on, the question for its first name is answered by an upstream. -/
theorem not_answeredFrom_safeSearchDb :
    let engine := FilterEngine.dictated (str "2026-01-01") safeSearchDb
    let request := exampleRequest 7 (str "www.google.com.")
    FilterEngine.reload noFailure (str "2026-01-01") safeSearchDb = some engine ∧
      (engineCall engine (str "www.google.com.")).question =
        some (request, ⟨str "www.google.com.", .a, 1⟩) ∧
      engine.rewrites.get (normalizeQuery (str "www.google.com.")) =
        some (str "forcesafesearch.google.com") ∧
      ∀ hostAddresses : Str → List IpAddr,
        ¬ AnsweredFrom exampleSettings request ⟨str "www.google.com.", .a, 1⟩
          (targetAddresses hostAddresses (str "forcesafesearch.google.com"))
          (handleInternal exampleSettings .empty
            (engineCall engine (str "www.google.com."))).2 := by
  intro engine request
  refine ⟨by rfl, by decide +kernel, by decide +kernel, ?_⟩
  intro hostAddresses
  exact not_answeredFrom_of_passed (by decide +kernel)

/-- A rewrite to an address answers. -/
theorem answeredFrom_nas :
    AnsweredFrom exampleSettings (exampleRequest 7 (str "nas.lan.")) ⟨str "nas.lan.", .a, 1⟩
      (targetAddresses (fun _ => []) (str "10.0.0.1"))
      (handleInternal exampleSettings .empty
        (engineCall ⟨.new, Rewrites.empty.insert (str "nas.lan") (str "10.0.0.1")⟩
          (str "nas.lan."))).2 :=
  (handleInternal_answeredFrom_iff exampleSettings .empty
    (show (engineCall ⟨.new, Rewrites.empty.insert (str "nas.lan") (str "10.0.0.1")⟩
      (str "nas.lan.")).question =
        some (exampleRequest 7 (str "nas.lan."), ⟨str "nas.lan.", .a, 1⟩) by decide +kernel)
    (show _ = some (str "10.0.0.1") by decide +kernel) fun _ => []).mpr
      (Or.inl ⟨.v4 10 0 0 1, by decide, rfl⟩)

end SafeSearch

end RustDns
