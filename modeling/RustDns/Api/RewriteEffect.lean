import RustDns.Api.Rewrites
import RustDns.Dns.RewriteAnswers

/-!
# Whether a rewrite takes effect

`rewrites::create` and `rewrites::update` write a row and reload the engine.  The domain of the row
is in lower case and without blanks around it, but it may end in a dot, and then it is not the name
under which the handler looks up a question: that one has lost its dot.  A row can also be hidden,
by a later row whose domain differs in letter case only, and by Safe Search.

`handleInternal_accepted_iff` is about every call that succeeds and every question for the name
after it: the address is answered if and only if the last row for the name has it and Safe Search
does not know the name.
-/

namespace RustDns.Api.Rewrites

open Text Program Reload RuleSet

/-- The table after a row was written: in place of the row with its id, wherever the update leaves
it, or at the end. -/
def written (env : Env) (table : Table DnsRewrite.id) (row : DnsRewrite) : Table DnsRewrite.id :=
  (table.insert row).getD ((table.updateWhere (·.id = row.id) (fun old => { row with id := old.id })
    fun _ => rfl).reorder env.rewriteOrder)

theorem written_of_insert {env : Env} {table after : Table DnsRewrite.id} {row : DnsRewrite}
    (hinsert : table.insert row = some after) : written env table row = after := by
  rw [written, hinsert, Option.getD_some]

theorem written_of_mem {env : Env} {table : Table DnsRewrite.id} {existing : DnsRewrite} {id : Str}
    (hfind : table.find? id = some existing) (domain answer : Str) :
    written env table { existing with domain, answer } =
      (table.updateWhere (·.id = id) (fun row => { row with domain, answer })
        fun _ => rfl).reorder env.rewriteOrder := by
  obtain ⟨hexisting, rfl⟩ := Table.find?_eq_some_iff.mp hfind
  have hinsert : table.insert { existing with domain, answer } = none :=
    dif_pos (List.mem_map_of_mem hexisting)
  rw [written, hinsert, Option.getD_none]
  refine congrArg (Table.reorder _) (Table.ext (List.map_congr_left fun old hold => ?_))
  by_cases hid : old.id = existing.id
  · -- the table has one row with the id
    obtain rfl := List.inj_on_of_nodup_map table.nodup hold hexisting hid
    simp
  · simp [hid]

section Calls

variable [Unicode] [RegexCrate] [SerdeJson]

inductive Accepted (env : Env) (before : AppState) (row : DnsRewrite) : AppState → Prop where
  | create (auth : Claims) (domain answer : Str)
      (hok : ((create env auth domain answer).eval before).1 = .ok row) :
      Accepted env before row ((create env auth domain answer).exec before)
  | update (id : Str) (domain answer : Option Str)
      (hok : ((update env id domain answer).eval before).1 = .ok row) :
      Accepted env before row ((update env id domain answer).exec before)

structure Stored (env : Env) (before : AppState) (row : DnsRewrite) (after : AppState) : Prop where
  db : after.db = { before.db with dnsRewrites := written env before.db.dnsRewrites row }
  filter : FilterEngine.reload env.reloadFails env.now after.db = some after.filter

variable {env : Env} {before after : AppState} {row : DnsRewrite}

theorem eval_reloadFilter_eq_ok (hok : (reloadFilter env).eval before = (.ok (), after)) :
    after.db = before.db ∧
      FilterEngine.reload env.reloadFails env.now after.db = some after.filter := by
  replace hok := eval_get_bind_eq_ok hok
  cases hreload : FilterEngine.reload env.reloadFails env.now before.db with
  | none =>
    rw [hreload] at hok
    cases hok
  | some filter =>
    rw [hreload] at hok
    obtain rfl : { before with filter } = after := congrArg Prod.snd hok
    exact ⟨rfl, hreload⟩

omit [SerdeJson] in
theorem eval_insertRow_eq_ok (hok : (insertRow row).eval before = (.ok (), after)) :
    after.db = { before.db with dnsRewrites := written env before.db.dnsRewrites row } := by
  replace hok := eval_get_bind_eq_ok hok
  obtain ⟨-, hok⟩ := eval_guard_eq_ok hok
  cases hinsert : before.db.dnsRewrites.insert row with
  | none =>
    rw [hinsert] at hok
    cases hok
  | some table =>
    rw [hinsert] at hok
    obtain rfl : { before with db := { before.db with dnsRewrites := table } } = after :=
      congrArg Prod.snd hok
    rw [written_of_insert hinsert]

theorem stored_of_create {auth : Claims} {domain answer : Str}
    (hok : (create env auth domain answer).eval before = (.ok row, after)) :
    Stored env before row after := by
  -- the checks of the two fields
  obtain ⟨-, hok⟩ := eval_guard_eq_ok hok
  obtain ⟨-, hok⟩ := eval_guard_eq_ok hok
  obtain ⟨-, hok⟩ := eval_guard_eq_ok hok
  obtain ⟨⟨⟩, inserted, hinsert, hok⟩ := eval_bind_eq_ok hok
  obtain ⟨⟨⟩, reloaded, hreload, hok⟩ := eval_bind_eq_ok hok
  obtain ⟨hrow, rfl⟩ : _ = row ∧ reloaded = after := by simpa using hok
  obtain ⟨hdb, hfilter⟩ := eval_reloadFilter_eq_ok hreload
  refine ⟨?_, hfilter⟩
  rw [hdb, eval_insertRow_eq_ok hinsert, hrow]

theorem stored_of_update {id : Str} {domain answer : Option Str}
    (hok : (update env id domain answer).eval before = (.ok row, after)) :
    Stored env before row after := by
  replace hok := eval_get_bind_eq_ok hok
  cases hfind : before.db.dnsRewrites.find? id with
  | none =>
    rw [hfind] at hok
    cases hok
  | some existing =>
    rw [hfind] at hok
    obtain ⟨-, hok⟩ := eval_guard_eq_ok hok
    replace hok := eval_get_bind_eq_ok hok
    obtain ⟨-, hok⟩ := eval_guard_eq_ok hok
    obtain ⟨⟨⟩, updated, hupdate, hok⟩ := eval_bind_eq_ok hok
    obtain ⟨⟨⟩, reloaded, hreload, hok⟩ := eval_bind_eq_ok hok
    obtain ⟨rfl, rfl⟩ : _ = row ∧ reloaded = after := by simpa using hok
    obtain ⟨hdb, hfilter⟩ := eval_reloadFilter_eq_ok hreload
    refine ⟨?_, hfilter⟩
    rw [hdb, written_of_mem hfind]
    obtain rfl : _ = updated := congrArg Prod.snd hupdate
    rfl

theorem Accepted.stored (haccepted : Accepted env before row after) :
    Stored env before row after := by
  cases haccepted with
  | create auth domain answer hok => exact stored_of_create (Prod.ext hok rfl)
  | update id domain answer hok => exact stored_of_update (Prod.ext hok rfl)

def Redirects (env : Env) (db : Database) (name : Str) : Prop :=
  settingOr (env.reloadFails .safeSearch) db "safe_search_enabled" "false" = str "true" ∧
    (Rewrites.lastAnswer safeSearchRules name).isSome = true

/-- The row that answers for a name: the last one whose domain, in lower case, is the name. -/
def answeringRow (table : Table DnsRewrite.id) (name : Str) : Option DnsRewrite :=
  table.rows.reverse.find? fun row => toLowercase row.domain == name

omit [RegexCrate] [SerdeJson] in
theorem lastAnswer_storedRewrites (db : Database) (name : Str) :
    Rewrites.lastAnswer (storedRewrites db) name =
      (answeringRow db.dnsRewrites name).map DnsRewrite.answer := by
  unfold Rewrites.lastAnswer storedRewrites answeringRow
  rw [← List.map_reverse, List.find?_map, Option.map_map]
  rfl

omit [RegexCrate] [SerdeJson] in
theorem parse_lastAnswer_safeSearchRules {name target : Str}
    (htarget : Rewrites.lastAnswer safeSearchRules name = some target) :
    IpAddr.parse target = none := by
  have hall : ∀ pair ∈ safeSearchRules, IpAddr.parse pair.2 = none := by decide
  obtain ⟨pair, hpair, rfl⟩ := Option.map_eq_some_iff.mp htarget
  exact hall pair (List.mem_reverse.mp (List.mem_of_find?_eq_some hpair))

theorem parse_get_stored_iff (hstored : Stored env before row after) (name : Str) (ip : IpAddr) :
    (after.filter.rewrites.get name).bind IpAddr.parse = some ip ↔ ¬ Redirects env before.db name ∧
        ∃ other, answeringRow (written env before.db.dnsRewrites row) name = some other ∧
          IpAddr.parse other.answer = some ip := by
  have hrewrites : after.filter.rewrites =
      FilterEngine.reloadRewrites env.reloadFails after.db := by
    have hfilter := hstored.filter
    rcases FilterEngine.reload_cases env.reloadFails env.now after.db with
      ⟨-, hnone⟩ | ⟨-, hsome⟩
    · rw [hnone] at hfilter
      cases hfilter
    · rw [hsome] at hfilter
      rw [← Option.some.inj hfilter]
  have hanswering : Rewrites.lastAnswer (storedRewrites after.db) name =
      (answeringRow (written env before.db.dnsRewrites row) name).map DnsRewrite.answer := by
    rw [lastAnswer_storedRewrites, hstored.db]
  have hsetting : ∀ failed key default,
      settingOr failed after.db key default = settingOr failed before.db key default := by
    intro failed key default
    rw [hstored.db]
    rfl
  rw [hrewrites, FilterEngine.get_reloadRewrites_eq, hsetting, hanswering]
  unfold Redirects
  by_cases hon : settingOr (env.reloadFails .safeSearch) before.db "safe_search_enabled" "false" =
      str "true"
  · cases hsafe : Rewrites.lastAnswer safeSearchRules name with
    | some target => simp [hon, parse_lastAnswer_safeSearchRules hsafe]
    | none => simp [hon, Option.bind_eq_some_iff]
  · simp [hon, Option.bind_eq_some_iff]

variable [IpNetCrate] [Wire]

/-- **When an accepted rewrite takes effect.**  After a call that returned a row, a question of the
family of its address for its domain, from a client without group rewrites, is answered with the
address if and only if Safe Search has no target for the name and the last row for the name has that
address.  That row is the one that was written, unless its domain ends in a dot or a later row
differs from it in letter case only. -/
theorem handleInternal_accepted_iff {env : Env} {before after : AppState} {row : DnsRewrite}
    (haccepted : Accepted env before row after) (settings : HandlerSettings) (state : HandlerState)
    {call : Call} {request : Message} {query : Query} {ip : IpAddr}
    (hquestion : call.question = some (request, query)) (hengine : call.engine = after.filter)
    (hgroups : call.config.groupRewrites = none)
    (hname : normalizeQuery query.name = normalizeQuery row.domain)
    (hfamily : ip.recordType = query.queryType) (hip : IpAddr.parse row.answer = some ip) :
    (handleInternal settings state call).2 =
        ⟨Wire.toVec (rewriteMessage request query ip settings.rewriteTtl), .rewritten ip⟩ ↔
      ¬ Redirects env before.db (normalizeQuery row.domain) ∧
        ∃ other, answeringRow (written env before.db.dnsRewrites row) (normalizeQuery row.domain) =
          some other ∧ IpAddr.parse other.answer = IpAddr.parse row.answer := by
  have hgroup : call.config.groupAnswer (trimEndMatches '.' query.name) = none := by
    rw [ClientConfig.groupAnswer, hgroups, Option.bind_none]
  have hanswer : rewriteAnswer call.config call.engine (trimEndMatches '.' query.name) =
      after.filter.rewrites.get (normalizeQuery row.domain) := by
    rw [rewriteAnswer, hgroup, hengine, ← hname]
    rfl
  rw [handleInternal_rewritten_iff settings state hquestion, rewriteAddress, hanswer, hip,
    ← parse_get_stored_iff haccepted.stored]
  cases after.filter.rewrites.get (normalizeQuery row.domain) with
  | none => simp
  | some answer => simp [rewriteRData_eq_some_iff, hfamily]

end Calls

/-! ### A domain with a dot at its end -/

section Dot

attribute [local instance] Unicode.ascii RegexCrate.fragment SerdeJson.plain IpNetCrate.cidr
  Wire.plain

def calmEnv : Env :=
  ⟨str "2026-01-01", fun _ => str "w1", [], noFailure, [], fun _ => false, .inPlace⟩

def bareServer : AppState := ⟨.empty, ⟨.new, .empty⟩, [], [], []⟩

def operator : Claims := ⟨str "u1", str "admin", str "admin", 0, 0, str "j1"⟩

def serverAfter (domain : Str) : AppState :=
  (create calmEnv operator domain (str "10.0.0.1")).exec bareServer

def nasRow (domain : Str) : DnsRewrite :=
  ⟨str "w1", domain, str "10.0.0.1", str "admin", str "2026-01-01"⟩

/-- The rewrite of `nas.lan.` is accepted, and the question for it is passed on. -/
theorem handleInternal_accepted_dot :
    Accepted calmEnv bareServer (nasRow (str "nas.lan.")) (serverAfter (str "nas.lan.")) ∧
      (engineCall (serverAfter (str "nas.lan.")).filter (str "nas.lan.")).question =
        some (exampleRequest 7 (str "nas.lan."), ⟨str "nas.lan.", .a, 1⟩) ∧
      ¬ (handleInternal exampleSettings .empty
          (engineCall (serverAfter (str "nas.lan.")).filter (str "nas.lan."))).2 =
        ⟨Wire.toVec (rewriteMessage (exampleRequest 7 (str "nas.lan.")) ⟨str "nas.lan.", .a, 1⟩
          (.v4 10 0 0 1) exampleSettings.rewriteTtl), .rewritten (.v4 10 0 0 1)⟩ := by
  refine ⟨.create operator (str "nas.lan.") (str "10.0.0.1") rfl, by decide +kernel, ?_⟩
  decide +kernel

/-- That of `NAS.lan` takes effect. -/
theorem handleInternal_accepted_plain :
    (handleInternal exampleSettings .empty
        (engineCall (serverAfter (str "NAS.lan")).filter (str "nas.LAN."))).2 =
      ⟨Wire.toVec (rewriteMessage (exampleRequest 7 (str "nas.LAN.")) ⟨str "nas.LAN.", .a, 1⟩
        (.v4 10 0 0 1) exampleSettings.rewriteTtl), .rewritten (.v4 10 0 0 1)⟩ :=
  (handleInternal_accepted_iff
    (Accepted.create operator (str "NAS.lan") (str "10.0.0.1")
      (show _ = Except.ok (nasRow (str "nas.lan")) from rfl))
    exampleSettings .empty
    (show (engineCall (serverAfter (str "NAS.lan")).filter (str "nas.LAN.")).question =
      some (exampleRequest 7 (str "nas.LAN."), ⟨str "nas.LAN.", .a, 1⟩) by decide +kernel)
    rfl rfl (by decide) rfl (by decide)).mpr
      ⟨fun h => absurd h.1 (by decide), nasRow (str "nas.lan"), by decide +kernel, rfl⟩

end Dot

end RustDns.Api.Rewrites
