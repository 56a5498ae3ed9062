import RustDns.Dns.CacheRuns
import RustDns.Dns.Server

/-!
# Answers from the cache

What a client gets from the response cache of a running server, over every
interleaving of calls.

* **The id and the kind of a message.**  Every reply is a response with the id of
  the request that it answers (`replies_matches`).
* **The rest of the header and the question** come from the request that filled
  the entry.  The key of the cache forgets the letter case and the class of the
  question and the flags (`transparent_of_agrees`).
* **Record TTLs** are those of the moment when the entry was stored
  (`servesAged_iff`).
* **Lifetimes.**  A response that replaces a live entry keeps the expiration of
  that entry (`lifetimesKept_of_storesInTime`).
-/

namespace RustDns

open Machine

section Hits

variable [Unicode] [RegexCrate] [IpNetCrate]

def replies [Wire] (settings : HandlerSettings) (events : List ServerEvent) :
    List (Call × Reply) :=
  (trace (serverStep settings) .start events).filterMap
    fun point => (serverStep settings point.1 point.2).2

variable {settings : HandlerSettings} {query : Query}

theorem forall_replies [Wire] {events : List ServerEvent} {property : Call → Reply → Prop}
    (hstep : ∀ state event call reply, Filled (received events) state → event ∈ events →
      Outputs settings state event call reply → property call reply) :
    ∀ reply ∈ replies settings events, property reply.1 reply.2 := by
  rintro ⟨call, reply⟩ hreply
  obtain ⟨point, hpoint, hout⟩ := List.mem_filterMap.mp hreply
  exact hstep point.1 point.2 call reply ((filled_of_run settings events).2 point hpoint)
    (mem_of_mem_trace _ hpoint) (serverStep_outputs hout)

/-! ## The id and the kind of a message -/

def Matches [Wire] (call : Call) (reply : Reply) : Prop :=
  ∀ bytes, reply.result = some bytes → ∃ request response,
    Wire.fromVec call.data = some request ∧ Wire.fromVec bytes = some response ∧
      response.id = request.id ∧ response.messageType = .response

variable {call : Call} {request : Message}

theorem matches_of_toVec [Wire] {message : Message} {reply : Reply}
    (hdata : Wire.fromVec call.data = some request) (hreply : reply.result = Wire.toVec message)
    (hid : message.id = request.id) (htype : message.messageType = .response) :
    Matches call reply := by
  intro bytes hbytes
  exact ⟨request, message, hdata, Wire.fromVec_toVec (hreply.symm.trans hbytes), hid, htype⟩

theorem fromVec_of_question [Wire] (hquestion : call.question = some (request, query)) :
    Wire.fromVec call.data = some request := by
  unfold Call.question at hquestion
  cases hdata : Wire.fromVec call.data with
  | none => simp [hdata] at hquestion
  | some message =>
    simp only [hdata] at hquestion
    split_ifs at hquestion
    cases hqueries : message.queries with
    | nil => simp [hqueries] at hquestion
    | cons first rest =>
      obtain ⟨rfl, -⟩ : message = request ∧ first = query := by
        simpa [hqueries] using hquestion
      rfl

theorem fromVec_of_passed [Wire] (hpassed : call.passed = some (request, query)) :
    Wire.fromVec call.data = some request :=
  fromVec_of_question (Option.filter_eq_some_iff.mp hpassed).1

theorem toVec_of_rewriteReply [Wire] {reply : IpAddr × Bytes}
    (hreply : rewriteReply settings call request query = some reply) :
    Wire.toVec (rewriteMessage request query reply.1 settings.rewriteTtl) = some reply.2 := by
  obtain ⟨answer, -, hanswer⟩ := Option.bind_eq_some_iff.mp hreply
  obtain ⟨address, -, haddress⟩ := Option.bind_eq_some_iff.mp hanswer
  obtain ⟨bytes, hbytes, heq⟩ := Option.bind_eq_some_iff.mp haddress
  cases heq
  exact hbytes

theorem matches_of_not_passed [Wire] (settings : HandlerSettings) (state : HandlerState)
    (hpassed : call.passed = none) : Matches call (handleInternal settings state call).2 := by
  cases hquestion : call.question with
  | none =>
    unfold Call.question at hquestion
    unfold handleInternal
    cases hdata : Wire.fromVec call.data with
    | none =>
      intro bytes hbytes
      cases hbytes
    | some request =>
      simp only [hdata] at hquestion ⊢
      -- a refused client, a message that is no query, a query without a question
      split_ifs at hquestion ⊢
      · exact matches_of_toVec hdata rfl rfl rfl
      · exact matches_of_toVec hdata rfl rfl rfl
      · cases hqueries : request.queries with
        | nil => exact matches_of_toVec hdata rfl rfl rfl
        | cons first rest => simp [hqueries] at hquestion
  | some found =>
    obtain ⟨request, query⟩ := found
    have hdata := fromVec_of_question hquestion
    rw [handleInternal_of_question hquestion, handleQuery]
    cases hrewrite : rewriteReply settings call request query with
    | some reply =>
      exact matches_of_toVec hdata (toVec_of_rewriteReply hrewrite).symm rfl rfl
    | none =>
      dsimp only
      split_ifs with hblocks
      · exact matches_of_toVec hdata rfl rfl rfl
      · rw [passed_of_not_filterBlocks hquestion hrewrite hblocks] at hpassed
        cases hpassed

section Layout

variable [WireLayout]

omit [Unicode] [RegexCrate] [IpNetCrate] in
theorem fromVec_setId {message : Message} {bytes : Bytes} (hbytes : Wire.toVec message = some bytes)
    (id : UInt16) : Wire.fromVec (setId id bytes) = some { message with id := id } := by
  obtain ⟨tail, htail⟩ := WireLayout.exists_tail hbytes
  have hown : Wire.toVec message =
      some ((toBeBytes message.id).1 :: (toBeBytes message.id).2 :: tail) := htail message.id
  obtain rfl := Option.some.inj (hbytes.symm.trans hown)
  exact Wire.fromVec_toVec (htail id)

/-- An entry that is served is the response to the request that filled it, with
another id. -/
theorem StoredFor.fromVec_setId {calls : Set Call} {key : Str} {entry : CacheEntry}
    (hstored : StoredFor calls key entry) (id : UInt16) :
    ∃ call ∈ calls, ∃ request query, call.passed = some (request, query) ∧
      DnsCache.cacheKey query.name query.queryType = key ∧
      Wire.fromVec (setId id entry.data) =
        some { DnsResolver.response entry.origin.outcome request with id := id } := by
  obtain ⟨call, hcall, request, query, hpassed, hkey, hdata, -⟩ := hstored
  exact ⟨call, hcall, request, query, hpassed, hkey, RustDns.fromVec_setId hdata id⟩

/-- **Every reply is a response with the id of its request**, in every run and
whatever request filled the cache. -/
theorem replies_matches (settings : HandlerSettings) (events : List ServerEvent) :
    ∀ reply ∈ replies settings events, Matches reply.1 reply.2 := by
  apply forall_replies
  intro state event call reply hfilled _ houtputs
  cases houtputs with
  | immediate _ hpassed => exact matches_of_not_passed settings state.view hpassed
  | hit _ request entry hhits =>
    -- whoever filled the entry, the reply has the id that was written into it
    obtain ⟨-, query, hpassed, hentry⟩ := hhits
    obtain ⟨-, -, filler, -, -, -, hread⟩ :=
      (hfilled.stored.find hentry).fromVec_setId request.id
    intro bytes hbytes
    obtain rfl := Option.some.inj hbytes
    exact ⟨request, _, fromVec_of_passed hpassed, hread, rfl, rfl⟩
  | failed _ =>
    intro bytes hbytes
    cases hbytes
  | resolved waiting entry hdata =>
    exact matches_of_toVec (fromVec_of_passed waiting.passed) hdata.symm rfl rfl

end Layout

end Hits

section AskedAgain

attribute [local instance] Unicode.ascii RegexCrate.fragment IpNetCrate.cidr WireLayout.plain

def addressLookup (ttl : UInt32) : Lookup := fun _ _ _ =>
  .records [⟨str "example.com.", .a, ttl, some (.a 192 0 2 1)⟩]

/-- A client without a configuration asks for the address of a name. -/
def askFor (id : UInt16) (name : Str) (ttl : UInt32) : Call :=
  { exampleCall id .default (addressLookup ttl) with
    data := PlainWire.write (exampleRequest id name) }

def addressOrigin (ttl : UInt32) : Origin :=
  ⟨.pool (examplePoolNode (str "1.1.1.1") 1),
    .records [⟨str "example.com.", .a, ttl, some (.a 192 0 2 1)⟩]⟩

/-- A question is asked and answered, and asked again by a client with another
id. -/
def askedAgain : List ServerEvent :=
  [.receive (askFor 7 (str "example.com.") 300), .complete 0,
    .receive (askFor 8 (str "example.com.") 300)]

theorem call_of_receive {state : ServerState} {call : Call} {answer : Call × Reply}
    (hanswer : (receive exampleSettings state call).2 = some answer) : answer.1 = call := by
  unfold receive at hanswer
  split at hanswer
  · exact (congrArg Prod.fst (Option.some.inj hanswer)).symm
  · split at hanswer
    · exact (congrArg Prod.fst (Option.some.inj hanswer)).symm
    · cases hanswer

/-- The second client is answered as it comes in, from the cache that the first one filled. -/
theorem receive_eq_handleInternal_askedAgain :
    let state := run (serverStep exampleSettings) .start (askedAgain.take 2)
    let call := askFor 8 (str "example.com.") 300
    ∃ reply, reply.via = .cached (addressOrigin 300) ∧
      receive exampleSettings state call = (state, some (call, reply)) ∧
      reply = (handleInternal exampleSettings state.view call).2 := by
  intro state call
  have hany : (receive exampleSettings state call).2.any
      (fun answer => answer.2.via = .cached (addressOrigin 300)) = true := by decide +kernel
  obtain ⟨answer, hanswer, hvia⟩ := (Option.any_eq_true _ _).mp hany
  obtain ⟨asked, reply⟩ := answer
  obtain rfl : asked = call := call_of_receive hanswer
  have hreceive : receive exampleSettings state call =
      ((receive exampleSettings state call).1, some (call, reply)) := Prod.ext rfl hanswer
  obtain ⟨hafter, hreply⟩ := receive_eq_handleInternal hreceive
  exact ⟨reply, of_decide_eq_true hvia, hafter ▸ hreceive, hreply⟩

theorem complete_receive_eq_handleInternal_askFor :
    let call := askFor 7 (str "example.com.") 300
    (serverStep exampleSettings (receive exampleSettings .start call).1 (.complete 0)).2 =
      some (call, (handleInternal exampleSettings ServerState.start.view call).2) := by
  intro call
  have hwaits : (receive exampleSettings .start call).2.isNone = true := by decide +kernel
  have hreceive : receive exampleSettings .start call =
      ((receive exampleSettings .start call).1, none) :=
    Prod.ext rfl (Option.isNone_iff_eq_none.mp hwaits)
  exact (complete_receive_eq_handleInternal hreceive).1

/-- The second client is answered from the cache, with its own id. -/
theorem matches_askedAgain :
    ∃ reply ∈ replies exampleSettings askedAgain, reply.2.via = .cached (addressOrigin 300) ∧
      Matches reply.1 reply.2 := by
  have hany : (replies exampleSettings askedAgain).any
      (fun reply => reply.2.via = .cached (addressOrigin 300)) = true := by decide +kernel
  obtain ⟨reply, hreply, hvia⟩ := List.any_eq_true.mp hany
  exact ⟨reply, hreply, of_decide_eq_true hvia,
    replies_matches exampleSettings askedAgain reply hreply⟩

end AskedAgain

/-! ## The question section -/

section Questions

variable [Unicode] [RegexCrate] [IpNetCrate] [WireLayout]

/-- A reply from the cache is the response that `DnsResolver::resolve` builds for
this request; the earlier lookup gives the records and the response code. -/
def Transparent (call : Call) (reply : Reply) : Prop :=
  ∀ origin, reply.via = .cached origin → ∃ request bytes,
    Wire.fromVec call.data = some request ∧ reply.result = some bytes ∧
      Wire.fromVec bytes = some (DnsResolver.response origin.outcome request)

/-- Two requests with one key have the same question section and the same
recursion-desired flag. -/
def Agrees (call other : Call) : Prop :=
  ∀ {request query request' query'}, call.passed = some (request, query) →
    other.passed = some (request', query') →
    DnsCache.cacheKey query.name query.queryType =
      DnsCache.cacheKey query'.name query'.queryType →
    request.queries = request'.queries ∧ request.recursionDesired = request'.recursionDesired

omit [WireLayout] in
theorem via_ne_cached_of_not_passed [Wire] {settings : HandlerSettings} {state : HandlerState}
    {call : Call} (hpassed : call.passed = none) (origin : Origin) :
    (handleInternal settings state call).2.via ≠ .cached origin := by
  intro hvia
  have hsteps := handleInternal_steps settings state call
  rw [hvia] at hsteps
  generalize (handleInternal settings state call).1 = after at hsteps
  cases hsteps with
  | immediate _ horigin => cases horigin
  | cached request query hsome entry hentry => simp [hpassed] at hsome

omit [Unicode] [RegexCrate] [IpNetCrate] [WireLayout] in
theorem response_eq_of_agrees {request request' : Message} (outcome : LookupOutcome)
    (hqueries : request.queries = request'.queries)
    (hdesired : request.recursionDesired = request'.recursionDesired) :
    { DnsResolver.response outcome request' with id := request.id } =
      DnsResolver.response outcome request := by
  simp only [DnsResolver.response, hqueries, hdesired]

/-- **Answers from the cache are transparent in runs whose requests agree.** -/
theorem transparent_of_agrees (settings : HandlerSettings) (events : List ServerEvent)
    (hagrees : ∀ call ∈ received events, ∀ other ∈ received events, Agrees call other) :
    ∀ reply ∈ replies settings events, Transparent reply.1 reply.2 := by
  apply forall_replies
  intro state event call reply hfilled hevent houtputs origin hvia
  cases houtputs with
  | immediate _ hpassed => exact absurd hvia (via_ne_cached_of_not_passed hpassed origin)
  | hit _ request entry hhits =>
    obtain ⟨rfl, query, hpassed, hentry⟩ := hhits
    obtain rfl := Via.cached.inj hvia
    -- the call that filled the entry has the same key, so it agrees with this one
    obtain ⟨other, hother, request', query', hpassed', hkey, hread⟩ :=
      (hfilled.stored.find hentry).fromVec_setId request.id
    obtain ⟨hqueries, hdesired⟩ := hagrees call hevent other hother hpassed hpassed' hkey.symm
    rw [response_eq_of_agrees _ hqueries hdesired] at hread
    exact ⟨request, _, fromVec_of_passed hpassed, rfl, hread⟩
  | failed _ => cases hvia
  | resolved waiting entry hdata => cases hvia

end Questions

section AskedAgain

attribute [local instance] Unicode.ascii RegexCrate.fragment IpNetCrate.cidr WireLayout.plain

/-- A client that writes the name in upper case gets the question of another
client, in lower case. -/
theorem not_transparent_upperCase :
    ¬ ∀ reply ∈ replies exampleSettings
        [.receive (askFor 7 (str "example.com.") 300), .complete 0,
          .receive (askFor 8 (str "EXAMPLE.com.") 300)],
      Transparent reply.1 reply.2 := by
  intro htransparent
  have hany : (replies exampleSettings
      [.receive (askFor 7 (str "example.com.") 300), .complete 0,
        .receive (askFor 8 (str "EXAMPLE.com.") 300)]).any
      (fun reply => reply.1.data = PlainWire.write (exampleRequest 8 (str "EXAMPLE.com.")) ∧
        reply.2 = ⟨some (PlainWire.write (DnsResolver.response (addressOrigin 300).outcome
          (exampleRequest 8 (str "example.com.")))), .cached (addressOrigin 300)⟩) = true := by
    decide +kernel
  obtain ⟨⟨call, reply⟩, hmem, heq⟩ := List.any_eq_true.mp hany
  obtain ⟨hdata, rfl⟩ := of_decide_eq_true heq
  obtain ⟨request, bytes, hrequest, hbytes, hread⟩ := htransparent _ hmem _ rfl
  obtain rfl := Option.some.inj hbytes
  dsimp only at hdata hrequest
  rw [hdata] at hrequest
  obtain rfl := Option.some.inj ((PlainWire.read_write _).symm.trans hrequest)
  have hresponse := Option.some.inj ((PlainWire.read_write _).symm.trans hread)
  exact absurd hresponse (by decide +kernel)

/-- The two clients of one name agree, so the second gets its own question. -/
theorem transparent_askedAgain :
    ∃ reply ∈ replies exampleSettings askedAgain, reply.2.via = .cached (addressOrigin 300) ∧
      Transparent reply.1 reply.2 := by
  have hany : (replies exampleSettings askedAgain).any
      (fun reply => reply.2.via = .cached (addressOrigin 300)) = true := by decide +kernel
  have hpassed : ∀ call ∈ received askedAgain, ∃ id,
      call.passed = some (exampleRequest id (str "example.com."), ⟨str "example.com.", .a, 1⟩) := by
    intro call hcall
    simp only [received, askedAgain, Set.mem_ofPred_eq, List.mem_cons, ServerEvent.receive.injEq,
      reduceCtorEq, List.not_mem_nil, or_false, false_or] at hcall
    rcases hcall with rfl | rfl
    · exact ⟨7, by decide +kernel⟩
    · exact ⟨8, by decide +kernel⟩
  obtain ⟨reply, hreply, hvia⟩ := List.any_eq_true.mp hany
  refine ⟨reply, hreply, of_decide_eq_true hvia,
    transparent_of_agrees exampleSettings askedAgain ?_ reply hreply⟩
  intro call hcall other hother request query request' query' hquestion hquestion' hkey
  obtain ⟨id, hid⟩ := hpassed call hcall
  obtain ⟨id', hid'⟩ := hpassed other hother
  obtain ⟨rfl, -⟩ := Prod.mk.inj (Option.some.inj (hid.symm.trans hquestion))
  obtain ⟨rfl, -⟩ := Prod.mk.inj (Option.some.inj (hid'.symm.trans hquestion'))
  exact ⟨rfl, rfl⟩

end AskedAgain

/-! ## Record TTLs -/

section Ageing

variable [Unicode] [RegexCrate] [IpNetCrate] [WireLayout]

/-- A record served now has at most the TTL that is left of a stored one, rounded
up to a whole second. -/
def AgedFrom (elapsed : ℕ) (served stored : Record) : Prop :=
  served.ttl.toNat ≤ (stored.ttl.toNat * second - elapsed) ⌈/⌉ second

/-- The event leads to a reply whose records have aged as long as the entry is
old. -/
def AgedReply (settings : HandlerSettings) (state : ServerState) (event : ServerEvent)
    (call : Call) (entry : Stamped CacheEntry) : Prop :=
  ∃ reply bytes served stored, (serverStep settings state event).2 = some (call, reply) ∧
    reply.result = some bytes ∧ Wire.fromVec bytes = some served ∧
    Wire.fromVec entry.value.data = some stored ∧
    List.Forall₂ (AgedFrom (state.now - entry.storedAt)) served.answers stored.answers

def IsFresh (state : ServerState) (entry : Stamped CacheEntry) : Prop :=
  state.now - entry.storedAt < second ∨
    ∀ record ∈ entry.value.origin.outcome.answers, record.ttl = 0

instance (state : ServerState) (entry : Stamped CacheEntry) : Decidable (IsFresh state entry) :=
  inferInstanceAs (Decidable (_ ∨ _))

omit [Unicode] [RegexCrate] [IpNetCrate] [WireLayout] in
/-- An unchanged TTL is right for less than a second, unless it is zero. -/
theorem agedFrom_self_iff {elapsed : ℕ} {record : Record} :
    AgedFrom elapsed record record ↔ elapsed < second ∨ record.ttl = 0 := by
  have hzero : record.ttl = 0 ↔ record.ttl.toNat = 0 := by
    rw [← UInt32.toNat_inj]
    rfl
  unfold AgedFrom
  rw [Nat.ceilDiv_eq_add_pred_div, Nat.le_div_iff_mul_le (by decide), hzero]
  unfold second
  omega

theorem answers_of_storedFor {calls : Set Call} {key : Str} {entry : CacheEntry}
    (hstored : StoredFor calls key entry) (id : UInt16) : ∃ served stored,
      Wire.fromVec (setId id entry.data) = some served ∧
      Wire.fromVec entry.data = some stored ∧
      served.answers = entry.origin.outcome.answers ∧
      stored.answers = entry.origin.outcome.answers := by
  obtain ⟨call, hcall, request, query, hpassed, hkey, hdata, httl⟩ := hstored
  exact ⟨_, _, fromVec_setId hdata id, Wire.fromVec_toVec hdata, rfl, rfl⟩

theorem agedReply_iff {settings : HandlerSettings} {calls : Set Call} {state : ServerState}
    {event : ServerEvent} {call : Call} {request : Message} {entry : Stamped CacheEntry}
    (hfilled : Filled calls state) (hhits : Hits state event call request entry) :
    AgedReply settings state event call entry ↔ IsFresh state entry := by
  obtain ⟨query, -, hentry⟩ := hhits.found
  obtain ⟨served, stored, hserved, hstored, hanswers, hanswers'⟩ :=
    answers_of_storedFor (hfilled.stored.find hentry) request.id
  -- served and stored records are the same, so each one is compared with itself
  have hfresh : IsFresh state entry ↔
      List.Forall₂ (AgedFrom (state.now - entry.storedAt)) served.answers stored.answers := by
    rw [hanswers, hanswers', List.forall₂_same]
    simp only [agedFrom_self_iff, IsFresh]
    by_cases hyoung : state.now - entry.storedAt < second
    · simp [hyoung]
    · simp [hyoung]
  rw [hfresh, AgedReply, hhits.serverStep_eq settings]
  constructor
  · rintro ⟨reply, bytes, served', stored', hreply, hbytes, hserved', hstored', haged⟩
    obtain ⟨-, rfl⟩ := Prod.mk.inj (Option.some.inj hreply)
    cases hbytes
    obtain rfl := Option.some.inj (hserved.symm.trans hserved')
    obtain rfl := Option.some.inj (hstored.symm.trans hstored')
    exact haged
  · intro haged
    exact ⟨_, _, served, stored, rfl, rfl, hserved, hstored, haged⟩

def ServesAged (settings : HandlerSettings) (events : List ServerEvent) : Prop :=
  ∀ point ∈ trace (serverStep settings) .start events, ∀ call request entry,
    Hits point.1 point.2 call request entry →
      AgedReply settings point.1 point.2 call entry

/-- **Served TTLs have aged exactly in the runs that answer from fresh entries
only.** -/
theorem servesAged_iff (settings : HandlerSettings) (events : List ServerEvent) :
    ServesAged settings events ↔
      ∀ point ∈ trace (serverStep settings) .start events, ∀ call request entry,
        Hits point.1 point.2 call request entry → IsFresh point.1 entry := by
  refine forall₂_congr fun point hpoint => forall₂_congr fun call request =>
    forall₂_congr fun entry hhits => ?_
  exact agedReply_iff ((filled_of_run settings events).2 point hpoint) hhits

end Ageing

section AskedAgain

attribute [local instance] Unicode.ascii RegexCrate.fragment IpNetCrate.cidr WireLayout.plain

/-- Two seconds after it was stored, an address is still served with its full
TTL. -/
theorem not_servesAged_askFor :
    ¬ ServesAged exampleSettings
      ([.receive (askFor 7 (str "example.com.") 300), .complete 0, .tick (2 * second)] ++
        [.receive (askFor 8 (str "example.com.") 300)]) := by
  intro haged
  set events : List ServerEvent :=
    [.receive (askFor 7 (str "example.com.") 300), .complete 0, .tick (2 * second)]
  have hpoint := mem_trace_append (serverStep exampleSettings) .start events
    (.receive (askFor 8 (str "example.com.") 300)) []
  have hhits : Hits (run (serverStep exampleSettings) .start events)
      (.receive (askFor 8 (str "example.com.") 300)) (askFor 8 (str "example.com.") 300)
      (exampleRequest 8 (str "example.com."))
      ⟨⟨PlainWire.write (DnsResolver.response (addressOrigin 300).outcome
        (exampleRequest 7 (str "example.com."))), 300, addressOrigin 300⟩, 0, 300 * second⟩ :=
    ⟨rfl, ⟨str "example.com.", .a, 1⟩, by decide +kernel, by decide +kernel⟩
  have hfilled := (filled_of_run exampleSettings _).2 _ hpoint
  have hfresh := (agedReply_iff hfilled hhits).mp (haged _ hpoint _ _ _ hhits)
  revert hfresh
  decide +kernel

end AskedAgain

/-! ## Lifetimes -/

section Lifetimes

variable [Unicode] [RegexCrate] [IpNetCrate] [Wire]

/-- No response is found later than its minimum TTL, within the limits of
`set_with_ttl`, allows, counted from when it was stored. -/
def LifetimesKept (state : ServerState) : Prop :=
  ∀ key entry, state.cache.find state.now key = some entry →
    state.now ≤ entry.storedAt +
      DnsCache.ttlSecs (minTtl entry.value.origin.outcome.answers) * second

/-- If the event completes a call whose key has a live entry, that entry expires
no later than the new response has to. -/
def StoresInTime (settings : HandlerSettings) (state : ServerState) : ServerEvent → Prop
  | .complete index =>
    ∀ waiting ∈ state.waiting[index]?,
      ∀ old ∈ state.cache.find state.now
        (DnsCache.cacheKey waiting.query.name waiting.query.queryType),
      ∀ outcome ∈ waiting.outcome settings state,
        old.expiresAt ≤ state.now + DnsCache.ttlSecs (minTtl outcome.answers) * second
  | _ => True

instance (settings : HandlerSettings) (state : ServerState) :
    DecidablePred (StoresInTime settings state)
  | .complete _ => inferInstanceAs (Decidable (∀ _ ∈ _, ∀ _ ∈ _, ∀ _ ∈ _, _ ≤ _))
  | .tick _ => .isTrue trivial
  | .receive _ => .isTrue trivial
  | .forget _ _ => .isTrue trivial

theorem timely_step {settings : HandlerSettings} {state : ServerState} {event : ServerEvent}
    (htimely : state.cache.Timely CacheEntry.lifetime)
    (hevent : StoresInTime settings state event) :
    (serverStep settings state event).1.cache.Timely CacheEntry.lifetime := by
  cases event with
  | tick nanos => exact htimely
  | forget responses resolvers => exact htimely.discard responses
  | receive call =>
    change (receive settings state call).1.cache.Timely _
    have hreceives := receive_receives settings state call
    generalize receive settings state call = after at hreceives
    cases hreceives <;> exact htimely
  | complete index =>
    cases hindex : state.waiting[index]? with
    | none =>
      rw [serverStep_complete_none hindex]
      exact htimely
    | some waiting =>
      rw [serverStep_complete hindex]
      have hcompletes := completeWaiting_completes settings
        { state with waiting := state.waiting.eraseIdx index } waiting
      generalize completeWaiting settings _ waiting = after at hcompletes
      cases hcompletes with
      | failed resolvers => exact htimely
      | stored resolvers entry houtcome hdata httl =>
        -- a live entry passes its expiration on to the new response
        refine htimely.insert fun old hold => ?_
        rw [CacheEntry.lifetime, httl]
        exact hevent waiting hindex old hold entry.origin.outcome houtcome

/-- **Lifetimes are kept in runs that never store a response under an entry that
outlasts it.** -/
theorem lifetimesKept_of_storesInTime (settings : HandlerSettings) (events : List ServerEvent)
    (hevents : ∀ point ∈ trace (serverStep settings) .start events,
      StoresInTime settings point.1 point.2) :
    LifetimesKept (run (serverStep settings) .start events) ∧
      ∀ point ∈ trace (serverStep settings) .start events, LifetimesKept point.1 := by
  have hkept : ∀ {state : ServerState}, state.cache.Timely CacheEntry.lifetime →
      Filled (received events) state → LifetimesKept state := by
    intro state htimely hfilled key entry hentry
    obtain ⟨-, -, -, -, -, -, -, httl⟩ := hfilled.stored.find hentry
    have hlt := htimely.find hentry
    rw [CacheEntry.lifetime, httl] at hlt
    exact hlt.le
  have hstart : ServerState.start.cache.Timely CacheEntry.lifetime := ExpiringCache.forall_empty _
  obtain ⟨hlast, hpoints⟩ := forall_trace (serverStep settings)
    (fun state => state.cache.Timely CacheEntry.lifetime)
    (fun state event => StoresInTime settings state event)
    (fun _ _ htimely hevent => timely_step htimely hevent)
    hstart events hevents
  obtain ⟨hfilled, hfilleds⟩ := filled_of_run settings events
  exact ⟨hkept hlast hfilled, fun point hpoint => hkept (hpoints point hpoint)
    (hfilleds point hpoint)⟩

end Lifetimes

section AskedTwice

attribute [local instance] Unicode.ascii RegexCrate.fragment IpNetCrate.cidr Wire.plain

/-- Two clients ask for a name at the same time, and are answered with these
TTLs. -/
def askedTwice (first second : UInt32) : List ServerEvent :=
  [.receive (askFor 7 (str "example.com.") first),
    .receive (askFor 8 (str "example.com.") second), .complete 0, .complete 0]

/-- A response with a TTL of five seconds that replaces one of a day is found
after six. -/
theorem not_lifetimesKept_askedTwice :
    ¬ LifetimesKept (run (serverStep exampleSettings) .start
      (askedTwice 86400 5 ++ [.tick (6 * second)])) := by
  intro hkept
  have hnow := hkept (str "example.com.:A")
    ⟨⟨PlainWire.write (DnsResolver.response (addressOrigin 5).outcome
      (exampleRequest 8 (str "example.com."))), 5, addressOrigin 5⟩, 0, 86400 * second⟩
    (by decide +kernel)
  revert hnow
  decide +kernel

/-- The other way round the lifetimes are kept. -/
theorem lifetimesKept_askedTwice :
    (∀ point ∈ trace (serverStep exampleSettings) .start
        (askedTwice 5 86400 ++ [.tick (4 * second)]),
      StoresInTime exampleSettings point.1 point.2) ∧
    LifetimesKept (run (serverStep exampleSettings) .start
      (askedTwice 5 86400 ++ [.tick (4 * second)])) := by
  have hevents : ∀ point ∈ trace (serverStep exampleSettings) .start
      (askedTwice 5 86400 ++ [.tick (4 * second)]),
      StoresInTime exampleSettings point.1 point.2 := by
    decide +kernel
  exact ⟨hevents, (lifetimesKept_of_storesInTime exampleSettings _ hevents).1⟩

end AskedTwice

end RustDns
