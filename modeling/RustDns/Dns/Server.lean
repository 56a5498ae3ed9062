import RustDns.Expiring
import RustDns.Machine
import RustDns.Dns.Handler

/-!
# The server

`handleInternal` treats a call as one step.  The server handles many calls at a
time, and a call that misses the response cache waits for an upstream while
others go on.  Here a call therefore has two steps: it is received, and answered
at once or left waiting; and a waiting call is completed, which stores the
response.  Calls are completed in any order.

The response cache is a `moka` cache with an expiration for new entries only, so
a response that replaces another one keeps the expiration it finds.

A call that is completed right after it was received behaves as `handleInternal`
(`receive_eq_handleInternal`, `complete_receive_eq_handleInternal`).
-/

namespace RustDns

open Machine

def second : ℕ := 1000000000

def CacheEntry.lifetime (entry : CacheEntry) : ℕ := entry.ttl * second

section Server

variable [Unicode] [RegexCrate] [IpNetCrate] [Wire]

/-! ## Asking an upstream -/

/-- The resolve step without what it stores: the client resolvers after it, and
the answer with its origin. -/
def fetch (settings : HandlerSettings) (resolvers : MokaCache DnsResolver) (call : Call)
    (request : Message) (query : Query) : MokaCache DnsResolver × Option (Answer × Origin) :=
  match call.config.upstreamUrls with
  | some upstreams =>
    let (resolver, state) := getOrCreateClientResolver settings ⟨.empty, resolvers⟩ upstreams
    (state.clientResolvers,
      (resolver.resolve call.lookup query.name query.queryType request).map
        (·, ⟨.client resolver, call.lookup resolver query.name query.queryType⟩))
  | none =>
    (resolvers,
      match call.pool.resolveWithNode call.shuffle call.lookup query.name query.queryType
        request with
      | .error _ => none
      | .ok (node, answer) =>
        some (answer, ⟨.pool node, call.lookup node.resolver query.name query.queryType⟩))

theorem resolveQuery_eq_fetch (settings : HandlerSettings) (state : HandlerState) (call : Call)
    (request : Message) (query : Query) :
    resolveQuery settings state call request query =
      match fetch settings state.clientResolvers call request query with
      | (resolvers, none) => ({ state with clientResolvers := resolvers }, ⟨none, .failed⟩)
      | (resolvers, some (answer, origin)) =>
        storeAnswer { state with clientResolvers := resolvers } query answer origin := by
  unfold resolveQuery fetch
  cases call.config.upstreamUrls with
  | some upstreams =>
    cases hresolver : state.clientResolvers.get (resolverKey upstreams) with
    | some resolver =>
      simp only [getOrCreateClientResolver, hresolver]
      cases resolver.resolve call.lookup query.name query.queryType request <;> rfl
    | none =>
      simp only [getOrCreateClientResolver, hresolver]
      cases DnsResolver.resolve _ call.lookup query.name query.queryType request <;> rfl
  | none =>
    dsimp only
    cases call.pool.resolveWithNode call.shuffle call.lookup query.name query.queryType
      request <;> rfl

variable {settings : HandlerSettings} {call : Call} {state : ServerState}

variable {request : Message} {query : Query} {reply : Reply} {index : ℕ} {event : ServerEvent}

/-- What is fetched is the response of `DnsResolver::resolve` to the request, for
the lookup that the origin names. -/
theorem response_of_fetch {resolvers after : MokaCache DnsResolver} {answer : Answer}
    {origin : Origin}
    (hfetch : fetch settings resolvers call request query = (after, some (answer, origin))) :
    Wire.toVec (DnsResolver.response origin.outcome request) = some answer.response ∧
      answer.minTtl = minTtl origin.outcome.answers := by
  have hanswer : ∀ {outcome found}, DnsResolver.answer outcome request = some found →
      Wire.toVec (DnsResolver.response outcome request) = some found.response ∧
        found.minTtl = minTtl outcome.answers := by
    intro outcome found hfound
    obtain ⟨bytes, hbytes, rfl⟩ := Option.map_eq_some_iff.mp hfound
    exact ⟨hbytes, rfl⟩
  unfold fetch at hfetch
  cases hupstreams : call.config.upstreamUrls with
  | some upstreams =>
    simp only [hupstreams] at hfetch
    obtain ⟨found, hfound, heq⟩ := Option.map_eq_some_iff.mp (Prod.mk.inj hfetch).2
    cases heq
    exact hanswer hfound
  | none =>
    simp only [hupstreams] at hfetch
    cases hnode : call.pool.resolveWithNode call.shuffle call.lookup query.name query.queryType
      request with
    | error err => simp [hnode] at hfetch
    | ok found =>
      obtain ⟨node, answer'⟩ := found
      simp only [hnode, Prod.mk.injEq, Option.some.injEq] at hfetch
      obtain ⟨-, rfl, rfl⟩ := hfetch
      obtain ⟨-, found, hfound, rfl⟩ := UpstreamPool.tryNodes_eq_ok hnode
      obtain ⟨hbytes, hmin⟩ := hanswer hfound
      exact ⟨hbytes, hmin⟩

/-! ## The state of the server -/

structure Waiting where
  call : Call
  request : Message
  query : Query
  passed : call.passed = some (request, query)

structure ServerState where
  now : ℕ
  cache : ExpiringCache Str CacheEntry
  clientResolvers : MokaCache DnsResolver
  waiting : List Waiting

def ServerState.start : ServerState := ⟨0, .empty, .empty, []⟩

def ServerState.view (state : ServerState) : HandlerState :=
  ⟨⟨state.cache.get state.now⟩, state.clientResolvers⟩

inductive ServerEvent where
  /-- Time passes. -/
  | tick (nanos : ℕ)
  /-- A request comes in. -/
  | receive (call : Call)
  /-- The upstream answers the waiting call with this number. -/
  | complete (index : ℕ)
  /-- The caches lose entries before they expire. -/
  | forget (responses resolvers : Str → Bool)

/-- The first part of a call. -/
def receive (settings : HandlerSettings) (state : ServerState) (call : Call) :
    ServerState × Option (Call × Reply) :=
  match hpassed : call.passed with
  | none => (state, some (call, (handleInternal settings state.view call).2))
  | some (request, query) =>
    match state.cache.get state.now (DnsCache.cacheKey query.name query.queryType) with
    | some entry =>
      (state, some (call, ⟨some (setId request.id entry.data), .cached entry.origin⟩))
    | none =>
      ({ state with waiting := state.waiting ++ [⟨call, request, query, hpassed⟩] }, none)

/-- `DnsCache::set_with_ttl` on the cache with a clock. -/
def storeEntry (state : ServerState) (query : Query) (entry : CacheEntry) : ServerState :=
  { state with
    cache := state.cache.insert state.now entry.lifetime
      (DnsCache.cacheKey query.name query.queryType) entry }

def completeWaiting (settings : HandlerSettings) (state : ServerState) (waiting : Waiting) :
    ServerState × Reply :=
  match fetch settings state.clientResolvers waiting.call waiting.request waiting.query with
  | (resolvers, none) => ({ state with clientResolvers := resolvers }, ⟨none, .failed⟩)
  | (resolvers, some (answer, origin)) =>
    match Wire.fromVec answer.response with
    | none => ({ state with clientResolvers := resolvers }, ⟨none, .failed⟩)
    | some _ =>
      (storeEntry { state with clientResolvers := resolvers } waiting.query
          ⟨answer.response, DnsCache.ttlSecs answer.minTtl, origin⟩,
        ⟨some answer.response, .resolved origin⟩)

/-- One event, with the reply that it leads to and the call that gets it. -/
def serverStep (settings : HandlerSettings) (state : ServerState) :
    ServerEvent → ServerState × Option (Call × Reply)
  | .tick nanos => ({ state with now := state.now + nanos }, none)
  | .receive call => receive settings state call
  | .complete index =>
    match state.waiting[index]? with
    | none => (state, none)
    | some waiting =>
      let after := completeWaiting settings
        { state with waiting := state.waiting.eraseIdx index } waiting
      (after.1, some (waiting.call, after.2))
  | .forget responses resolvers =>
    ({ state with
        cache := state.cache.discard responses
        clientResolvers := state.clientResolvers.discard resolvers }, none)

/-! ## A call that is not interleaved -/

theorem handleInternal_of_passed {state : HandlerState}
    (hpassed : call.passed = some (request, query)) :
    handleInternal settings state call =
      match DnsCache.get state.cache query.name query.queryType with
      | some entry => (state, ⟨some (setId request.id entry.data), .cached entry.origin⟩)
      | none => resolveQuery settings state call request query := by
  obtain ⟨hquestion, hfilter⟩ := Option.filter_eq_some_iff.mp hpassed
  have hdecision : decision call.config call.engine query.name query.queryType = .passed :=
    of_decide_eq_true hfilter
  have haddress := rewriteReply_map_fst settings call request query
  unfold decision at hdecision
  dsimp only at hdecision
  rw [handleInternal_of_question hquestion, handleQuery]
  cases hrewrite : rewriteReply settings call request query with
  | some reply =>
    rw [hrewrite, Option.map_some] at haddress
    rw [← haddress] at hdecision
    cases hdecision
  | none =>
    rw [hrewrite, Option.map_none] at haddress
    rw [← haddress] at hdecision
    dsimp only at hdecision ⊢
    split_ifs at hdecision ⊢ with hblocks
    rfl

/-- A call that is answered when it is received is answered as by
`handleInternal`, and changes nothing. -/
theorem receive_eq_handleInternal {after : ServerState}
    (hreceive : receive settings state call = (after, some (call, reply))) :
    after = state ∧ reply = (handleInternal settings state.view call).2 := by
  unfold receive at hreceive
  split at hreceive
  · obtain ⟨rfl, hreply⟩ := Prod.mk.inj hreceive
    exact ⟨rfl, (Prod.mk.inj (Option.some.inj hreply)).2.symm⟩
  · rename_i request query hpassed
    split at hreceive
    · rename_i entry hentry
      obtain ⟨rfl, hreply⟩ := Prod.mk.inj hreceive
      refine ⟨rfl, ?_⟩
      have hget : DnsCache.get state.view.cache query.name query.queryType = some entry := hentry
      rw [handleInternal_of_passed hpassed, hget]
      exact (Prod.mk.inj (Option.some.inj hreply)).2.symm
    · cases hreceive

theorem view_storeEntry (state : ServerState) {entry : CacheEntry}
    (hfree : state.cache.get state.now (DnsCache.cacheKey query.name query.queryType) = none)
    (hlifetime : 0 < entry.lifetime) :
    (storeEntry state query entry).view =
      { state.view with
        cache :=
          state.view.cache.insert (DnsCache.cacheKey query.name query.queryType) entry } := by
  have hget := ExpiringCache.get_insert_of_get_eq_none hfree hlifetime entry
  refine congrArg (HandlerState.mk · state.clientResolvers) (congrArg MokaCache.mk ?_)
  exact funext hget

omit [Unicode] [RegexCrate] [IpNetCrate] [Wire] in
theorem lifetime_pos (data : Bytes) (minTtl : Option UInt32) (origin : Origin) :
    0 < CacheEntry.lifetime ⟨data, DnsCache.ttlSecs minTtl, origin⟩ := by
  have httl : 0 < DnsCache.ttlSecs minTtl :=
    lt_of_lt_of_le (by decide) (le_max_left DnsCache.ttlMinSecs _)
  exact Nat.mul_pos httl (by decide)

/-- A completed call whose key is still free is answered as by the resolve step. -/
theorem completeWaiting_eq_resolveQuery (settings : HandlerSettings) (state : ServerState)
    (waiting : Waiting)
    (hfree : state.cache.get state.now
      (DnsCache.cacheKey waiting.query.name waiting.query.queryType) = none) :
    let after := completeWaiting settings state waiting
    (after.1.view, after.2) =
        resolveQuery settings state.view waiting.call waiting.request waiting.query ∧
      after.1.waiting = state.waiting ∧ after.1.now = state.now := by
  have hresolvers : state.view.clientResolvers = state.clientResolvers := rfl
  rw [resolveQuery_eq_fetch, hresolvers]
  unfold completeWaiting
  cases fetch settings state.clientResolvers waiting.call waiting.request waiting.query with
  | mk resolvers found =>
    cases found with
    | none => exact ⟨rfl, rfl, rfl⟩
    | some found =>
      obtain ⟨answer, origin⟩ := found
      dsimp only [storeAnswer]
      cases Wire.fromVec answer.response with
      | none => exact ⟨rfl, rfl, rfl⟩
      | some message =>
        have hview := view_storeEntry { state with clientResolvers := resolvers } hfree
          (lifetime_pos answer.response answer.minTtl origin)
        exact ⟨congrArg (·, _) hview, rfl, rfl⟩

/-- A call that waits and is completed at once is answered as by
`handleInternal`, and leaves behind what that does. -/
theorem complete_receive_eq_handleInternal {waited : ServerState}
    (hreceive : receive settings state call = (waited, none)) :
    let after := serverStep settings waited (.complete state.waiting.length)
    after.2 = some (call, (handleInternal settings state.view call).2) ∧
      after.1.view = (handleInternal settings state.view call).1 ∧
      after.1.waiting = state.waiting ∧ after.1.now = state.now := by
  unfold receive at hreceive
  split at hreceive
  · cases hreceive
  rename_i request query hpassed
  split at hreceive
  · cases hreceive
  rename_i hmiss
  obtain ⟨rfl, -⟩ := Prod.mk.inj hreceive
  -- nothing has happened in between, so the key is still free
  have hget : DnsCache.get state.view.cache query.name query.queryType = none := hmiss
  obtain ⟨hresolve, hwaiting, hnow⟩ :=
    completeWaiting_eq_resolveQuery settings state ⟨call, request, query, hpassed⟩ hmiss
  rw [handleInternal_of_passed hpassed, hget]
  dsimp only at hresolve ⊢
  rw [← hresolve]
  simp [serverStep, List.eraseIdx_append_of_length_le, hwaiting, hnow]

/-! ## What a step can do -/

inductive Receives (settings : HandlerSettings) (state : ServerState) (call : Call) :
    ServerState × Option (Call × Reply) → Prop where
  /-- The question is not passed on. -/
  | immediate (hpassed : call.passed = none) :
      Receives settings state call
        (state, some (call, (handleInternal settings state.view call).2))
  /-- The question is answered from the cache. -/
  | hit (request : Message) (query : Query) (hpassed : call.passed = some (request, query))
      (entry : Stamped CacheEntry)
      (hentry : state.cache.find state.now (DnsCache.cacheKey query.name query.queryType) =
        some entry) :
      Receives settings state call
        (state, some (call, ⟨some (setId request.id entry.value.data),
          .cached entry.value.origin⟩))
  /-- The call waits. -/
  | waits (request : Message) (query : Query) (hpassed : call.passed = some (request, query)) :
      Receives settings state call
        ({ state with waiting := state.waiting ++ [⟨call, request, query, hpassed⟩] }, none)

theorem receive_receives (settings : HandlerSettings) (state : ServerState) (call : Call) :
    Receives settings state call (receive settings state call) := by
  unfold receive
  split
  · rename_i hpassed
    exact .immediate hpassed
  · rename_i request query hpassed
    split
    · rename_i entry hentry
      obtain ⟨stamped, hstamped, rfl⟩ := ExpiringCache.get_eq_some.mp hentry
      exact .hit request query hpassed stamped hstamped
    · exact .waits request query hpassed

def Waiting.outcome (settings : HandlerSettings) (state : ServerState) (waiting : Waiting) :
    Option LookupOutcome :=
  (fetch settings state.clientResolvers waiting.call waiting.request waiting.query).2.map
    (·.2.outcome)

inductive Completes (settings : HandlerSettings) (state : ServerState) (waiting : Waiting) :
    ServerState × Reply → Prop where
  /-- There is no response. -/
  | failed (resolvers : MokaCache DnsResolver) :
      Completes settings state waiting
        ({ state with clientResolvers := resolvers }, ⟨none, .failed⟩)
  /-- The response to the request is stored and returned. -/
  | stored (resolvers : MokaCache DnsResolver) (entry : CacheEntry)
      (houtcome : waiting.outcome settings state = some entry.origin.outcome)
      (hdata : Wire.toVec (DnsResolver.response entry.origin.outcome waiting.request) =
        some entry.data)
      (httl : entry.ttl = DnsCache.ttlSecs (minTtl entry.origin.outcome.answers)) :
      Completes settings state waiting
        (storeEntry { state with clientResolvers := resolvers } waiting.query entry,
          ⟨some entry.data, .resolved entry.origin⟩)

theorem completeWaiting_completes (settings : HandlerSettings) (state : ServerState)
    (waiting : Waiting) :
    Completes settings state waiting (completeWaiting settings state waiting) := by
  unfold completeWaiting
  cases hfetch : fetch settings state.clientResolvers waiting.call waiting.request
    waiting.query with
  | mk resolvers found =>
    cases found with
    | none => exact .failed resolvers
    | some found =>
      obtain ⟨answer, origin⟩ := found
      obtain ⟨hdata, hmin⟩ := response_of_fetch hfetch
      dsimp only
      cases Wire.fromVec answer.response with
      | none => exact .failed resolvers
      | some message =>
        exact .stored resolvers ⟨answer.response, DnsCache.ttlSecs answer.minTtl, origin⟩
          (by simp only [Waiting.outcome, hfetch, Option.map_some]) hdata (by rw [hmin])

theorem serverStep_complete {waiting : Waiting} (hindex : state.waiting[index]? = some waiting) :
    serverStep settings state (.complete index) =
      let after := completeWaiting settings
        { state with waiting := state.waiting.eraseIdx index } waiting
      (after.1, some (waiting.call, after.2)) := by
  simp only [serverStep, hindex]

theorem serverStep_complete_none (hindex : state.waiting[index]? = none) :
    serverStep settings state (.complete index) = (state, none) := by
  simp only [serverStep, hindex]

structure Hits (state : ServerState) (event : ServerEvent) (call : Call) (request : Message)
    (entry : Stamped CacheEntry) : Prop where
  receives : event = .receive call
  found : ∃ query, call.passed = some (request, query) ∧
    state.cache.find state.now (DnsCache.cacheKey query.name query.queryType) = some entry

theorem Hits.serverStep_eq {entry : Stamped CacheEntry}
    (hhits : Hits state event call request entry) (settings : HandlerSettings) :
    serverStep settings state event = (state, some (call, ⟨some (setId request.id entry.value.data),
        .cached entry.value.origin⟩)) := by
  obtain ⟨rfl, query, hpassed, hentry⟩ := hhits
  have hget : state.cache.get state.now (DnsCache.cacheKey query.name query.queryType) =
      some entry.value := ExpiringCache.get_eq_some.mpr ⟨entry, hentry, rfl⟩
  change receive settings state call = _
  unfold receive
  split
  · rename_i hnone
    rw [hnone] at hpassed
    cases hpassed
  · rename_i request' query' hpassed'
    obtain ⟨rfl, rfl⟩ := Prod.mk.inj (Option.some.inj (hpassed'.symm.trans hpassed))
    rw [hget]

inductive Outputs (settings : HandlerSettings) (state : ServerState) (event : ServerEvent) :
    Call → Reply → Prop where
  | immediate (call : Call) (hpassed : call.passed = none) :
      Outputs settings state event call (handleInternal settings state.view call).2
  | hit (call : Call) (request : Message) (entry : Stamped CacheEntry)
      (hhits : Hits state event call request entry) :
      Outputs settings state event call
        ⟨some (setId request.id entry.value.data), .cached entry.value.origin⟩
  | failed (call : Call) : Outputs settings state event call ⟨none, .failed⟩
  | resolved (waiting : Waiting) (entry : CacheEntry)
      (hdata : Wire.toVec (DnsResolver.response entry.origin.outcome waiting.request) =
        some entry.data) :
      Outputs settings state event waiting.call ⟨some entry.data, .resolved entry.origin⟩

theorem serverStep_outputs (hout : (serverStep settings state event).2 = some (call, reply)) :
    Outputs settings state event call reply := by
  cases event with
  | tick nanos => cases hout
  | forget responses resolvers => cases hout
  | receive call' =>
    change (receive settings state call').2 = _ at hout
    have hreceives := receive_receives settings state call'
    generalize receive settings state call' = after at hreceives hout
    cases hreceives with
    | immediate hpassed =>
      cases hout
      exact .immediate call hpassed
    | hit request query hpassed entry hentry =>
      cases hout
      exact .hit call request entry ⟨rfl, query, hpassed, hentry⟩
    | waits request query hpassed => cases hout
  | complete index =>
    cases hindex : state.waiting[index]? with
    | none =>
      rw [serverStep_complete_none hindex] at hout
      cases hout
    | some waiting =>
      rw [serverStep_complete hindex] at hout
      cases hout
      have hcompletes := completeWaiting_completes settings
        { state with waiting := state.waiting.eraseIdx index } waiting
      generalize completeWaiting settings _ waiting = after at hcompletes
      cases hcompletes with
      | failed resolvers => exact .failed waiting.call
      | stored resolvers entry houtcome hdata httl => exact .resolved waiting entry hdata

/-! ## What the cache holds -/

def StoredFor (calls : Set Call) (key : Str) (entry : CacheEntry) : Prop :=
  ∃ call ∈ calls, ∃ request query, call.passed = some (request, query) ∧
    DnsCache.cacheKey query.name query.queryType = key ∧
    Wire.toVec (DnsResolver.response entry.origin.outcome request) = some entry.data ∧
    entry.ttl = DnsCache.ttlSecs (minTtl entry.origin.outcome.answers)

/-- The cache holds responses to calls that were received, and only such calls
wait. -/
structure Filled (calls : Set Call) (state : ServerState) : Prop where
  stored : state.cache.Forall fun key entry => StoredFor calls key entry.value
  waiting : ∀ waiting ∈ state.waiting, waiting.call ∈ calls

def received (events : List ServerEvent) : Set Call := { call | .receive call ∈ events }

theorem filled_start (calls : Set Call) : Filled calls .start :=
  ⟨ExpiringCache.forall_empty _, fun _ hwaiting => absurd hwaiting List.not_mem_nil⟩

section Step

variable {settings : HandlerSettings} {calls : Set Call} {state : ServerState}

theorem Completes.filled (hfilled : Filled calls state) {waiting : Waiting}
    (hwaiting : waiting.call ∈ calls) {after : ServerState × Reply}
    (hcompletes : Completes settings state waiting after) : Filled calls after.1 := by
  cases hcompletes with
  | failed resolvers => exact ⟨hfilled.stored, hfilled.waiting⟩
  | stored resolvers entry houtcome hdata httl =>
    refine ⟨hfilled.stored.insert ?_, hfilled.waiting⟩
    exact ⟨waiting.call, hwaiting, waiting.request, waiting.query, waiting.passed, rfl, hdata, httl⟩

theorem Receives.filled (hfilled : Filled calls state) {call : Call} (hcall : call ∈ calls)
    {after : ServerState × Option (Call × Reply)}
    (hreceives : Receives settings state call after) : Filled calls after.1 := by
  cases hreceives with
  | immediate hpassed => exact hfilled
  | hit request query hpassed entry hentry => exact hfilled
  | waits request query hpassed =>
    refine ⟨hfilled.stored, fun waiting hwaiting => ?_⟩
    rcases List.mem_append.mp hwaiting with hold | hnew
    · exact hfilled.waiting waiting hold
    · obtain rfl := List.mem_singleton.mp hnew
      exact hcall

theorem Filled.step (hfilled : Filled calls state) {event : ServerEvent}
    (hcalls : ∀ call, event = .receive call → call ∈ calls) :
    Filled calls (serverStep settings state event).1 := by
  cases event with
  | tick nanos => exact ⟨hfilled.stored, hfilled.waiting⟩
  | receive call => exact (receive_receives settings state call).filled hfilled (hcalls call rfl)
  | complete index =>
    cases hindex : state.waiting[index]? with
    | none =>
      rw [serverStep_complete_none hindex]
      exact hfilled
    | some waiting =>
      rw [serverStep_complete hindex]
      -- what is stored answers a call that waited, and so was received
      have hwaiting := hfilled.waiting waiting (List.mem_of_getElem? hindex)
      have hrest : Filled calls { state with waiting := state.waiting.eraseIdx index } :=
        ⟨hfilled.stored, fun other hother =>
          hfilled.waiting other (List.mem_of_mem_eraseIdx hother)⟩
      exact (completeWaiting_completes settings _ waiting).filled hrest hwaiting
  | forget responses resolvers => exact ⟨hfilled.stored.discard responses, hfilled.waiting⟩

theorem filled_of_run (settings : HandlerSettings) (events : List ServerEvent) :
    Filled (received events) (run (serverStep settings) .start events) ∧
      ∀ point ∈ trace (serverStep settings) .start events, Filled (received events) point.1 := by
  apply forall_trace (serverStep settings) (Filled (received events))
    (fun _ event => event ∈ events)
  · intro state event hfilled hevent
    refine hfilled.step fun call hcall => ?_
    subst hcall
    exact hevent
  · exact filled_start _
  · intro point hpoint
    exact mem_of_mem_trace _ hpoint

end Step

end Server

end RustDns
