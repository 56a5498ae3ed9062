import RustDns.Machine
import RustDns.Dns.Handler

/-!
# Runs of the handler

Calls of the handler share the response cache and the cache of client resolvers.
This file follows both through any sequence of calls, starting from a handler
that has not been called.  Between calls the caches may lose entries.

* **Who answers.**  A client with upstreams of its own should be answered by a
  resolver for these upstreams, any other client by the pool.  The cache key has
  the name and the type of the question, but not the upstreams of the client
  (`upstreamIsolated_of_separated`).
* **What is remembered.**  A lookup that ends in an error gives a `SERVFAIL`
  response, and that is cached like any other (`errorsForgotten_of_noError`).
-/

namespace RustDns

open Machine

section Runs

variable [Unicode] [RegexCrate] [IpNetCrate] [Wire]

inductive HandlerEvent where
  /-- A request comes in. -/
  | call (call : Call)
  /-- The caches lose entries: they expire, are evicted or are flushed. -/
  | forget (responses resolvers : Str → Bool)

def handlerStep (settings : HandlerSettings) (state : HandlerState) :
    HandlerEvent → HandlerState × Option Reply
  | .call call =>
    let after := handleInternal settings state call
    (after.1, some after.2)
  | .forget responses resolvers =>
    ({ cache := state.cache.discard responses
       clientResolvers := state.clientResolvers.discard resolvers }, none)

/-! ## Who answers -/

/-- The producer is the one that the configuration asks for: a resolver for the
upstreams of the client, in any order, or the pool. -/
def Serves (config : ClientConfig) : Producer → Prop
  | .client resolver =>
    ∃ upstreams, config.upstreamUrls = some upstreams ∧ resolver.upstreams.Perm upstreams
  | .pool _ => config.upstreamUrls = none

/-- Every answer with upstream data was produced by whom the configuration of the
client asks for. -/
def UpstreamIsolated (settings : HandlerSettings) (events : List HandlerEvent) : Prop :=
  ∀ point ∈ trace (handlerStep settings) .empty events, ∀ call, point.2 = .call call →
    ∀ origin, (handleInternal settings point.1 call).2.via.origin = some origin →
      Serves call.config origin.producer

/-- Two calls do not meet in a cache, unless they want the same. -/
structure Separated (call other : Call) : Prop where
  /-- Questions with one key are asked with the same upstreams. -/
  question : ∀ {request query request' query'}, call.passed = some (request, query) →
    other.passed = some (request', query') →
    DnsCache.cacheKey query.name query.queryType =
      DnsCache.cacheKey query'.name query'.queryType →
    Option.Rel List.Perm call.config.upstreamUrls other.config.upstreamUrls
  /-- Upstream lists with one key have the same upstreams. -/
  resolver : call.passed.isSome = true → other.passed.isSome = true →
    ∀ {upstreams upstreams'}, call.config.upstreamUrls = some upstreams →
      other.config.upstreamUrls = some upstreams' →
      resolverKey upstreams = resolverKey upstreams' → upstreams.Perm upstreams'

omit [IpNetCrate] [Wire] in
theorem Serves.of_rel {config config' : ClientConfig}
    (hrel : Option.Rel List.Perm config.upstreamUrls config'.upstreamUrls) {producer : Producer}
    (hserves : Serves config' producer) : Serves config producer := by
  cases producer with
  | client resolver =>
    obtain ⟨upstreams', hupstreams', hperm⟩ := hserves
    rw [hupstreams'] at hrel
    cases hupstreams : config.upstreamUrls with
    | none =>
      rw [hupstreams] at hrel
      cases hrel
    | some upstreams =>
      rw [hupstreams] at hrel
      cases hrel with
      | some hsame => exact ⟨upstreams, hupstreams, hperm.trans hsame.symm⟩
  | pool node =>
    have hnone : config'.upstreamUrls = none := hserves
    rw [hnone] at hrel
    cases hupstreams : config.upstreamUrls with
    | none => exact hupstreams
    | some upstreams =>
      rw [hupstreams] at hrel
      cases hrel

structure Attributed (calls : Call → Prop) (state : HandlerState) : Prop where
  cache : state.cache.Forall fun key entry => ∃ call, calls call ∧ ∃ request query,
    call.passed = some (request, query) ∧
      key = DnsCache.cacheKey query.name query.queryType ∧
      Serves call.config entry.origin.producer
  resolvers : state.clientResolvers.Forall fun key resolver => ∃ call, calls call ∧
    call.passed.isSome = true ∧ call.config.upstreamUrls = some resolver.upstreams ∧
      key = resolverKey resolver.upstreams

variable {settings : HandlerSettings} {calls : Call → Prop} {state : HandlerState}

variable {call : Call} {after : HandlerState}

theorem Attributed.resolversAfter (hattributed : Attributed calls state) (hcall : calls call)
    (hpassed : call.passed.isSome = true) {resolvers : MokaCache DnsResolver}
    (hresolvers : ResolversAfter settings state call.config resolvers) :
    resolvers.Forall fun key resolver => ∃ call, calls call ∧ call.passed.isSome = true ∧
      call.config.upstreamUrls = some resolver.upstreams ∧
        key = resolverKey resolver.upstreams := by
  cases hresolvers with
  | same => exact hattributed.resolvers
  | created upstreams hupstreams =>
    exact hattributed.resolvers.insert ⟨call, hcall, hpassed, hupstreams, rfl⟩

variable {origin : Origin} {via : Via}

theorem Attributed.serves_of_asks (hattributed : Attributed calls state)
    (hseparated : ∀ call other, calls call → calls other → Separated call other)
    (hcall : calls call) (hpassed : call.passed.isSome = true) {request : Message} {query : Query}
    (hasks : Asks settings state call request query origin) :
    Serves call.config origin.producer := by
  cases hasks with
  | cachedResolver upstreams hupstreams resolver hresolver =>
    -- the resolver was built for a call whose list has the same key
    obtain ⟨other, hother, hpassed', hothers, hkey⟩ := hattributed.resolvers _ _ hresolver
    exact ⟨upstreams, hupstreams, ((hseparated call other hcall hother).resolver hpassed hpassed'
      hupstreams hothers hkey).symm⟩
  | newResolver upstreams hupstreams hresolver =>
    exact ⟨upstreams, hupstreams, List.Perm.refl _⟩
  | pool hpool node hreaches => exact hpool

theorem Steps.attributed (hsteps : Steps settings state call after via)
    (hattributed : Attributed calls state)
    (hseparated : ∀ call other, calls call → calls other → Separated call other)
    (hcall : calls call) : Attributed calls after := by
  cases hsteps with
  | immediate _ hvia => exact hattributed
  | cached request query hpassed entry hentry => exact hattributed
  | failed hpassed resolvers hresolvers =>
    exact ⟨hattributed.cache, hattributed.resolversAfter hcall hpassed hresolvers⟩
  | stored request query hpassed hmiss resolvers hresolvers origin hasks data ttl =>
    have hsome : call.passed.isSome = true := by simp [hpassed]
    refine ⟨hattributed.cache.insert ?_, hattributed.resolversAfter hcall hsome hresolvers⟩
    exact ⟨call, hcall, request, query, hpassed, rfl,
      hattributed.serves_of_asks hseparated hcall hsome hasks⟩

theorem Steps.serves (hsteps : Steps settings state call after via)
    (hattributed : Attributed calls state)
    (hseparated : ∀ call other, calls call → calls other → Separated call other)
    (hcall : calls call) (horigin : via.origin = some origin) :
    Serves call.config origin.producer := by
  cases hsteps with
  | immediate _ hvia =>
    rw [hvia] at horigin
    cases horigin
  | cached request query hpassed entry hentry =>
    cases horigin
    -- the entry was stored by a call with the same key
    obtain ⟨other, hother, request', query', hpassed', hkey, hserves⟩ :=
      hattributed.cache _ _ hentry
    exact hserves.of_rel ((hseparated call other hcall hother).question hpassed hpassed' hkey)
  | failed hpassed resolvers hresolvers => cases horigin
  | stored request query hpassed hmiss resolvers hresolvers origin' hasks data ttl =>
    cases horigin
    exact hattributed.serves_of_asks hseparated hcall (by simp [hpassed]) hasks

theorem Attributed.step (hattributed : Attributed calls state)
    (hseparated : ∀ call other, calls call → calls other → Separated call other)
    (event : HandlerEvent) (hevent : ∀ call, event = .call call → calls call) :
    Attributed calls (handlerStep settings state event).1 := by
  cases event with
  | forget responses resolvers =>
    exact ⟨hattributed.cache.discard responses, hattributed.resolvers.discard resolvers⟩
  | call call =>
    exact (handleInternal_steps settings state call).attributed hattributed hseparated
      (hevent call rfl)

/-- **Upstream isolation.**  In a run whose calls do not meet in the caches, every
answer was produced by whom the client asks for. -/
theorem upstreamIsolated_of_separated (settings : HandlerSettings) (events : List HandlerEvent)
    (hseparated : ∀ call other, .call call ∈ events → .call other ∈ events →
      Separated call other) :
    UpstreamIsolated settings events := by
  have hempty : Attributed (fun call => HandlerEvent.call call ∈ events) HandlerState.empty :=
    ⟨MokaCache.forall_empty _, MokaCache.forall_empty _⟩
  have hrun := forall_trace (handlerStep settings) (Attributed (.call · ∈ events))
    (fun _ event => event ∈ events)
    (fun _ event hstate hevent => hstate.step hseparated event fun call hcall => hcall ▸ hevent)
    hempty events fun point hpoint => mem_of_mem_trace _ hpoint
  intro point hpoint call hcall origin horigin
  have hmem : .call call ∈ events := hcall ▸ mem_of_mem_trace _ hpoint
  exact (handleInternal_steps settings point.1 call).serves (hrun.2 point hpoint) hseparated hmem
    horigin

/-! ## What is remembered -/

def NoErrorCached (state : HandlerState) : Prop :=
  state.cache.Forall fun _ entry => entry.origin.outcome ≠ .error

/-- Upstream errors are never remembered: no event leaves a response from a failed
lookup in the cache, and no call is answered with one from there. -/
def ErrorsForgotten (settings : HandlerSettings) (events : List HandlerEvent) : Prop :=
  ∀ point ∈ trace (handlerStep settings) .empty events,
    NoErrorCached (handlerStep settings point.1 point.2).1 ∧
      ∀ call, point.2 = .call call → ∀ origin,
        (handleInternal settings point.1 call).2.via = .cached origin → origin.outcome ≠ .error

/-- The event does not get an error from an upstream: if the question of a call is
passed on and is not in the cache, the lookup at the resolver that is asked for it
does not end in an error. -/
def HandlerEvent.NoError (settings : HandlerSettings) (state : HandlerState) :
    HandlerEvent → Prop
  | .call incoming => ∀ request query, incoming.passed = some (request, query) →
      state.cache.get (DnsCache.cacheKey query.name query.queryType) = none →
      ∀ origin, Asks settings state incoming request query origin → origin.outcome ≠ .error
  | .forget _ _ => True

theorem Steps.noErrorCached (hsteps : Steps settings state call after via)
    (hstate : NoErrorCached state) (hcall : (HandlerEvent.call call).NoError settings state) :
    NoErrorCached after := by
  cases hsteps with
  | immediate _ hvia => exact hstate
  | cached request query hpassed entry hentry => exact hstate
  | failed hpassed resolvers hresolvers => exact hstate
  | stored request query hpassed hmiss resolvers hresolvers origin hasks data ttl =>
    exact MokaCache.Forall.insert hstate (hcall request query hpassed hmiss origin hasks)

theorem Steps.cached_ne_error (hsteps : Steps settings state call after (.cached origin))
    (hstate : NoErrorCached state) : origin.outcome ≠ .error := by
  cases hsteps with
  | immediate _ horigin => cases horigin
  | cached request query hpassed entry hentry => exact hstate _ entry hentry

theorem NoErrorCached.step (hstate : NoErrorCached state) {event : HandlerEvent}
    (hevent : event.NoError settings state) :
    NoErrorCached (handlerStep settings state event).1 := by
  cases event with
  | forget responses resolvers => exact hstate.discard responses
  | call call => exact (handleInternal_steps settings state call).noErrorCached hstate hevent

/-- **Upstream errors and the cache.**  They are not remembered in runs in which no
lookup that is made ends in one. -/
theorem errorsForgotten_of_noError (settings : HandlerSettings) (events : List HandlerEvent)
    (hevents : ∀ point ∈ trace (handlerStep settings) .empty events,
      point.2.NoError settings point.1) :
    ErrorsForgotten settings events := by
  have hempty : NoErrorCached HandlerState.empty := MokaCache.forall_empty _
  have hrun := forall_trace (handlerStep settings) NoErrorCached
    (fun state event => event.NoError settings state)
    (fun _ _ hstate hevent => hstate.step hevent) hempty events hevents
  intro point hpoint
  have hstate := hrun.2 point hpoint
  refine ⟨hstate.step (hevents point hpoint), fun call hcall origin hvia => ?_⟩
  have hsteps := handleInternal_steps settings point.1 call
  rw [hvia] at hsteps
  exact hsteps.cached_ne_error hstate

end Runs

/-! ### Two clients with one question -/

section TwoClients

attribute [local instance] Unicode.ascii RegexCrate.fragment IpNetCrate.cidr Wire.plain

def exampleSettings : HandlerSettings := ⟨false, 300⟩

/-- A client asks for the address of `example.com`. -/
def exampleCall (id : UInt16) (config : ClientConfig) (lookup : Lookup) : Call where
  data := PlainWire.write (exampleRequest id (str "example.com."))
  clientIp := str "192.168.1.10"
  acl := ⟨[], []⟩
  config := config
  engine := ⟨.new, .empty⟩
  pool := examplePool
  shuffle := .none
  lookup := lookup

def exampleClient : ClientConfig :=
  { ClientConfig.default with upstreamUrls := some [str "9.9.9.9"] }

/-- The answer of the upstream of one client goes to another client, which should
be answered by the pool. -/
theorem not_upstreamIsolated_exampleCall :
    ¬ UpstreamIsolated exampleSettings
      [.call (exampleCall 7 exampleClient (downLookup [])),
        .call (exampleCall 8 .default (downLookup []))] := by
  intro hisolated
  have hserves := hisolated _ (List.mem_cons_of_mem _ List.mem_cons_self)
    (exampleCall 8 .default (downLookup [])) rfl
    ⟨.client ⟨[str "9.9.9.9"], false⟩, .noRecordsFound .nxDomain⟩ (by decide +kernel)
  obtain ⟨upstreams, hupstreams, -⟩ := hserves
  cases hupstreams

/-- A run of one client is separated. -/
theorem upstreamIsolated_exampleCall :
    UpstreamIsolated exampleSettings
      [.call (exampleCall 7 exampleClient (downLookup [])),
        .call (exampleCall 8 exampleClient (downLookup []))] := by
  refine upstreamIsolated_of_separated _ _ fun call other hcall hother => ?_
  have hconfig : ∀ call, HandlerEvent.call call ∈
      [.call (exampleCall 7 exampleClient (downLookup [])),
        .call (exampleCall 8 exampleClient (downLookup []))] → call.config = exampleClient := by
    intro call hcall
    simp only [List.mem_cons, HandlerEvent.call.injEq, List.not_mem_nil, or_false] at hcall
    rcases hcall with rfl | rfl <;> rfl
  constructor
  · intro _ _ _ _ _ _ _
    rw [hconfig call hcall, hconfig other hother]
    exact .some (List.Perm.refl _)
  · intro _ _ upstreams upstreams' hupstreams hupstreams' _
    rw [hconfig call hcall] at hupstreams
    rw [hconfig other hother] at hupstreams'
    obtain rfl := Option.some.inj (hupstreams.symm.trans hupstreams')
    exact List.Perm.refl _

/-- A question whose lookup failed is answered `SERVFAIL` from the cache when it is
asked again, although the upstream could answer it by then. -/
theorem not_errorsForgotten_exampleCall :
    ¬ ErrorsForgotten exampleSettings
      [.call (exampleCall 7 .default (downLookup (str "1.1.1.1"))),
        .call (exampleCall 8 .default (downLookup []))] := by
  intro hforgotten
  obtain ⟨-, hcalls⟩ := hforgotten _ (List.mem_cons_of_mem _ List.mem_cons_self)
  exact hcalls (exampleCall 8 .default (downLookup [])) rfl
    ⟨.pool (examplePoolNode (str "1.1.1.1") 1), .error⟩ (by decide +kernel) rfl

/-- A run without errors leaves none in the cache. -/
theorem errorsForgotten_exampleCall :
    ErrorsForgotten exampleSettings
      [.call (exampleCall 7 .default fun _ _ _ => .noRecordsFound .nxDomain)] := by
  refine errorsForgotten_of_noError _ _ fun point hpoint => ?_
  obtain rfl := List.mem_singleton.mp hpoint
  intro request query _ _ origin hasks
  cases hasks <;> exact LookupOutcome.noConfusion

end TwoClients

end RustDns
