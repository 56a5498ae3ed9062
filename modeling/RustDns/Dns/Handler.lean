import RustDns.Dns.Cache
import RustDns.Dns.Decision

/-!
# The request handler

`DnsHandler::handle_internal`: decode the request, check the access list, decide
on the question, ask the cache, ask an upstream, and fill the cache.  Logging and
counters are left out.

What a call reads besides the request comes with the call: the access list, the
configuration of the client, the global engine, the upstream pool and the results
of the lookups.  What a call changes is the state of the handler: the response
cache and the cache of client resolvers.

A reply carries, next to the result, the way in which it came about.
`handleInternal_decision` connects that with the decision on the question.
-/

namespace RustDns

open Text

/-! ## The access list -/

structure Acl [IpNetCrate] where
  allowed : List IpNetCrate.IpNet
  denied : List IpNetCrate.IpNet

def Acl.isAllowed [IpNetCrate] (acl : Acl) (ip : IpAddr) : Bool :=
  if acl.allowed.isEmpty && acl.denied.isEmpty then true
  else if acl.denied.any (IpNetCrate.contains · ip) then false
  else if acl.allowed.isEmpty then true
  else acl.allowed.any (IpNetCrate.contains · ip)

/-- The network that an entry of an access list is parsed as; a single address is one of
full length. -/
def Acl.cidr (entry : Str) : Option Str :=
  let entry := trim entry
  if entry.isEmpty then none
  else if entry.contains '/' then some entry
  else if entry.contains ':' then some (entry ++ str "/128")
  else some (entry ++ str "/32")

/-- `Acl::from_cidrs`: entries that are not networks are skipped. -/
def Acl.fromCidrs [IpNetCrate] (allowed denied : List Str) : Acl where
  allowed := allowed.filterMap fun entry => (cidr entry).bind IpNetCrate.parse
  denied := denied.filterMap fun entry => (cidr entry).bind IpNetCrate.parse

/-- `Acl::validate_cidrs`: the entries that are not networks. -/
def Acl.validateCidrs [IpNetCrate] (entries : List Str) : List Str :=
  entries.filter fun entry => (cidr entry).any fun cidr => (IpNetCrate.parse cidr).isNone

/-! ## Responses that need no upstream -/

/-- The message of `nxdomain`. -/
def nxdomain (request : Message) : Message :=
  { Message.new with
    id := request.id
    messageType := .response
    responseCode := .nxDomain
    recursionDesired := request.recursionDesired
    recursionAvailable := true
    queries := request.queries }

/-- The message of `servfail`. -/
def servfail (request : Message) : Message :=
  { Message.new with id := request.id, messageType := .response, responseCode := .servFail }

/-- The message of `refused`. -/
def refused (request : Message) : Message :=
  { Message.new with id := request.id, messageType := .response, responseCode := .refused }

def IpAddr.toRData : IpAddr → RData
  | v4 a b c d => .a a b c d
  | v6 segments => .aaaa segments

/-- The message of `rewrite_response` for an address of the family that was asked
for. -/
def rewriteMessage (request : Message) (query : Query) (address : IpAddr) (ttl : UInt32) :
    Message :=
  { Message.new with
    id := request.id
    messageType := .response
    responseCode := .noError
    recursionDesired := request.recursionDesired
    recursionAvailable := true
    queries := [query]
    answers := [⟨query.name, query.queryType, ttl, some address.toRData⟩] }

def setId (id : UInt16) : Bytes → Bytes
  | _ :: _ :: rest => (toBeBytes id).1 :: (toBeBytes id).2 :: rest
  | short => short

/-! ## Calls, states and replies -/

structure HandlerSettings where
  preferIpv4 : Bool
  rewriteTtl : UInt32

/-- A call of `handle_internal`, with what it reads. -/
structure Call [Unicode] [RegexCrate] [IpNetCrate] where
  data : Bytes
  clientIp : Str
  acl : Acl
  config : ClientConfig
  engine : FilterEngine
  pool : UpstreamPool
  shuffle : UpstreamPool.Shuffle
  lookup : Lookup

structure HandlerState where
  cache : MokaCache CacheEntry
  clientResolvers : MokaCache DnsResolver

def HandlerState.empty : HandlerState := ⟨.empty, .empty⟩

inductive Via where
  | undecodable
  | refused
  | servfail
  | rewritten (address : IpAddr)
  | blocked
  | cached (origin : Origin)
  | resolved (origin : Origin)
  | failed
deriving DecidableEq

/-- The result of a call, `none` for an error, and how it came about. -/
structure Reply where
  result : Option Bytes
  via : Via
deriving DecidableEq

/-! ## The handler -/

/-- The key of `get_or_create_client_resolver`. -/
def resolverKey (upstreams : List Str) : Str :=
  join (str ",") (upstreams.insertionSort (· ≤ ·))

def getOrCreateClientResolver (settings : HandlerSettings) (state : HandlerState)
    (upstreams : List Str) : DnsResolver × HandlerState :=
  match state.clientResolvers.get (resolverKey upstreams) with
  | some resolver => (resolver, state)
  | none =>
    let resolver := DnsResolver.withUpstreams upstreams settings.preferIpv4
    (resolver,
      { state with
        clientResolvers := state.clientResolvers.insert (resolverKey upstreams) resolver })

section Handler

variable [Unicode] [RegexCrate] [IpNetCrate] [Wire]

def rewriteReply (settings : HandlerSettings) (call : Call) (request : Message) (query : Query) :
    Option (IpAddr × Bytes) := do
  let answer ← rewriteAnswer call.config call.engine (trimEndMatches '.' query.name)
  let address ← rewriteRData answer query.queryType
  let bytes ← Wire.toVec (rewriteMessage request query address settings.rewriteTtl)
  return (address, bytes)

/-- The end of `handle_internal`: check that the response can be read, cache it
and return it. -/
def storeAnswer (state : HandlerState) (query : Query) (answer : Answer) (origin : Origin) :
    HandlerState × Reply :=
  match Wire.fromVec answer.response with
  | none => (state, ⟨none, .failed⟩)
  | some _ =>
    ({ state with
        cache := DnsCache.setWithTtl state.cache query.name query.queryType answer.response
          answer.minTtl origin },
      ⟨some answer.response, .resolved origin⟩)

/-- The resolve step: the upstreams of the client if it has some, else the
pool. -/
def resolveQuery (settings : HandlerSettings) (state : HandlerState) (call : Call)
    (request : Message) (query : Query) : HandlerState × Reply :=
  match call.config.upstreamUrls with
  | some upstreams =>
    let (resolver, state) := getOrCreateClientResolver settings state upstreams
    match resolver.resolve call.lookup query.name query.queryType request with
    | none => (state, ⟨none, .failed⟩)
    | some answer =>
      storeAnswer state query answer
        ⟨.client resolver, call.lookup resolver query.name query.queryType⟩
  | none =>
    match call.pool.resolveWithNode call.shuffle call.lookup query.name query.queryType
      request with
    | .error _ => (state, ⟨none, .failed⟩)
    | .ok (node, answer) =>
      storeAnswer state query answer
        ⟨.pool node, call.lookup node.resolver query.name query.queryType⟩

/-- The part of `handle_internal` after the question has been read. -/
def handleQuery (settings : HandlerSettings) (state : HandlerState) (call : Call)
    (request : Message) (query : Query) : HandlerState × Reply :=
  match rewriteReply settings call request query with
  | some (address, bytes) => (state, ⟨some bytes, .rewritten address⟩)
  | none =>
    if filterBlocks call.config call.engine (trimEndMatches '.' query.name) then
      (state, ⟨Wire.toVec (nxdomain request), .blocked⟩)
    else match DnsCache.get state.cache query.name query.queryType with
      | some entry => (state, ⟨some (setId request.id entry.data), .cached entry.origin⟩)
      | none => resolveQuery settings state call request query

/-- Whether the access list refuses the client; an address that cannot be parsed
is not checked. -/
def Call.isRefused (call : Call) : Bool :=
  match IpAddr.parse call.clientIp with
  | some ip => !call.acl.isAllowed ip
  | none => false

def handleInternal (settings : HandlerSettings) (state : HandlerState) (call : Call) :
    HandlerState × Reply :=
  match Wire.fromVec call.data with
  | none => (state, ⟨none, .undecodable⟩)
  | some request =>
    if call.isRefused then (state, ⟨Wire.toVec (refused request), .refused⟩)
    else if request.messageType ≠ .query ∨ request.opCode ≠ .query then
      (state, ⟨Wire.toVec (servfail request), .servfail⟩)
    else match request.queries with
      | [] => (state, ⟨Wire.toVec (servfail request), .servfail⟩)
      | query :: _ => handleQuery settings state call request query

/-- The question that a call puts to `handleQuery`, if it gets that far. -/
def Call.question (call : Call) : Option (Message × Query) :=
  match Wire.fromVec call.data with
  | none => none
  | some request =>
    if call.isRefused then none
    else if request.messageType ≠ .query ∨ request.opCode ≠ .query then none
    else match request.queries with
      | [] => none
      | query :: _ => some (request, query)

/-! ## The decision -/

def Via.decision : Via → Option Decision
  | rewritten address => some (.rewritten address)
  | blocked => some .blocked
  | cached _ => some .passed
  | resolved _ => some .passed
  | failed => some .passed
  | undecodable => none
  | refused => none
  | servfail => none

variable {settings : HandlerSettings} {state : HandlerState} {call : Call} {request : Message}
  {query : Query}

theorem handleInternal_of_question (hquestion : call.question = some (request, query)) :
    handleInternal settings state call = handleQuery settings state call request query := by
  unfold Call.question at hquestion
  unfold handleInternal
  cases hdata : Wire.fromVec call.data with
  | none => simp [hdata] at hquestion
  | some message =>
    simp only [hdata] at hquestion ⊢
    split_ifs at hquestion ⊢
    cases hqueries : message.queries with
    | nil => simp [hqueries] at hquestion
    | cons first rest =>
      obtain ⟨rfl, rfl⟩ : message = request ∧ first = query := by
        simpa [hqueries] using hquestion
      rfl

/-- A rewrite answers a question exactly when it has an address for it: a response
with one question and one record can always be written. -/
theorem rewriteReply_map_fst (settings : HandlerSettings) (call : Call) (request : Message)
    (query : Query) :
    (rewriteReply settings call request query).map Prod.fst =
      rewriteAddress call.config call.engine (trimEndMatches '.' query.name) query.queryType := by
  unfold rewriteReply rewriteAddress
  cases rewriteAnswer call.config call.engine (trimEndMatches '.' query.name) with
  | none => rfl
  | some answer =>
    cases hdata : rewriteRData answer query.queryType with
    | none => simp [hdata]
    | some address =>
      obtain ⟨bytes, hbytes⟩ := Option.isSome_iff_exists.mp (Wire.isSome_toVec
        (rewriteMessage request query address settings.rewriteTtl) le_rfl le_rfl)
      simp [hdata, hbytes]

theorem resolveQuery_decision (settings : HandlerSettings) (state : HandlerState) (call : Call)
    (request : Message) (query : Query) :
    (resolveQuery settings state call request query).2.via.decision = some .passed := by
  have hstore : ∀ state answer origin,
      (storeAnswer state query answer origin).2.via.decision = some .passed := by
    intro state answer origin
    unfold storeAnswer
    split <;> rfl
  unfold resolveQuery
  split
  · dsimp only
    split
    · rfl
    · exact hstore _ _ _
  · split
    · rfl
    · exact hstore _ _ _

theorem handleInternal_decision (hquestion : call.question = some (request, query)) :
    (handleInternal settings state call).2.via.decision =
      some (decision call.config call.engine query.name query.queryType) := by
  rw [handleInternal_of_question hquestion]
  unfold handleQuery decision
  dsimp only
  rw [← rewriteReply_map_fst settings call request query]
  cases rewriteReply settings call request query with
  | some reply => rfl
  | none =>
    dsimp only [Option.map_none]
    split_ifs
    · rfl
    · split
      · rfl
      · exact resolveQuery_decision settings state call request query

/-! ## What a call can do -/

def Via.origin : Via → Option Origin
  | cached origin => some origin
  | resolved origin => some origin
  | _ => none

def Call.passed (call : Call) : Option (Message × Query) :=
  call.question.filter fun (_, query) =>
    decision call.config call.engine query.name query.queryType = .passed

theorem passed_of_not_filterBlocks (hquestion : call.question = some (request, query))
    (hrewrite : rewriteReply settings call request query = none)
    (hblocks : ¬ filterBlocks call.config call.engine (trimEndMatches '.' query.name) = true) :
    call.passed = some (request, query) := by
  have haddress := rewriteReply_map_fst settings call request query
  rw [hrewrite, Option.map_none] at haddress
  simp [Call.passed, hquestion, decision, ← haddress, hblocks]

inductive ResolversAfter (settings : HandlerSettings) (state : HandlerState)
    (config : ClientConfig) : MokaCache DnsResolver → Prop where
  | same : ResolversAfter settings state config state.clientResolvers
  | created (upstreams : List Str) (hupstreams : config.upstreamUrls = some upstreams) :
      ResolversAfter settings state config
        (state.clientResolvers.insert (resolverKey upstreams)
          (.withUpstreams upstreams settings.preferIpv4))

inductive Asks (settings : HandlerSettings) (state : HandlerState) (call : Call)
    (request : Message) (query : Query) : Origin → Prop where
  | cachedResolver (upstreams : List Str) (hupstreams : call.config.upstreamUrls = some upstreams)
      (resolver : DnsResolver)
      (hresolver : state.clientResolvers.get (resolverKey upstreams) = some resolver) :
      Asks settings state call request query
        ⟨.client resolver, call.lookup resolver query.name query.queryType⟩
  | newResolver (upstreams : List Str) (hupstreams : call.config.upstreamUrls = some upstreams)
      (hresolver : state.clientResolvers.get (resolverKey upstreams) = none) :
      Asks settings state call request query
        ⟨.client (.withUpstreams upstreams settings.preferIpv4),
          call.lookup (.withUpstreams upstreams settings.preferIpv4) query.name query.queryType⟩
  | pool (hpool : call.config.upstreamUrls = none) (node : UpstreamNode)
      (hreaches : call.pool.Reaches call.shuffle call.lookup query.name query.queryType request
        node) :
      Asks settings state call request query
        ⟨.pool node, call.lookup node.resolver query.name query.queryType⟩

inductive Steps (settings : HandlerSettings) (state : HandlerState) (call : Call) :
    HandlerState → Via → Prop where
  /-- No upstream data is involved. -/
  | immediate (via : Via) (hvia : via.origin = none) : Steps settings state call state via
  /-- The question is answered from the cache. -/
  | cached (request : Message) (query : Query) (hpassed : call.passed = some (request, query))
      (entry : CacheEntry)
      (hentry : state.cache.get (DnsCache.cacheKey query.name query.queryType) = some entry) :
      Steps settings state call state (.cached entry.origin)
  /-- A resolver was asked for, but there is no response. -/
  | failed (hpassed : call.passed.isSome = true) (resolvers : MokaCache DnsResolver)
      (hresolvers : ResolversAfter settings state call.config resolvers) :
      Steps settings state call { state with clientResolvers := resolvers } .failed
  /-- The response of an upstream is stored and returned. -/
  | stored (request : Message) (query : Query) (hpassed : call.passed = some (request, query))
      (hmiss : state.cache.get (DnsCache.cacheKey query.name query.queryType) = none)
      (resolvers : MokaCache DnsResolver)
      (hresolvers : ResolversAfter settings state call.config resolvers)
      (origin : Origin) (hasks : Asks settings state call request query origin) (data : Bytes)
      (ttl : ℕ) :
      Steps settings state call
        { cache := state.cache.insert (DnsCache.cacheKey query.name query.queryType)
            ⟨data, ttl, origin⟩
          clientResolvers := resolvers }
        (.resolved origin)

section Resolve

variable {settings : HandlerSettings} {state : HandlerState} {call : Call} {request : Message}
  {query : Query} (hpassed : call.passed = some (request, query))
  (hmiss : state.cache.get (DnsCache.cacheKey query.name query.queryType) = none)
include hpassed hmiss

theorem storeAnswer_steps {resolvers : MokaCache DnsResolver}
    (hresolvers : ResolversAfter settings state call.config resolvers) {origin : Origin}
    (hasks : Asks settings state call request query origin) (answer : Answer) :
    let after := storeAnswer { state with clientResolvers := resolvers } query answer origin
    Steps settings state call after.1 after.2.via := by
  unfold storeAnswer
  split
  · exact .failed (by simp [hpassed]) resolvers hresolvers
  · exact .stored request query hpassed hmiss resolvers hresolvers origin hasks _ _

theorem resolveQuery_steps :
    let after := resolveQuery settings state call request query
    Steps settings state call after.1 after.2.via := by
  have hsome : call.passed.isSome = true := by simp [hpassed]
  unfold resolveQuery
  cases hupstreams : call.config.upstreamUrls with
  | some upstreams =>
    cases hresolver : state.clientResolvers.get (resolverKey upstreams) with
    | some resolver =>
      have hget : getOrCreateClientResolver settings state upstreams = (resolver, state) := by
        simp only [getOrCreateClientResolver, hresolver]
      simp only [hget]
      split
      · exact .failed hsome state.clientResolvers .same
      · exact storeAnswer_steps hpassed hmiss .same
          (.cachedResolver upstreams hupstreams resolver hresolver) _
    | none =>
      simp only [getOrCreateClientResolver, hresolver]
      split
      · exact .failed hsome _ (.created upstreams hupstreams)
      · exact storeAnswer_steps hpassed hmiss (.created upstreams hupstreams)
          (.newResolver upstreams hupstreams hresolver) _
  | none =>
    dsimp only
    split
    · exact .failed hsome state.clientResolvers .same
    · rename_i node answer hnode
      exact storeAnswer_steps hpassed hmiss .same
        (.pool hupstreams node (UpstreamPool.tryNodes_eq_ok hnode).1) _

end Resolve

theorem handleInternal_steps (settings : HandlerSettings) (state : HandlerState) (call : Call) :
    Steps settings state call (handleInternal settings state call).1
      (handleInternal settings state call).2.via := by
  cases hquestion : call.question with
  | none =>
    unfold Call.question at hquestion
    unfold handleInternal
    cases hdata : Wire.fromVec call.data with
    | none => exact .immediate _ rfl
    | some message =>
      simp only [hdata] at hquestion ⊢
      split_ifs at hquestion ⊢
      · exact .immediate _ rfl
      · exact .immediate _ rfl
      · cases hqueries : message.queries with
        | nil => exact .immediate _ rfl
        | cons first rest => simp [hqueries] at hquestion
  | some found =>
    obtain ⟨request, query⟩ := found
    rw [handleInternal_of_question hquestion]
    unfold handleQuery
    cases hrewrite : rewriteReply settings call request query with
    | some reply => exact .immediate _ rfl
    | none =>
      dsimp only
      split_ifs with hblocks
      · exact .immediate _ rfl
      · have hpassed := passed_of_not_filterBlocks hquestion hrewrite hblocks
        cases hentry : DnsCache.get state.cache query.name query.queryType with
        | some entry => exact .cached request query hpassed entry hentry
        | none => exact resolveQuery_steps hpassed hentry

end Handler

end RustDns
