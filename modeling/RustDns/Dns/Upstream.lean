import RustDns.Json
import RustDns.Db.Database
import RustDns.Dns.Wire

/-!
# Upstream resolvers

`dns/resolver.rs` and `dns/upstream_pool.rs`: how a question is put to an
upstream, and how the pool chooses among its nodes.

A resolver is what it was built from, a list of upstream addresses and the IPv4
preference.  What its lookups return is up to the network, so the outcome of a
lookup is an input of the model.

The pool tries its nodes until one returns a response.  A resolver, however,
turns every lookup error into a response with the code `SERVFAIL`, so that the
first node always ends the loop and a failed lookup is never followed by another
node (`failsOver_iff`).
-/

namespace RustDns

/-! ## The resolver -/

/-- How `lookup` of the resolver library ends. -/
inductive LookupOutcome where
  /-- `Ok(lookup)` with its records. -/
  | records (records : List Record)
  /-- `ResolveErrorKind::NoRecordsFound` with its response code. -/
  | noRecordsFound (code : ResponseCode)
  /-- Any other error. -/
  | error
deriving DecidableEq

namespace LookupOutcome

def IsDefinite : LookupOutcome → Prop
  | records _ => True
  | noRecordsFound _ => True
  | error => False

instance : DecidablePred IsDefinite
  | records _ => .isTrue trivial
  | noRecordsFound _ => .isTrue trivial
  | error => .isFalse id

/-- The response code that `resolve` sets. -/
def responseCode : LookupOutcome → ResponseCode
  | records _ => .noError
  | noRecordsFound code => code
  | error => .servFail

/-- The records that `resolve` adds. -/
def answers : LookupOutcome → List Record
  | records found => found
  | noRecordsFound _ => []
  | error => []

end LookupOutcome

/-- `DnsResolver`: what it was built from. -/
structure DnsResolver where
  upstreams : List Str
  preferIpv4 : Bool
deriving DecidableEq

abbrev Lookup := DnsResolver → Str → RecordType → LookupOutcome

structure Answer where
  response : Bytes
  minTtl : Option UInt32
  upstreamName : Option Str
deriving DecidableEq

def minTtl (records : List Record) : Option UInt32 :=
  records.foldl (fun current record => some (current.elim record.ttl (min · record.ttl))) none

namespace DnsResolver

/-- `DnsResolver::with_upstreams`, which never fails: addresses it cannot use are
skipped, and if none is left it uses Cloudflare. -/
def withUpstreams (upstreams : List Str) (preferIpv4 : Bool) : DnsResolver :=
  ⟨upstreams, preferIpv4⟩

/-- The response of `resolve` to a request, for a lookup that ended in
`outcome`. -/
def response (outcome : LookupOutcome) (request : Message) : Message :=
  { Message.new with
    id := request.id
    messageType := .response
    opCode := .query
    recursionDesired := request.recursionDesired
    recursionAvailable := true
    queries := request.queries
    responseCode := outcome.responseCode
    answers := outcome.answers }

variable [Wire]

/-- What `resolve` returns for a lookup that ended in `outcome`; the only error
is that of `to_vec`. -/
def answer (outcome : LookupOutcome) (request : Message) : Option Answer :=
  (Wire.toVec (response outcome request)).map (⟨·, minTtl outcome.answers, none⟩)

def resolve (resolver : DnsResolver) (lookup : Lookup) (domain : Str) (qtype : RecordType)
    (request : Message) : Option Answer :=
  answer (lookup resolver domain qtype) request

end DnsResolver

/-! ## The pool -/

inductive UpstreamStrategy where
  | priority
  | loadBalance
  | fastest
deriving DecidableEq

def UpstreamStrategy.fromString [Unicode] (s : Str) : UpstreamStrategy :=
  let s := toLowercase s
  if s = str "load_balance" ∨ s = str "loadbalance" then .loadBalance
  else if s = str "fastest" then .fastest
  else .priority

structure UpstreamNode where
  model : DnsUpstream
  resolver : DnsResolver
  lastLatencyMs : ℤ
deriving DecidableEq

/-- `UpstreamPool`: there is always a node, and the nodes are in the order of
their priorities. -/
structure UpstreamPool where
  nodes : List UpstreamNode
  strategy : UpstreamStrategy
  nonempty : nodes ≠ []
  sorted : nodes.Pairwise (·.model.priority ≤ ·.model.priority)

namespace UpstreamPool

section New

variable [SerdeJson]

/-- The node of a row, if the row is active, not known to be down, and has
addresses. -/
def nodeOf (preferIpv4 : Bool) (model : DnsUpstream) : Option UpstreamNode :=
  if !model.isActive || model.healthStatus == str "degraded" || model.healthStatus == str "dead"
  then none
  else match SerdeJson.stringVec model.addresses with
    | some (address :: rest) =>
      some ⟨model, .withUpstreams (address :: rest) preferIpv4, 0⟩
    | _ => none

def fallbackNode (preferIpv4 : Bool) : UpstreamNode where
  model :=
    { id := str "fallback"
      name := str "Cloudflare/Google Fallback"
      addresses := str "[\"1.1.1.1:53\", \"8.8.8.8:53\"]"
      priority := 999
      isActive := true
      healthCheckEnabled := false
      failoverEnabled := false
      healthCheckInterval := 0
      healthCheckTimeout := 0
      failoverThreshold := 0
      healthStatus := str "healthy" }
  resolver := .withUpstreams [str "1.1.1.1:53", str "8.8.8.8:53"] preferIpv4
  lastLatencyMs := 0

def new [Unicode] (upstreams : List DnsUpstream) (strategy : Str) (preferIpv4 : Bool) :
    UpstreamPool :=
  let nodes := (upstreams.filterMap (nodeOf preferIpv4)).insertionSort
    (·.model.priority ≤ ·.model.priority)
  if hempty : nodes = [] then
    { nodes := [fallbackNode preferIpv4]
      strategy := .fromString strategy
      nonempty := List.cons_ne_nil _ _
      sorted := List.pairwise_singleton _ _ }
  else
    { nodes := nodes
      strategy := .fromString strategy
      nonempty := hempty
      sorted := by
        have : Std.Total fun (a b : UpstreamNode) => a.model.priority ≤ b.model.priority :=
          ⟨fun a b => le_total _ _⟩
        have : IsTrans UpstreamNode fun a b => a.model.priority ≤ b.model.priority :=
          ⟨fun _ _ _ => le_trans⟩
        exact List.pairwise_insertionSort _ _ }

end New

/-- The outcomes of the random shuffles: the first argument counts the shuffles
of one call. -/
structure Shuffle where
  run : ℕ → List UpstreamNode → List UpstreamNode
  perm : ∀ turn nodes, (run turn nodes).Perm nodes

/-- The order in which `resolve` tries the nodes. -/
def nodesToTry (pool : UpstreamPool) (shuffle : Shuffle) : List UpstreamNode :=
  match pool.strategy with
  -- each run of nodes of one priority is shuffled by itself
  | .priority =>
    ((pool.nodes.splitBy (·.model.priority == ·.model.priority)).mapIdx shuffle.run).flatten
  | .loadBalance => shuffle.run 0 pool.nodes
  | .fastest => pool.nodes.insertionSort (·.lastLatencyMs ≤ ·.lastLatencyMs)

/-- The errors of `resolve`: the one it starts with, and that of the last
node. -/
inductive ResolveError where
  | noNodes
  | encode
deriving DecidableEq

/-- The loop of `resolve`: the nodes that it asks, and its result with the node
that ended it. -/
def tryNodes (attempt : UpstreamNode → Option Answer) (lastErr : ResolveError) :
    List UpstreamNode → List UpstreamNode × Except ResolveError (UpstreamNode × Answer)
  | [] => ([], .error lastErr)
  | node :: rest =>
    match attempt node with
    | some answer => ([node], .ok (node, { answer with upstreamName := some node.model.name }))
    | none => (tryNodes attempt .encode rest).map (node :: ·) id

theorem flatten_mapIdx_perm {α : Type} (parts : List (List α)) (shuffle : ℕ → List α → List α)
    (hperm : ∀ turn part, (shuffle turn part).Perm part) :
    (parts.mapIdx shuffle).flatten.Perm parts.flatten := by
  induction parts generalizing shuffle with
  | nil => exact List.Perm.refl _
  | cons part rest ih =>
    rw [List.mapIdx_cons, List.flatten_cons, List.flatten_cons]
    exact (hperm 0 part).append (ih _ fun turn part => hperm (turn + 1) part)

theorem nodesToTry_perm (pool : UpstreamPool) (shuffle : Shuffle) :
    (pool.nodesToTry shuffle).Perm pool.nodes := by
  unfold nodesToTry
  cases pool.strategy with
  | priority =>
    have hparts := flatten_mapIdx_perm (pool.nodes.splitBy (·.model.priority == ·.model.priority))
      shuffle.run shuffle.perm
    rwa [List.flatten_splitBy] at hparts
  | loadBalance => exact shuffle.perm 0 pool.nodes
  | fastest => exact List.perm_insertionSort _ _

theorem exists_nodesToTry_eq_cons (pool : UpstreamPool) (shuffle : Shuffle) :
    ∃ node rest, pool.nodesToTry shuffle = node :: rest ∧ node ∈ pool.nodes := by
  cases htry : pool.nodesToTry shuffle with
  | nil =>
    have hperm := pool.nodesToTry_perm shuffle
    rw [htry] at hperm
    exact absurd hperm.symm.eq_nil pool.nonempty
  | cons node rest =>
    refine ⟨node, rest, rfl, (pool.nodesToTry_perm shuffle).subset ?_⟩
    rw [htry]
    exact List.mem_cons_self

variable {attempt : UpstreamNode → Option Answer} {node : UpstreamNode} {lastErr : ResolveError}
  {nodes : List UpstreamNode} {answer : Answer}

/-- **The loop of `resolve`.**  The nodes that it asks are the first of the given
ones.  All of them but the last are without a response; the result is the
response of the last, and without one every node has been asked. -/
theorem tryNodes_spec (attempt : UpstreamNode → Option Answer) (lastErr : ResolveError)
    (nodes : List UpstreamNode) :
    (∃ before node rest answer, nodes = before ++ node :: rest ∧
        (∀ earlier ∈ before, attempt earlier = none) ∧ attempt node = some answer ∧
        tryNodes attempt lastErr nodes = (before ++ [node],
          .ok (node, { answer with upstreamName := some node.model.name }))) ∨
      (∀ node ∈ nodes, attempt node = none) ∧
        tryNodes attempt lastErr nodes =
          (nodes, .error (if nodes = [] then lastErr else .encode)) := by
  induction nodes generalizing lastErr with
  | nil => exact Or.inr ⟨fun _ hmem => absurd hmem List.not_mem_nil, rfl⟩
  | cons first rest ih =>
    cases hfirst : attempt first with
    | some found =>
      exact Or.inl ⟨[], first, rest, found, rfl, fun _ hmem => absurd hmem List.not_mem_nil,
        hfirst, by simp only [tryNodes, hfirst, List.nil_append]⟩
    | none =>
      rcases ih .encode with ⟨before, node, rest', answer, rfl, hbefore, hanswer, htry⟩ |
        ⟨hnone, htry⟩
      · exact Or.inl ⟨first :: before, node, rest', answer, rfl,
          List.forall_mem_cons.mpr ⟨hfirst, hbefore⟩, hanswer,
          by simp only [tryNodes, hfirst, htry, Prod.map_apply, id, List.cons_append]⟩
      · exact Or.inr ⟨List.forall_mem_cons.mpr ⟨hfirst, hnone⟩,
          by simp only [tryNodes, hfirst, htry, Prod.map_apply, id, ite_self, reduceCtorEq,
            if_false]⟩

theorem tryNodes_cons (hanswer : (attempt node).isSome = true) (lastErr : ResolveError)
    (rest : List UpstreamNode) :
    ∃ answer, (tryNodes attempt lastErr (node :: rest)).2 = .ok (node, answer) := by
  obtain ⟨answer, hsome⟩ := Option.isSome_iff_exists.mp hanswer
  refine ⟨{ answer with upstreamName := some node.model.name }, ?_⟩
  simp only [tryNodes, hsome]

theorem head?_tryNodes (attempt : UpstreamNode → Option Answer) (lastErr : ResolveError)
    (nodes : List UpstreamNode) : (tryNodes attempt lastErr nodes).1.head? = nodes.head? := by
  cases nodes with
  | nil => rfl
  | cons first rest => cases hfirst : attempt first <;> simp only [tryNodes, hfirst] <;> rfl

/-- The node that ends the loop has the response, and the nodes before it have none. -/
theorem tryNodes_eq_ok (hok : (tryNodes attempt lastErr nodes).2 = .ok (node, answer)) :
    (∃ before rest, nodes = before ++ node :: rest ∧ ∀ earlier ∈ before, attempt earlier = none) ∧
      ∃ found, attempt node = some found ∧
        answer = { found with upstreamName := some node.model.name } := by
  rcases tryNodes_spec attempt lastErr nodes with
    ⟨before, last, rest, found, hnodes, hbefore, hfound, htry⟩ | ⟨-, htry⟩ <;> rw [htry] at hok
  · obtain ⟨rfl, rfl⟩ := Prod.mk.inj (Except.ok.inj hok)
    exact ⟨⟨before, rest, hnodes, hbefore⟩, found, hfound, rfl⟩
  · cases hok

variable [Wire]

/-- `UpstreamPool::resolve`, with the node that answered. -/
def resolveWithNode (pool : UpstreamPool) (shuffle : Shuffle) (lookup : Lookup) (domain : Str)
    (qtype : RecordType) (request : Message) : Except ResolveError (UpstreamNode × Answer) :=
  (tryNodes (·.resolver.resolve lookup domain qtype request) .noNodes
    (pool.nodesToTry shuffle)).2

/-- The nodes that `resolve` asks, one after the other. -/
def asked (pool : UpstreamPool) (shuffle : Shuffle) (lookup : Lookup) (domain : Str)
    (qtype : RecordType) (request : Message) : List UpstreamNode :=
  (tryNodes (·.resolver.resolve lookup domain qtype request) .noNodes
    (pool.nodesToTry shuffle)).1

/-- `UpstreamPool::resolve`. -/
def resolve (pool : UpstreamPool) (shuffle : Shuffle) (lookup : Lookup) (domain : Str)
    (qtype : RecordType) (request : Message) : Except ResolveError Answer :=
  (pool.resolveWithNode shuffle lookup domain qtype request).map Prod.snd

/-- The node is asked: the nodes before it have no response that can be
written. -/
def Reaches (pool : UpstreamPool) (shuffle : Shuffle) (lookup : Lookup) (domain : Str)
    (qtype : RecordType) (request : Message) (node : UpstreamNode) : Prop :=
  ∃ before rest, pool.nodesToTry shuffle = before ++ node :: rest ∧
    ∀ earlier ∈ before, earlier.resolver.resolve lookup domain qtype request = none

/-! ## Failover -/

/-- If some node has a definite result for the question, the response is that of
such a node. -/
def FailsOver (pool : UpstreamPool) (shuffle : Shuffle) (lookup : Lookup) (domain : Str)
    (qtype : RecordType) (request : Message) : Prop :=
  (∃ node ∈ pool.nodes, (lookup node.resolver domain qtype).IsDefinite) →
    ∃ node ∈ pool.nodes, ∃ answer,
      pool.resolveWithNode shuffle lookup domain qtype request = .ok (node, answer) ∧
        (lookup node.resolver domain qtype).IsDefinite

/-- **When the pool fails over.**  Only when it need not: no node has a definite
result, or the first node that is tried has one. -/
theorem failsOver_iff (pool : UpstreamPool) (shuffle : Shuffle) (lookup : Lookup) (domain : Str)
    (qtype : RecordType) (request : Message)
    (hwritten : ∀ outcome, (DnsResolver.answer outcome request).isSome = true) :
    pool.FailsOver shuffle lookup domain qtype request ↔
      (∀ node ∈ pool.nodes, ¬ (lookup node.resolver domain qtype).IsDefinite) ∨
        ∃ node rest, pool.nodesToTry shuffle = node :: rest ∧
          (lookup node.resolver domain qtype).IsDefinite := by
  obtain ⟨first, rest, hfirst, hmem⟩ := pool.exists_nodesToTry_eq_cons shuffle
  obtain ⟨answer, hanswer⟩ : ∃ answer,
      pool.resolveWithNode shuffle lookup domain qtype request = .ok (first, answer) := by
    unfold resolveWithNode
    rw [hfirst]
    exact tryNodes_cons (hwritten _) .noNodes rest
  constructor
  · intro hfails
    rw [or_iff_not_imp_left]
    intro hsome
    push Not at hsome
    obtain ⟨node, -, answer', hnode, hdefinite⟩ := hfails hsome
    -- the loop ended at the first node, so that is the node with the result
    rw [hanswer] at hnode
    obtain ⟨rfl, -⟩ : first = node ∧ answer = answer' := by simpa using hnode
    exact ⟨first, rest, hfirst, hdefinite⟩
  · rintro (hnone | ⟨node, rest', hnode, hdefinite⟩) ⟨other, hother, hother'⟩
    · exact absurd hother' (hnone other hother)
    · rw [hfirst] at hnode
      obtain ⟨rfl, -⟩ : first = node ∧ rest = rest' := by simpa using hnode
      exact ⟨first, hmem, answer, hanswer, hdefinite⟩

end UpstreamPool

/-! ### A failing first node -/

section FailingFirst

attribute [local instance] Wire.plain

def examplePoolNode (address : Str) (priority : ℤ) : UpstreamNode where
  model := ⟨address, address, str "[]", priority, true, true, true, 30, 5, 3, str "healthy"⟩
  resolver := .withUpstreams [address] false
  lastLatencyMs := 0

def examplePool : UpstreamPool where
  nodes := [examplePoolNode (str "1.1.1.1") 1, examplePoolNode (str "8.8.8.8") 2]
  strategy := .priority
  nonempty := by decide
  sorted := by decide

def UpstreamPool.Shuffle.none : UpstreamPool.Shuffle := ⟨fun _ nodes => nodes, fun _ _ => .refl _⟩

/-- A network in which the given upstream cannot be reached and the others answer
that there is no such name. -/
def downLookup (address : Str) : Lookup := fun resolver _ _ =>
  if resolver.upstreams = [address] then .error else .noRecordsFound .nxDomain

def exampleRequest (id : UInt16) (name : Str) : Message :=
  { Message.new with id := id, recursionDesired := true, queries := [⟨name, .a, 1⟩] }

/-- The second node would have answered, but it is not asked. -/
theorem not_failsOver_examplePool :
    ¬ examplePool.FailsOver .none (downLookup (str "1.1.1.1")) (str "example.com.") .a
      (exampleRequest 7 (str "example.com.")) := by
  intro hfails
  obtain ⟨node, -, answer, hnode, hdefinite⟩ := hfails
    ⟨examplePoolNode (str "8.8.8.8") 2, by simp [examplePool], by decide +kernel⟩
  have hfirst : examplePool.nodesToTry .none =
      [examplePoolNode (str "1.1.1.1") 1, examplePoolNode (str "8.8.8.8") 2] := by decide +kernel
  unfold UpstreamPool.resolveWithNode at hnode
  rw [hfirst] at hnode
  obtain ⟨rfl, -⟩ := Prod.ext_iff.mp (Except.ok.inj hnode)
  exact absurd hdefinite (by decide +kernel)

/-- With the other node down there is nothing to fail over from. -/
theorem failsOver_examplePool :
    examplePool.FailsOver .none (downLookup (str "8.8.8.8")) (str "example.com.") .a
      (exampleRequest 7 (str "example.com.")) :=
  (examplePool.failsOver_iff .none (downLookup (str "8.8.8.8")) (str "example.com.") .a
    (exampleRequest 7 (str "example.com.")) (fun _ => rfl)).mpr
    (Or.inr ⟨examplePoolNode (str "1.1.1.1") 1, [examplePoolNode (str "8.8.8.8") 2],
      by decide +kernel, by decide +kernel⟩)

end FailingFirst

end RustDns
