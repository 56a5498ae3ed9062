import RustDns.RunShuffle
import RustDns.Dns.Upstream

/-!
# The order in which upstreams are tried

`UpstreamPool::resolve` puts the nodes of the pool in an order and tries them one after the other.
Under the strategy Priority the order is computed by a loop over the indices of the nodes, which
shuffles every group of one priority in place (`orderNodes`, `orderNodes_eq`).  The pool is sorted
when it is built, so the order goes from one priority to the next (`pairwise_nodesToTry`), and the
nodes are asked in this order until one has a response (`asksInOrder_nodesToTry`).
-/

namespace RustDns.UpstreamPool

/-! ## The nodes of a pool -/

section New

variable [SerdeJson]

def isUsable (row : DnsUpstream) : Bool :=
  row.isActive && row.healthStatus != str "degraded" && row.healthStatus != str "dead" &&
    (SerdeJson.stringVec row.addresses).any (· ≠ [])

def IsNodeOf (preferIpv4 : Bool) (node : UpstreamNode) : Prop :=
  ∃ addresses, SerdeJson.stringVec node.model.addresses = some addresses ∧ addresses ≠ [] ∧
    node.resolver = .withUpstreams addresses preferIpv4 ∧ node.lastLatencyMs = 0

theorem nodeOf_cases (preferIpv4 : Bool) (row : DnsUpstream) :
    (isUsable row = false ∧ nodeOf preferIpv4 row = none) ∨
      ∃ node, isUsable row = true ∧ nodeOf preferIpv4 row = some node ∧ node.model = row ∧
        IsNodeOf preferIpv4 node := by
  cases hdown : !row.isActive || row.healthStatus == str "degraded" ||
      row.healthStatus == str "dead" with
  | true =>
    left
    refine ⟨?_, by rw [nodeOf, hdown, if_pos rfl]⟩
    rw [Bool.or_eq_true, Bool.or_eq_true, Bool.not_eq_true', beq_iff_eq, beq_iff_eq] at hdown
    rcases hdown with (hinactive | hdegraded) | hdead
    · simp [isUsable, hinactive]
    · simp [isUsable, hdegraded]
    · simp [isUsable, hdead]
  | false =>
    have hup : (row.isActive && row.healthStatus != str "degraded" &&
        row.healthStatus != str "dead") = true := by
      simpa [and_assoc] using hdown
    rw [isUsable, hup, Bool.true_and, nodeOf, hdown, if_neg Bool.false_ne_true]
    cases haddresses : SerdeJson.stringVec row.addresses with
    | none => exact Or.inl ⟨rfl, rfl⟩
    | some addresses =>
      cases addresses with
      | nil => exact Or.inl ⟨rfl, rfl⟩
      | cons address rest =>
        exact Or.inr ⟨_, rfl, rfl, rfl, _, haddresses, List.cons_ne_nil _ _, rfl, rfl⟩

theorem map_model_filterMap_nodeOf (preferIpv4 : Bool) (upstreams : List DnsUpstream) :
    (upstreams.filterMap (nodeOf preferIpv4)).map (·.model) = upstreams.filter isUsable := by
  induction upstreams with
  | nil => rfl
  | cons row rest ih =>
    rcases nodeOf_cases preferIpv4 row with ⟨husable, hnode⟩ | ⟨node, husable, hnode, hmodel, -⟩
    · rw [List.filterMap_cons_none hnode, List.filter_cons_of_neg (by simp [husable]), ih]
    · rw [List.filterMap_cons_some hnode, List.filter_cons_of_pos husable, List.map_cons, ih,
        hmodel]

/-- **The nodes of a new pool** are those of the usable rows, or the fallback if there is none. -/
theorem new_nodes [Unicode] (upstreams : List DnsUpstream) (strategy : Str) (preferIpv4 : Bool) :
    let nodes := (new upstreams strategy preferIpv4).nodes
    if upstreams.filter isUsable = [] then nodes = [fallbackNode preferIpv4]
    else (nodes.map (·.model)).Perm (upstreams.filter isUsable) ∧
      ∀ node ∈ nodes, IsNodeOf preferIpv4 node := by
  intro nodes
  have hperm := List.perm_insertionSort
    (fun a b : UpstreamNode => a.model.priority ≤ b.model.priority)
    (upstreams.filterMap (nodeOf preferIpv4))
  have hmodels := hperm.map (·.model)
  rw [map_model_filterMap_nodeOf] at hmodels
  by_cases hempty : (upstreams.filterMap (nodeOf preferIpv4)).insertionSort
      (·.model.priority ≤ ·.model.priority) = []
  · have hnodes : nodes = [fallbackNode preferIpv4] := by
      simp only [nodes, new, hempty, dif_pos]
    rw [hempty] at hmodels
    rw [if_pos hmodels.symm.eq_nil]
    exact hnodes
  · have hnodes : nodes = (upstreams.filterMap (nodeOf preferIpv4)).insertionSort
        (·.model.priority ≤ ·.model.priority) := by
      simp only [nodes, new, hempty, dif_neg, not_false_eq_true]
    have husable : upstreams.filter isUsable ≠ [] := by
      intro hnil
      rw [hnil] at hmodels
      exact hempty (List.map_eq_nil_iff.mp hmodels.eq_nil)
    rw [if_neg husable, hnodes]
    refine ⟨hmodels, ?_⟩
    intro node hnode
    obtain ⟨row, -, hrow⟩ := List.mem_filterMap.mp (hperm.subset hnode)
    rcases nodeOf_cases preferIpv4 row with ⟨-, hnone⟩ | ⟨other, -, hsome, -, hmade⟩
    · rw [hnone] at hrow
      cases hrow
    · obtain rfl := Option.some.inj (hsome.symm.trans hrow)
      exact hmade

end New

/-! ## The order -/

/-- `nodes_to_try` as `resolve` computes it, if the loop over the groups needs no more than `fuel`
rounds. -/
def orderNodes (pool : UpstreamPool) (shuffle : Shuffle) (fuel : ℕ) : Option (List UpstreamNode) :=
  match pool.strategy with
  | .priority => RunShuffle.loop (·.model.priority) shuffle.run fuel ⟨pool.nodes, [], 0, 0⟩
  | .loadBalance => some (shuffle.run 0 pool.nodes)
  | .fastest => some (pool.nodes.insertionSort (·.lastLatencyMs ≤ ·.lastLatencyMs))

theorem orderNodes_eq (pool : UpstreamPool) (shuffle : Shuffle) {fuel : ℕ}
    (hfuel : pool.nodes.length < fuel) :
    pool.orderNodes shuffle fuel = some (pool.nodesToTry shuffle) := by
  unfold orderNodes nodesToTry
  cases pool.strategy with
  | priority =>
    have hloop := RunShuffle.loop_eq (·.model.priority) shuffle.run shuffle.perm pool.nodes [] []
      0 hfuel
    simp only [List.nil_append, List.length_nil, Nat.zero_add] at hloop
    exact hloop
  | loadBalance => rfl
  | fastest => rfl

theorem pairwise_nodesToTry {pool : UpstreamPool} (hstrategy : pool.strategy = .priority)
    (shuffle : Shuffle) :
    (pool.nodesToTry shuffle).Pairwise (·.model.priority ≤ ·.model.priority) := by
  have hkeys := RunShuffle.map_key_flatten (fun node : UpstreamNode => node.model.priority)
    shuffle.run shuffle.perm pool.nodes
  have hsorted : (pool.nodes.map (·.model.priority)).Pairwise (· ≤ ·) :=
    List.pairwise_map.mpr pool.sorted
  rw [← hkeys, List.pairwise_map] at hsorted
  unfold nodesToTry
  rw [hstrategy]
  exact hsorted

/-! ## What `resolve` asks -/

section Resolve

variable [Wire]

/-- `resolve` goes through the given nodes in their order.  Those that it asks are the first of
them, and at least one.  All of these but the last have no response that can be written; the result
is the response of the last, under its name, or every node has been asked and the result is the
error of the last one. -/
def AsksInOrder (pool : UpstreamPool) (shuffle : Shuffle) (lookup : Lookup) (domain : Str)
    (qtype : RecordType) (request : Message) (nodes : List UpstreamNode) : Prop :=
  let asked := pool.asked shuffle lookup domain qtype request
  let response := fun node : UpstreamNode => node.resolver.resolve lookup domain qtype request
  let result := pool.resolve shuffle lookup domain qtype request
  asked ≠ [] ∧ ∃ unasked, nodes = asked ++ unasked ∧
    ((∃ before node answer, asked = before ++ [node] ∧
        (∀ earlier ∈ before, response earlier = none) ∧ response node = some answer ∧
        result = .ok { answer with upstreamName := some node.model.name }) ∨
      unasked = [] ∧ (∀ node ∈ asked, response node = none) ∧ result = .error .encode)

theorem asksInOrder_nodesToTry (pool : UpstreamPool) (shuffle : Shuffle) (lookup : Lookup)
    (domain : Str) (qtype : RecordType) (request : Message) :
    pool.AsksInOrder shuffle lookup domain qtype request (pool.nodesToTry shuffle) := by
  obtain ⟨first, others, hfirst, -⟩ := pool.exists_nodesToTry_eq_cons shuffle
  rcases tryNodes_spec (·.resolver.resolve lookup domain qtype request) .noNodes
    (pool.nodesToTry shuffle) with ⟨before, node, rest, answer, hnodes, hbefore, hanswer, htry⟩ |
      ⟨hnone, htry⟩
  · rw [AsksInOrder, asked, resolve, resolveWithNode, htry]
    exact ⟨by simp, rest, by simpa using hnodes,
      Or.inl ⟨before, node, answer, rfl, hbefore, hanswer, rfl⟩⟩
  · rw [hfirst, if_neg (List.cons_ne_nil _ _), ← hfirst] at htry
    rw [AsksInOrder, asked, resolve, resolveWithNode, htry]
    exact ⟨by simp [hfirst], [], (List.append_nil _).symm, Or.inr ⟨rfl, hnone, rfl⟩⟩

end Resolve

theorem strategy_new [Unicode] [SerdeJson] (upstreams : List DnsUpstream) (strategy : Str)
    (preferIpv4 : Bool) : (new upstreams strategy preferIpv4).strategy = .fromString strategy := by
  unfold new
  dsimp only
  split <;> rfl

theorem fromString_eq_priority [Unicode] {strategy : Str}
    (hstrategy : toLowercase strategy ∉
      [str "load_balance", str "loadbalance", str "fastest"]) :
    UpstreamStrategy.fromString strategy = .priority := by
  simp only [List.mem_cons, List.not_mem_nil, or_false, not_or] at hstrategy
  obtain ⟨hbalance, hbalance', hfastest⟩ := hstrategy
  rw [UpstreamStrategy.fromString, if_neg (not_or.mpr ⟨hbalance, hbalance'⟩), if_neg hfastest]

variable [Unicode] [SerdeJson] [Wire]

/-- **The upstream order.**  The nodes are those of the usable rows or the fallback; `resolve` asks
them in an order that has every node once, and goes from one priority to the next unless the text
of the strategy names another one. -/
theorem nodesToTry_new (upstreams : List DnsUpstream) (strategy : Str) (preferIpv4 : Bool)
    (shuffle : Shuffle) :
    let pool := new upstreams strategy preferIpv4
    let nodes := pool.nodesToTry shuffle
    (if upstreams.filter isUsable = [] then pool.nodes = [fallbackNode preferIpv4]
      else (pool.nodes.map (·.model)).Perm (upstreams.filter isUsable) ∧
        ∀ node ∈ pool.nodes, IsNodeOf preferIpv4 node) ∧
      (∀ fuel, pool.nodes.length < fuel → pool.orderNodes shuffle fuel = some nodes) ∧
      nodes ≠ [] ∧ nodes.Perm pool.nodes ∧
      pool.strategy = .fromString strategy ∧
      (toLowercase strategy ∉ [str "load_balance", str "loadbalance", str "fastest"] →
        nodes.Pairwise (·.model.priority ≤ ·.model.priority)) ∧
      ∀ lookup domain qtype request,
        pool.AsksInOrder shuffle lookup domain qtype request nodes ∧
          pool.resolve shuffle lookup domain qtype request ≠ .error .noNodes := by
  intro pool nodes
  obtain ⟨first, rest, hfirst, -⟩ := pool.exists_nodesToTry_eq_cons shuffle
  have hstrategy : pool.strategy = .fromString strategy :=
    strategy_new upstreams strategy preferIpv4
  refine ⟨new_nodes upstreams strategy preferIpv4, fun fuel => pool.orderNodes_eq shuffle,
    fun hnil => List.cons_ne_nil _ _ (hfirst.symm.trans hnil), pool.nodesToTry_perm shuffle,
    hstrategy, fun htext => pairwise_nodesToTry (hstrategy.trans (fromString_eq_priority htext))
      shuffle, ?_⟩
  intro lookup domain qtype request
  have hasks := pool.asksInOrder_nodesToTry shuffle lookup domain qtype request
  refine ⟨hasks, fun herror => ?_⟩
  obtain ⟨-, _, -, ⟨_, _, _, -, -, -, hok⟩ | ⟨-, -, hencode⟩⟩ := hasks
  · rw [herror] at hok
    cases hok
  · rw [herror] at hencode
    cases hencode

end RustDns.UpstreamPool
