import RustDns.RowOrder
import RustDns.Api.Upstreams
import RustDns.Dns.UpstreamOrder

/-!
# The fastest node

Under the strategy Fastest the pool tries its nodes in the order of `last_latency_ms`.  Two tasks
write that number: `health_check_all`, and through `update_latency` the health task of the API.
Neither looks at how the probe ended, so that a failed probe counts with the time it took to fail.
And a node that has not been probed since the pool was loaded has the latency 0.

`triesFastest_iff` says when the first node that is tried is the one measured to be the fastest.
-/

namespace RustDns.Api.FastestNode

open UpstreamPool Upstreams

/-! ## Runs -/

structure Measurement where
  latencyMs : ℤ
  success : Bool
deriving DecidableEq

inductive Event where
  | reload (upstreams : List DnsUpstream) (strategy : Str) (preferIpv4 : Bool)
  /-- The health task of the API has probed an upstream. -/
  | updateLatency (id : Str) (probe : Measurement)
  | healthCheckAll (probes : DnsUpstream → Probe)

/-- The pool, and the last probe of each upstream since it was loaded. -/
structure State where
  pool : UpstreamPool
  last : DnsUpstream → Option Measurement

section Runs

variable [Unicode] [SerdeJson]

def load (upstreams : List DnsUpstream) (strategy : Str) (preferIpv4 : Bool) : State :=
  ⟨new upstreams strategy preferIpv4, fun _ => none⟩

variable [Wire]

def probeOf (pool : UpstreamPool) (probes : DnsUpstream → Probe) (upstream : DnsUpstream) :
    Option Measurement :=
  (pool.nodes.find? fun node => node.model = upstream && node.model.healthCheckEnabled).map
    fun node =>
      let report := checkNode node (probes node.model)
      ⟨report.latencyMs, report.isHealthy⟩

def step (state : State) : Event → State × Unit
  | .reload upstreams strategy preferIpv4 => (load upstreams strategy preferIpv4, ())
  | .updateLatency id probe =>
    (⟨updateLatency state.pool id probe.latencyMs,
      fun upstream => if upstream.id = id then some probe else state.last upstream⟩, ())
  | .healthCheckAll probes =>
    (⟨(state.pool.healthCheckAll fun node => probes node.model).2,
      fun upstream => (probeOf state.pool probes upstream).or (state.last upstream)⟩, ())

end Runs

/-! ## The latency of a node -/

namespace State

/-- The last probe of the node was successful, and took so long. -/
def Measured (state : State) (node : UpstreamNode) (latencyMs : ℤ) : Prop :=
  state.last node.model = some ⟨latencyMs, true⟩

/-- A node without a probe counts as one that was probed in no time, and a failed probe counts. -/
def countedMs (state : State) (node : UpstreamNode) : ℤ :=
  (state.last node.model).elim 0 Measurement.latencyMs

def Tracks (state : State) : Prop :=
  ∀ node ∈ state.pool.nodes, node.lastLatencyMs = state.countedMs node

/-- Once a node has been measured, the first node that `resolve` asks under Fastest, whatever the
question, is one with the smallest latency that was measured. -/
def TriesFastest [Wire] (state : State) : Prop :=
  state.pool.strategy = .fastest → (∃ node ∈ state.pool.nodes, ∃ ms, state.Measured node ms) →
    ∀ shuffle lookup domain qtype request, ∃ first rest ms,
      state.pool.asked shuffle lookup domain qtype request = first :: rest ∧
      state.Measured first ms ∧
      ∀ other ∈ state.pool.nodes, ∀ otherMs, state.Measured other otherMs → ms ≤ otherMs

/-- A node that was measured is faster than the given one, or as fast and earlier in the pool. -/
def Behind (state : State) (node : UpstreamNode) : Prop :=
  ∃ faster ∈ state.pool.nodes, (∃ ms, state.Measured faster ms) ∧
    (state.countedMs faster < state.countedMs node ∨
      state.countedMs faster = state.countedMs node ∧
        state.pool.nodes.idxOf faster < state.pool.nodes.idxOf node)

/-- Once a node has been measured, under Fastest every node that has not is behind one that has. -/
def UnmeasuredBehind (state : State) : Prop :=
  state.pool.strategy = .fastest → (∃ node ∈ state.pool.nodes, ∃ ms, state.Measured node ms) →
    ∀ node ∈ state.pool.nodes, (∀ ms, ¬ state.Measured node ms) → state.Behind node

variable {state : State} {node : UpstreamNode} {ms : ℤ}

/-- The first node that is asked is the first of the order. -/
theorem exists_asked_eq_cons [Wire] {first : UpstreamNode} {rest : List UpstreamNode}
    {shuffle : Shuffle} (horder : state.pool.nodesToTry shuffle = first :: rest) (lookup : Lookup)
    (domain : Str) (qtype : RecordType) (request : Message) :
    ∃ others, state.pool.asked shuffle lookup domain qtype request = first :: others := by
  rw [← List.head?_eq_some_iff, asked, head?_tryNodes, horder]
  rfl

theorem Measured.countedMs_eq (hmeasured : state.Measured node ms) : state.countedMs node = ms := by
  rw [countedMs, hmeasured]
  rfl

theorem TriesFastest.exists_measured [Wire] (htries : state.TriesFastest)
    (hstrategy : state.pool.strategy = .fastest) (hnode : node ∈ state.pool.nodes)
    (hmeasured : state.Measured node ms) :
    ((state.pool.nodesToTry .none).head?.bind (state.last ·.model)).any (·.success) = true := by
  obtain ⟨first, rest, ms', hasked, hfirst, -⟩ := htries hstrategy ⟨node, hnode, ms, hmeasured⟩
    .none (fun _ _ _ => .error) [] .a Message.new
  have hhead := head?_tryNodes (·.resolver.resolve (fun _ _ _ => .error) [] .a Message.new)
    .noNodes (state.pool.nodesToTry .none)
  rw [← hhead, ← asked, hasked, List.head?_cons, Option.bind_some, hfirst]
  rfl

theorem Tracks.head_nodesToTry (htracks : state.Tracks)
    (hstrategy : state.pool.strategy = .fastest) (shuffle : Shuffle) :
    ∃ first rest, state.pool.nodesToTry shuffle = first :: rest ∧ first ∈ state.pool.nodes ∧
      ∀ other ∈ state.pool.nodes, state.countedMs first ≤ state.countedMs other ∧
        (state.countedMs other ≤ state.countedMs first →
          state.pool.nodes.idxOf first ≤ state.pool.nodes.idxOf other) := by
  obtain ⟨first, rest, horder, hfirst⟩ := state.pool.exists_nodesToTry_eq_cons shuffle
  refine ⟨first, rest, horder, hfirst, ?_⟩
  have hsorted : state.pool.nodesToTry shuffle =
      state.pool.nodes.insertionSort (·.lastLatencyMs ≤ ·.lastLatencyMs) := by
    rw [nodesToTry, hstrategy]
  have hmin : first ∈ state.pool.nodes.argmin UpstreamNode.lastLatencyMs := by
    rw [← List.head?_insertionSort, ← hsorted, horder]
    rfl
  obtain ⟨-, hle, hidx⟩ := List.mem_argmin_iff.mp hmin
  intro other hother
  rw [← htracks first hfirst, ← htracks other hother]
  exact ⟨hle other hother, hidx other hother⟩

theorem Tracks.triesFastest_iff_behind [Wire] (htracks : state.Tracks) :
    state.TriesFastest ↔ state.UnmeasuredBehind := by
  refine imp_congr_right fun hstrategy => imp_congr_right fun hsome => ?_
  constructor
  · intro htries node hnode hnot
    obtain ⟨first, rest, horder, hfirst, hleast⟩ := htracks.head_nodesToTry hstrategy .none
    obtain ⟨others, hothers⟩ := exists_asked_eq_cons horder (fun _ _ _ => .error) [] .a Message.new
    obtain ⟨first', rest', ms, hasked, hmeasured, -⟩ :=
      htries .none (fun _ _ _ => .error) [] .a Message.new
    obtain rfl : first = first' := (List.cons.inj (hothers.symm.trans hasked)).1
    obtain ⟨hle, hidx⟩ := hleast node hnode
    refine ⟨first, hfirst, ⟨ms, hmeasured⟩, ?_⟩
    rcases hle.lt_or_eq with hlt | heq
    · exact Or.inl hlt
    · refine Or.inr ⟨heq, (hidx heq.ge).lt_of_ne fun hsame => ?_⟩
      obtain rfl := (List.idxOf_inj hfirst).mp hsame
      exact hnot ms hmeasured
  · intro hbehind shuffle lookup domain qtype request
    obtain ⟨first, rest, horder, hfirst, hleast⟩ := htracks.head_nodesToTry hstrategy shuffle
    obtain ⟨others, hothers⟩ := exists_asked_eq_cons horder lookup domain qtype request
    by_cases hmeasured : ∃ ms, state.Measured first ms
    · obtain ⟨ms, hmeasured⟩ := hmeasured
      refine ⟨first, others, ms, hothers, hmeasured, fun other hother otherMs hother' => ?_⟩
      rw [← hmeasured.countedMs_eq, ← hother'.countedMs_eq]
      exact (hleast other hother).1
    · -- no node is in front of the first one
      push Not at hmeasured
      obtain ⟨faster, hfaster, -, hlt | ⟨heq, hlt⟩⟩ := hbehind first hfirst hmeasured
      · exact absurd (hleast faster hfaster).1 hlt.not_ge
      · exact absurd ((hleast faster hfaster).2 heq.le) hlt.not_ge

end State

/-! ## Keeping track -/

section Runs

variable [Unicode] [SerdeJson]

variable (upstreams : List DnsUpstream) (strategy : Str) (preferIpv4 : Bool)

theorem tracks_load : (load upstreams strategy preferIpv4).Tracks := by
  intro node hnode
  have hnodes := new_nodes upstreams strategy preferIpv4
  dsimp only at hnodes
  split_ifs at hnodes with hempty
  · rw [load, hnodes, List.mem_singleton] at hnode
    rw [hnode]
    rfl
  · obtain ⟨addresses, -, -, -, hlatency⟩ := hnodes.2 node hnode
    exact hlatency

variable [Wire]

omit [Unicode] [SerdeJson] in
theorem probeOf_of_checked {pool : UpstreamPool} (probes : DnsUpstream → Probe)
    {node : UpstreamNode} (hnode : node ∈ pool.nodes)
    (hchecked : node.model.healthCheckEnabled = true) :
    ∃ success, probeOf pool probes node.model = some ⟨(probes node.model).latencyMs, success⟩ := by
  cases hfind : pool.nodes.find? fun other =>
      other.model = node.model && other.model.healthCheckEnabled with
  | none =>
    have hnone := List.find?_eq_none.mp hfind node hnode
    simp [hchecked] at hnone
  | some other =>
    have hmodel : other.model = node.model := by
      have hother := List.find?_some hfind
      simp only [Bool.and_eq_true, decide_eq_true_eq] at hother
      exact hother.1
    exact ⟨_, by rw [probeOf, hfind, Option.map_some, checkNode, hmodel]⟩

omit [Unicode] [SerdeJson] in
theorem probeOf_of_not_checked (pool : UpstreamPool) (probes : DnsUpstream → Probe)
    {upstream : DnsUpstream} (hnot : ¬ upstream.healthCheckEnabled = true) :
    probeOf pool probes upstream = none := by
  rw [probeOf, Option.map_eq_none_iff, List.find?_eq_none]
  intro node _ hnode
  simp only [Bool.and_eq_true, decide_eq_true_eq] at hnode
  exact hnot (hnode.1 ▸ hnode.2)

theorem tracks_step {state : State} (htracks : state.Tracks) (event : Event) :
    (step state event).1.Tracks := by
  cases event with
  | reload upstreams strategy preferIpv4 => exact tracks_load upstreams strategy preferIpv4
  | updateLatency id probe =>
    intro node hnode
    obtain ⟨before, hbefore, rfl⟩ := List.mem_map.mp hnode
    by_cases hid : before.model.id = id
    · simp [State.countedMs, step, hid]
    · have hlatency := htracks before hbefore
      simpa [State.countedMs, step, hid] using hlatency
  | healthCheckAll probes =>
    intro node hnode
    obtain ⟨before, hbefore, rfl⟩ := List.mem_map.mp hnode
    by_cases hchecked : before.model.healthCheckEnabled = true
    · obtain ⟨success, hprobe⟩ := probeOf_of_checked probes hbefore hchecked
      simp [State.countedMs, step, hchecked, hprobe]
    · have hprobe := probeOf_of_not_checked state.pool probes hchecked
      have hlatency := htracks before hbefore
      simpa [State.countedMs, step, hchecked, hprobe] using hlatency

def reached (upstreams : List DnsUpstream) (strategy : Str) (preferIpv4 : Bool)
    (events : List Event) : State :=
  Machine.run step (load upstreams strategy preferIpv4) events

theorem tracks_reached (events : List Event) :
    (reached upstreams strategy preferIpv4 events).Tracks :=
  (Machine.forall_trace step State.Tracks (fun _ _ => True)
    (fun _ event htracks _ => tracks_step htracks event)
    (tracks_load upstreams strategy preferIpv4) events fun _ _ => trivial).1

/-- **When the fastest node is tried first.**  In any run, the first node that is tried under
Fastest is the one that was measured to be the fastest if and only if every node without a
successful probe is behind one with a successful probe. -/
theorem triesFastest_iff (upstreams : List DnsUpstream) (strategy : Str) (preferIpv4 : Bool)
    (events : List Event) :
    (reached upstreams strategy preferIpv4 events).TriesFastest ↔
      (reached upstreams strategy preferIpv4 events).UnmeasuredBehind :=
  (tracks_reached upstreams strategy preferIpv4 events).triesFastest_iff_behind

end Runs

/-! ## Two upstreams -/

section Example

attribute [local instance] SerdeJson.plain Wire.plain Unicode.ascii

def exampleUpstream (id : String) : DnsUpstream :=
  ⟨str id, str id, str "[\"9.9.9.9\"]", 1, true, true, true, 30, 5, 3, str "healthy"⟩

def twoUpstreams : State := load [exampleUpstream "a", exampleUpstream "b"] (str "fastest") false

def firstMeasured : State :=
  Machine.run step twoUpstreams [.updateLatency (str "a") ⟨20, true⟩]

def secondFailed : State :=
  Machine.run step firstMeasured [.updateLatency (str "b") ⟨1, false⟩]

/-- In both states the second upstream is tried first. -/
theorem not_triesFastest_twoUpstreams :
    ¬ firstMeasured.TriesFastest ∧ ¬ secondFailed.TriesFastest := by
  have hnot (state : State) (hstrategy : state.pool.strategy = .fastest)
      (hnodes : exampleUpstream "a" ∈ state.pool.nodes.map (·.model))
      (hlast : state.last (exampleUpstream "a") = some ⟨20, true⟩)
      (hfirst : ((state.pool.nodesToTry .none).head?.bind (state.last ·.model)).any (·.success) =
        false) : ¬ state.TriesFastest := by
    intro htries
    obtain ⟨node, hnode, hmodel⟩ := List.mem_map.mp hnodes
    have hmeasured : state.Measured node 20 := by rw [State.Measured, hmodel, hlast]
    have htrue := htries.exists_measured hstrategy hnode hmeasured
    rw [hfirst] at htrue
    cases htrue
  exact ⟨hnot _ (by decide +kernel) (by decide +kernel) (by decide +kernel) (by decide +kernel),
    hnot _ (by decide +kernel) (by decide +kernel) (by decide +kernel) (by decide +kernel)⟩

end Example

end RustDns.Api.FastestNode
