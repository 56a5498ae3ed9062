import RustDns.Dns.Upstream

/-!
# Health checks

`UpstreamPool::health_check_all` puts one question to every node that is to be
checked, with a time limit for each, and calls a node healthy when `resolve`
returned a response in time.

As in the loop of the pool, a lookup error does not come out of `resolve` as an
error but as a response with the code `SERVFAIL`.  A node that refuses every
connection is therefore reported as healthy, and the verdicts are right only for
pools of which no lookup ends in an error within its time limit
(`healthCheck_sound_iff`).
-/

namespace RustDns

/-- How the question to one node goes: how its lookup ends and after how many
milliseconds, and the milliseconds that the clock shows in the end. -/
structure Probe where
  outcome : LookupOutcome
  elapsedMs : ℕ
  latencyMs : ℤ

structure HealthReport where
  node : UpstreamNode
  latencyMs : ℤ
  isHealthy : Bool

namespace UpstreamPool

def testRequest : Message :=
  { Message.new with
    id := 1
    messageType := .query
    opCode := .query
    recursionDesired := true
    queries := [⟨str "example.com.", .a, 1⟩] }

def timeoutMs (node : UpstreamNode) : ℕ :=
  if 0 < node.model.healthCheckTimeout then node.model.healthCheckTimeout.toNat else 2000

def InTime (node : UpstreamNode) (probe : Probe) : Prop := probe.elapsedMs ≤ timeoutMs node

instance (node : UpstreamNode) (probe : Probe) : Decidable (InTime node probe) :=
  inferInstanceAs (Decidable (probe.elapsedMs ≤ timeoutMs node))

variable [Wire]

/-- The task of one node.  It asks for `example.com` with the request above. -/
def checkNode (node : UpstreamNode) (probe : Probe) : HealthReport where
  node := node
  latencyMs := probe.latencyMs
  isHealthy := decide (InTime node probe) &&
    (node.resolver.resolve (fun _ _ _ => probe.outcome) (str "example.com") .a testRequest).isSome

/-- The tasks of a check, with the outcome of each question.  They finish in any
order. -/
def checks (pool : UpstreamPool) (probes : UpstreamNode → Probe) : Multiset HealthReport :=
  ((pool.nodes.filter (·.model.healthCheckEnabled)).map fun node => checkNode node (probes node) :
    List HealthReport)

/-- `UpstreamPool::health_check_all`: the results, and the pool with the latencies
that were measured. -/
def healthCheckAll (pool : UpstreamPool) (probes : UpstreamNode → Probe) :
    Multiset (Str × ℤ × Bool) × UpstreamPool :=
  ((checks pool probes).map fun report =>
      (report.node.model.id, report.latencyMs, report.isHealthy),
    { pool with
      nodes := pool.nodes.map fun node =>
        if node.model.healthCheckEnabled then
          { node with lastLatencyMs := (probes node).latencyMs }
        else node
      nonempty := by simpa using pool.nonempty
      sorted := by
        have hpriority : ∀ node : UpstreamNode, (if node.model.healthCheckEnabled then
            { node with lastLatencyMs := (probes node).latencyMs } else node).model.priority =
            node.model.priority := by
          intro node
          split <;> rfl
        rw [List.pairwise_map]
        simpa only [hpriority] using pool.sorted })

/-- A node is reported as healthy only if its lookup ended in time with records or
with the reply that there are none. -/
def HealthCheckSound (pool : UpstreamPool) (probes : UpstreamNode → Probe) : Prop :=
  ∀ report ∈ checks pool probes, report.isHealthy = true →
    InTime report.node (probes report.node) ∧ (probes report.node).outcome.IsDefinite

variable {pool : UpstreamPool} {probes : UpstreamNode → Probe}

theorem mem_checks {report : HealthReport} :
    report ∈ checks pool probes ↔ ∃ node ∈ pool.nodes, node.model.healthCheckEnabled = true ∧
        checkNode node (probes node) = report := by
  simp [checks, and_assoc]

/-- A failed lookup that ends in time makes a node healthy: the `SERVFAIL`
response has one question and no record, so it can be written. -/
theorem isHealthy_checkNode_of_error {node : UpstreamNode} {probe : Probe}
    (htime : InTime node probe) (herror : probe.outcome = .error) :
    (checkNode node probe).isHealthy = true := by
  have hwritten : (Wire.toVec (DnsResolver.response .error testRequest)).isSome = true :=
    Wire.isSome_toVec _ le_rfl (Nat.zero_le 1)
  simp [checkNode, htime, herror, DnsResolver.resolve, DnsResolver.answer, hwritten]

/-- **When health checks are sound.**  Exactly when no lookup of a checked node
ends in an error before its time is up. -/
theorem healthCheck_sound_iff (pool : UpstreamPool) (probes : UpstreamNode → Probe) :
    pool.HealthCheckSound probes ↔
      ∀ node ∈ pool.nodes, node.model.healthCheckEnabled = true →
        InTime node (probes node) → (probes node).outcome ≠ .error := by
  constructor
  · intro hsound node hnode hchecked htime herror
    have hreport : checkNode node (probes node) ∈ checks pool probes :=
      mem_checks.mpr ⟨node, hnode, hchecked, rfl⟩
    obtain ⟨-, hdefinite⟩ := hsound _ hreport (isHealthy_checkNode_of_error htime herror)
    change (probes node).outcome.IsDefinite at hdefinite
    rw [herror] at hdefinite
    exact hdefinite
  · intro hnodes report hreport hhealthy
    obtain ⟨node, hnode, hchecked, rfl⟩ := mem_checks.mp hreport
    have htime : InTime node (probes node) := by
      simp only [checkNode, Bool.and_eq_true, decide_eq_true_eq] at hhealthy
      exact hhealthy.1
    refine ⟨htime, ?_⟩
    change (probes node).outcome.IsDefinite
    cases houtcome : (probes node).outcome with
    | records found => trivial
    | noRecordsFound code => trivial
    | error => exact absurd houtcome (hnodes node hnode hchecked htime)

end UpstreamPool

section Example

attribute [local instance] Wire.plain

/-- A node that refuses the connection at once is reported as healthy. -/
theorem not_healthCheckSound_examplePool :
    ¬ examplePool.HealthCheckSound fun _ => ⟨.error, 1, 1⟩ := by
  intro hsound
  have hnode : examplePoolNode (str "1.1.1.1") 1 ∈ examplePool.nodes := List.mem_cons_self
  obtain ⟨-, hdefinite⟩ := hsound _ (UpstreamPool.mem_checks.mpr ⟨_, hnode, rfl, rfl⟩) rfl
  exact hdefinite

end Example

end RustDns
