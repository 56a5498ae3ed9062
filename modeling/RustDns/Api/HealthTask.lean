import RustDns.Api.Connectivity
import RustDns.Dns.HealthCheck

/-!
# Two clocks for one timeout

The column `health_check_timeout` is a number of seconds.  Two tasks turn it into a
deadline: the background task of the API, which takes it as seconds, and
`UpstreamPool::health_check_all`, which takes it as milliseconds.  A node that
answers in time is therefore judged fairly by both exactly when it answers within
that many milliseconds (`judgedFairly_iff`).
-/

namespace RustDns.Api.HealthTask

open UpstreamPool Connectivity

/-- `as u64` on an `i64`. -/
def asU64 (value : ℤ) : ℕ := if 0 ≤ value then value.toNat else (2 ^ 64 + value).toNat

section Verdicts

variable [SerdeJson]

def deadlineMs (row : DnsUpstream) : ℕ := asU64 row.healthCheckTimeout * 1000

/-- What the task of the API says of a row that is due, for a probe that ends in
`outcome` after `elapsedMs`.  A row without an address is passed over. -/
def checkRow (lookup : HostLookup) (row : DnsUpstream) (outcome : LookupOutcome) (elapsedMs : ℕ) :
    Option Bool :=
  match SerdeJson.stringVec row.addresses with
  | some (first :: _) =>
    some (checkUpstreamConnectivity lookup first (deadlineMs row) outcome elapsedMs)
  | _ => none

variable [Wire]

/-- The check of the pool reports the node as healthy, and the task of the API comes
to the same verdict on its row. -/
def JudgedFairly (lookup : HostLookup) (pool : UpstreamPool) (probes : UpstreamNode → Probe)
    (node : UpstreamNode) : Prop :=
  ∃ report ∈ pool.checks probes, report.node = node ∧ report.isHealthy = true ∧
    checkRow lookup node.model (probes node).outcome (probes node).elapsedMs =
      some report.isHealthy

variable {node : UpstreamNode} {found : List Record}

omit [Wire] in
theorem exists_row_of_checked [Unicode] {rows : List DnsUpstream} {strategy : Str}
    {preferIpv4 : Bool} (hnode : node ∈ (new rows strategy preferIpv4).nodes)
    (hchecked : node.model.healthCheckEnabled = true) :
    node.model ∈ rows ∧ ∃ address rest,
      SerdeJson.stringVec node.model.addresses = some (address :: rest) := by
  unfold UpstreamPool.new at hnode
  dsimp only at hnode
  split_ifs at hnode with hempty
  · -- the node that stands in is not checked
    obtain rfl := List.mem_singleton.mp hnode
    cases hchecked
  · obtain ⟨row, hrow, hnodeOf⟩ := List.mem_filterMap.mp ((List.mem_insertionSort _).mp hnode)
    unfold nodeOf at hnodeOf
    split_ifs at hnodeOf
    split at hnodeOf
    · next address rest haddresses =>
      cases hnodeOf
      exact ⟨hrow, address, rest, haddresses⟩
    · cases hnodeOf

omit [SerdeJson] in
/-- The verdict of the pool on a lookup that ended in records: the limit is as many
milliseconds as the row has seconds. -/
theorem isHealthy_checkNode_iff {probe : Probe} (hpositive : 0 < node.model.healthCheckTimeout)
    (houtcome : probe.outcome = .records found) :
    (checkNode node probe).isHealthy = true ↔
      (probe.elapsedMs : ℤ) ≤ node.model.healthCheckTimeout ∧
        (DnsResolver.answer (.records found) testRequest).isSome = true := by
  have htime : InTime node probe ↔ (probe.elapsedMs : ℤ) ≤ node.model.healthCheckTimeout := by
    rw [InTime, timeoutMs, if_pos hpositive]
    omega
  simp [checkNode, DnsResolver.resolve, houtcome, htime]

omit [Wire] in
theorem checkRow_eq_some_true {lookup : HostLookup} {row : DnsUpstream} {address : Str}
    {rest : List Str} {elapsedMs : ℕ}
    (haddresses : SerdeJson.stringVec row.addresses = some (address :: rest))
    (hreached : (checkConfig lookup address).isSome = true) (hpositive : 0 < row.healthCheckTimeout)
    (hsoon : (elapsedMs : ℤ) < 1000 * row.healthCheckTimeout) :
    checkRow lookup row (.records found) elapsedMs = some true := by
  have hdeadline : elapsedMs ≤ deadlineMs row := by
    rw [deadlineMs, asU64, if_pos hpositive.le]
    omega
  simp [checkRow, haddresses, checkUpstreamConnectivity, hreached, answered, hdeadline]

/-- **When health checks are fair.**  Of the answers that arrive before the seconds of
the row are over, those that arrive within as many milliseconds are judged fairly, if
the node is checked at all and its response can be written. -/
theorem judgedFairly_iff [Unicode] (lookup : HostLookup) (rows : List DnsUpstream) (strategy : Str)
    (preferIpv4 : Bool) (probes : UpstreamNode → Probe) (node : UpstreamNode)
    (found : List Record)
    (htimeouts : ∀ row ∈ rows, 1 ≤ row.healthCheckTimeout)
    (hnode : node ∈ (new rows strategy preferIpv4).nodes)
    (houtcome : (probes node).outcome = .records found)
    (hsoon : ((probes node).elapsedMs : ℤ) < 1000 * node.model.healthCheckTimeout)
    -- the API gets an answer, so its probe gets as far as asking
    (hreached : ∀ address rest, SerdeJson.stringVec node.model.addresses = some (address :: rest) →
      (checkConfig lookup address).isSome = true) :
    JudgedFairly lookup (new rows strategy preferIpv4) probes node ↔
      node.model.healthCheckEnabled = true ∧
        ((probes node).elapsedMs : ℤ) ≤ node.model.healthCheckTimeout ∧
        (DnsResolver.answer (.records found) testRequest).isSome = true := by
  constructor
  · rintro ⟨report, hreport, rfl, hhealthy, -⟩
    obtain ⟨other, -, hchecked, rfl⟩ := mem_checks.mp hreport
    obtain ⟨hrow, -⟩ := exists_row_of_checked hnode hchecked
    exact ⟨hchecked, (isHealthy_checkNode_iff (htimeouts _ hrow) houtcome).mp hhealthy⟩
  · rintro ⟨hchecked, hverdict⟩
    obtain ⟨hrow, address, rest, haddresses⟩ := exists_row_of_checked hnode hchecked
    have hpositive : 0 < node.model.healthCheckTimeout := htimeouts _ hrow
    have hhealthy : (checkNode node (probes node)).isHealthy = true :=
      (isHealthy_checkNode_iff hpositive houtcome).mpr hverdict
    refine ⟨_, mem_checks.mpr ⟨node, hnode, hchecked, rfl⟩, rfl, hhealthy, ?_⟩
    rw [houtcome, hhealthy]
    exact checkRow_eq_some_true haddresses (hreached address rest haddresses) hpositive hsoon

end Verdicts

section Example

attribute [local instance] SerdeJson.plain Wire.plain Unicode.ascii

def exampleRow : DnsUpstream :=
  ⟨str "u1", str "Quad9", str "[\"9.9.9.9\"]", 1, true, true, true, 30, 5, 3, str "healthy"⟩

def exampleRowNode : UpstreamNode := ⟨exampleRow, .withUpstreams [str "9.9.9.9"] false, 0⟩

theorem exampleRowNode_mem : exampleRowNode ∈ (new [exampleRow] (str "priority") false).nodes := by
  have hnodes : [exampleRow].filterMap (nodeOf false) = [exampleRowNode] := by decide +kernel
  simp [UpstreamPool.new, hnodes]

/-- An answer after twenty milliseconds makes it degraded for the pool and healthy for
the API. -/
theorem not_judgedFairly_twentyMs :
    (checkNode exampleRowNode ⟨.records [], 20, 20⟩).isHealthy = false ∧
      checkRow (fun _ => none) exampleRow (.records []) 20 = some true ∧
      ¬ JudgedFairly (fun _ => none) (new [exampleRow] (str "priority") false)
        (fun _ => ⟨.records [], 20, 20⟩) exampleRowNode := by
  refine ⟨by decide +kernel, by decide +kernel, ?_⟩
  rintro ⟨report, hreport, -, hhealthy, -⟩
  obtain ⟨node, hnode, -, rfl⟩ := mem_checks.mp hreport
  have hnodes : [exampleRow].filterMap (nodeOf false) = [exampleRowNode] := by decide +kernel
  obtain rfl : node = exampleRowNode := by simpa [UpstreamPool.new, hnodes] using hnode
  revert hhealthy
  decide +kernel

/-- An answer after four milliseconds is judged fairly. -/
theorem judgedFairly_fourMs :
    JudgedFairly (fun _ => none) (new [exampleRow] (str "priority") false)
      (fun _ => ⟨.records [], 4, 4⟩) exampleRowNode := by
  refine (judgedFairly_iff (fun _ => none) [exampleRow] (str "priority") false _ exampleRowNode []
    (by simp [exampleRow]) exampleRowNode_mem rfl (by decide) ?_).mpr
    ⟨rfl, by decide, by decide +kernel⟩
  intro address rest haddresses
  have hone : SerdeJson.stringVec exampleRowNode.model.addresses = some [str "9.9.9.9"] := by
    decide +kernel
  rw [hone] at haddresses
  obtain ⟨rfl, -⟩ := List.cons.inj (Option.some.inj haddresses)
  decide +kernel

end Example

end RustDns.Api.HealthTask
