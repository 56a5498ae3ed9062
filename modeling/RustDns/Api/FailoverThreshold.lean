import RustDns.Api.PoolAgreement

/-!
# The failover threshold

The column `failover_threshold` is the number of probes that have to fail in a row
before an upstream is given up.  It is stored, updated and shown, but no task reads
it: the first failed probe sets a healthy row to `degraded`.  A run respects the
thresholds if every healthy row that a failed probe is written to has a threshold of
at most one (`respects_of_failsOverAtOnce`).
-/

namespace RustDns.Api.Upstreams

open UpstreamPool HealthTask

/-- A step sets a healthy row to `degraded` only with the result of a probe that is at
least the `failover_threshold`-th to fail in a row. -/
def Respects (shared after : Shared) (written : Option Verdict) : Prop :=
  ∀ row ∈ shared.db.dnsUpstreams.rows, ∀ row' ∈ after.db.dnsUpstreams.rows, row'.id = row.id →
    row.healthStatus = str "healthy" → row'.healthStatus = str "degraded" →
      ∃ verdict ∈ written, verdict.id = row.id ∧ verdict.isHealthy = false ∧
        row.failoverThreshold ≤ verdict.failures

instance decidableRespects (shared after : Shared) (written : Option Verdict) :
    Decidable (Respects shared after written) :=
  inferInstanceAs (Decidable (∀ row ∈ shared.db.dnsUpstreams.rows,
    ∀ row' ∈ after.db.dnsUpstreams.rows, _ → _ → _ → ∃ verdict ∈ written, _))

section Steps

variable [SerdeJson]

def FailsOverAtOnce (shared : Shared) (_ : List Task) (task : Task) (input : Input) : Prop :=
  ∀ verdict ∈ verdictOf shared task input, verdict.isHealthy = false →
    ∀ row ∈ shared.db.dnsUpstreams.rows, row.id = verdict.id →
      row.healthStatus = str "healthy" → row.failoverThreshold ≤ 1

instance decidableFailsOverAtOnce (shared : Shared) (others : List Task) (task : Task)
    (input : Input) : Decidable (FailsOverAtOnce shared others task input) :=
  inferInstanceAs (Decidable (∀ verdict ∈ verdictOf shared task input, _ → ∀ row ∈ _, _ → _ → _))

variable {preferIpv4 : Bool} {shared : Shared} {others : List Task} {task : Task} {input : Input}

/-- Where the status of a row comes from: from the row before the step, from a result
that the step writes, or from `create`. -/
def StatusFrom (before : List DnsUpstream) (written : Option Verdict) (row : DnsUpstream) : Prop :=
  (∃ old ∈ before, old.id = row.id ∧ old.healthStatus = row.healthStatus) ∨
    (∃ verdict ∈ written, verdict.id = row.id ∧
      row.healthStatus = statusText verdict.isHealthy) ∨
    row.healthStatus = str "unknown"

omit [SerdeJson] in
theorem statusFrom_self {before : List DnsUpstream} {written : Option Verdict} {row : DnsUpstream}
    (hrow : row ∈ before) : StatusFrom before written row := Or.inl ⟨row, hrow, rfl, rfl⟩

omit [SerdeJson] in
theorem statusFrom_report {verdict : Verdict} {row : DnsUpstream}
    (hrow : row ∈ (shared.report verdict).db.dnsUpstreams.rows) :
    StatusFrom shared.db.dnsUpstreams.rows (some verdict) row := by
  obtain ⟨old, hold, rfl⟩ := List.mem_map.mp hrow
  split_ifs with hid
  · exact Or.inr (Or.inl ⟨verdict, rfl, (beq_iff_eq.mp hid).symm, rfl⟩)
  · exact statusFrom_self hold

variable [Unicode] [Wire]

theorem statusFrom_act :
    ∀ row ∈ (act preferIpv4 shared task input).1.db.dnsUpstreams.rows,
      StatusFrom shared.db.dnsUpstreams.rows (verdictOf shared task input) row := by
  cases task with
  | idle =>
    simp only [act, actNext]
    split_ifs
    · exact fun row => statusFrom_self
    · simpa using fun row => statusFrom_self
    · exact fun row => statusFrom_self
  | writing upstreams verdicts needsReload =>
    cases verdicts with
    | nil => cases needsReload <;> exact fun row => statusFrom_self
    | cons verdict rest =>
      simp only [act, actNext, finishTick]
      split_ifs <;> exact fun row => statusFrom_report
  | probed verdicts => exact fun row => statusFrom_self
  | tickReload point => cases point <;> exact fun row => statusFrom_self
  | apiIdle => exact fun row => statusFrom_self
  | apiChecking rows =>
    cases rows with
    | nil => exact fun row => statusFrom_self
    | cons row rest =>
      simp only [act, actNext]
      split
      · exact fun row => statusFrom_self
      · next verdict hverdict =>
        rw [hverdict]
        exact fun row => statusFrom_report
  | create body =>
    simp only [act, actNext]
    split
    · exact fun row => statusFrom_self
    · next row hrow =>
      split
      · exact fun row => statusFrom_self
      · next rows hinsert =>
        intro other hother
        have hother : other ∈ rows.rows := hother
        rw [Table.rows_of_insert hinsert] at hother
        rcases List.mem_append.mp hother with hother | hother
        · exact statusFrom_self hother
        · obtain rfl := List.mem_singleton.mp hother
          right
          right
          unfold createdRow at hrow
          dsimp only at hrow
          split_ifs at hrow
          cases hrow
          rfl
  | update id body =>
    simp only [act, actNext]
    split <;> exact fun row => statusFrom_self
  | updateRow row =>
    intro other hother
    obtain ⟨old, hold, rfl⟩ := List.mem_map.mp hother
    split_ifs
    · exact Or.inl ⟨old, hold, rfl, rfl⟩
    · exact statusFrom_self hold
  | delete id =>
    simp only [act, actNext]
    split_ifs
    · exact fun row => statusFrom_self
    · exact fun row hrow => statusFrom_self (List.mem_of_mem_filter hrow)
  | test id =>
    simp only [act, actNext]
    split
    · exact fun row => statusFrom_self
    · split <;> exact fun row => statusFrom_self
  | testRow row first => exact fun row => statusFrom_report
  | settings strategy =>
    simp only [act, actNext]
    split_ifs <;> exact fun row => statusFrom_self
  | requestReload point reply => cases point <;> exact fun row => statusFrom_self

/-- One step: the status of a healthy row can only become `degraded` by a result that
the step writes, and a failed probe counts for one at least. -/
theorem respects_act (hstep : FailsOverAtOnce shared others task input) :
    Respects shared (act preferIpv4 shared task input).1 (verdictOf shared task input) := by
  intro row hrow row' hrow' hid hhealthy hdegraded
  rcases statusFrom_act row' hrow' with
    ⟨old, hold, holdid, hstatus⟩ | ⟨verdict, hverdict, hverdictid, hstatus⟩ | hunknown
  · -- no two rows have the same id
    obtain rfl : old = row :=
      List.inj_on_of_nodup_map shared.db.dnsUpstreams.nodup hold hrow (holdid.trans hid)
    rw [hhealthy, hdegraded] at hstatus
    exact absurd hstatus (by decide)
  · have hfailed : verdict.isHealthy = false := by
      cases hvalue : verdict.isHealthy with
      | false => rfl
      | true =>
        rw [hdegraded, hvalue] at hstatus
        exact absurd hstatus (by decide)
    refine ⟨verdict, hverdict, hverdictid.trans hid, hfailed, ?_⟩
    calc row.failoverThreshold
        ≤ 1 := hstep verdict hverdict hfailed row hrow (hverdictid.trans hid).symm hhealthy
      _ ≤ verdict.failures := by exact_mod_cast verdict.counted hfailed
  · rw [hdegraded] at hunknown
    exact absurd hunknown (by decide)

/-- **When the threshold is respected.**  In a run in which failed probes are written
only to rows that are not healthy or have a threshold of at most one. -/
theorem respects_of_failsOverAtOnce (preferIpv4 : Bool) (db : Database)
    (events : List (Tasks.Event Request Input))
    (hsteps : ∀ point ∈ Machine.trace (step preferIpv4) (start preferIpv4 db) events,
      Tasks.AtAdvance FailsOverAtOnce point.1 point.2) :
    ∀ point ∈ Machine.trace (step preferIpv4) (start preferIpv4 db) events,
      Tasks.AtAdvance (fun shared _ task input =>
        Respects shared (act preferIpv4 shared task input).1 (verdictOf shared task input))
        point.1 point.2 := by
  rintro ⟨state, event⟩ hpoint
  have hstep := hsteps (state, event) hpoint
  cases event with
  | start request => trivial
  | advance index input => exact fun task htask => respects_act (hstep task htask)

end Steps

section Example

attribute [local instance] SerdeJson.plain Wire.plain Unicode.ascii

/-- One failed probe sets the upstream with a threshold of three to `degraded`. -/
theorem not_respects_recoveryRun :
    ∃ point ∈ Machine.trace (step false) (start false oneUpstreamDb) recoveryRun,
      ¬ Tasks.AtAdvance (fun shared _ task input =>
        Respects shared (act false shared task input).1 (verdictOf shared task input))
        point.1 point.2 := by
  refine ⟨_, Machine.mem_trace_append _ _ (recoveryRun.take 2) (.advance 0 {})
    (recoveryRun.drop 3), ?_⟩
  decide +kernel

def promptUpstreamDb : Database :=
  { Database.empty with dnsUpstreams := ⟨[{ exampleRow with failoverThreshold := 1 }], by decide⟩ }

/-- There the first failed probe may be written at once. -/
theorem respects_recoveryRun :
    Tasks.AtAdvance (fun shared _ task input =>
      Respects shared (act false shared task input).1 (verdictOf shared task input))
      (Machine.run (step false) (start false promptUpstreamDb) (recoveryRun.take 2))
      (.advance 0 {} : Tasks.Event Request Input) :=
  respects_of_failsOverAtOnce false promptUpstreamDb recoveryRun (by decide +kernel) _
    (Machine.mem_trace_append _ _ (recoveryRun.take 2) (.advance 0 {}) (recoveryRun.drop 3))

end Example

end RustDns.Api.Upstreams
