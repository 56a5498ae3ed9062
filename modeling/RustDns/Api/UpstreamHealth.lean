import RustDns.Api.Upstreams

/-!
# The health of the upstreams

`api::serve` starts a task that checks the upstreams and enters each result into a map, from which
`get_health` answers.  The task is given `state.upstream_health.clone()`.  Cloning a `DashMap`
copies its entries, so the task has a map of its own, and nobody writes into the map that
`get_health` reads.

The machine here has the tasks of `Upstreams.lean` with the two maps beside them.  In every run the
map of the requests stays empty (`upstreamHealth_run`), and a request is answered with the last
results if and only if there are none yet (`reportsLast_iff`).
-/

namespace RustDns.Api.UpstreamHealth

open Upstreams Machine

structure UpstreamHealthResult where
  status : Str
  latencyMs : ℤ
  lastCheckAt : Str
deriving DecidableEq

/-- `DashMap<String, UpstreamHealthResult>`. -/
abbrev HealthMap := AList fun _ : Str => UpstreamHealthResult

abbrev Check := Str × UpstreamHealthResult

/-- The tasks, the map of `AppState`, and the map of the health task. -/
structure State where
  server : Tasks.State Upstreams.Shared Upstreams.Task
  upstreamHealth : HealthMap
  healthMap : HealthMap

/-- A step of the tasks, with the time on the clock, or a request for the results. -/
inductive Event where
  | tasks (event : Tasks.Event Upstreams.Request Upstreams.Input) (now : Str)
  | getHealth

/-- `upstreams::get_health`: all entries are collected. -/
def getHealth (upstreamHealth : HealthMap) : HealthMap := upstreamHealth.entries.toAList

def lastResult (checks : List Check) (id : Str) : Option UpstreamHealthResult :=
  (checks.reverse.find? (·.1 == id)).map Prod.snd

theorem lastResult_append (checks more : List Check) (id : Str) :
    lastResult (checks ++ more) id = (lastResult more id).or (lastResult checks id) := by
  unfold lastResult
  rw [List.reverse_append, List.find?_append]
  cases more.reverse.find? (·.1 == id) <;> rfl

section Runs

variable [SerdeJson]

def completed (state : State) : Event → Option Check
  | .tasks (.advance index input) now =>
    match state.server.tasks[index]? with
    | some (.apiChecking (row :: rest)) =>
      (verdictOf state.server.shared (.apiChecking (row :: rest)) input).map fun verdict =>
        (row.id, ⟨statusText verdict.isHealthy, input.latencyMs, now⟩)
    | _ => none
  | .tasks (.start _) _ | .getHealth => none

/-- `health_map.insert(…)` for a check. -/
def enter (map : HealthMap) (check : Option Check) : HealthMap :=
  check.elim map fun check => map.insert check.1 check.2

variable [Unicode] [Wire]

/-- After the start.  The task gets a copy of the map. -/
def start (preferIpv4 : Bool) (db : Database) : State :=
  let upstreamHealth : HealthMap := ∅
  ⟨Upstreams.start preferIpv4 db, upstreamHealth, upstreamHealth⟩

/-- One step, with the answer to a request. -/
def step (preferIpv4 : Bool) (state : State) (event : Event) : State × Option HealthMap :=
  match event with
  | .tasks inner _ =>
    ({ state with
        server := (Upstreams.step preferIpv4 state.server inner).1
        healthMap := enter state.healthMap (completed state event) },
      none)
  | .getHealth => (state, some (getHealth state.upstreamHealth))

/-- The checks that are completed in a run, in order. -/
def checks (preferIpv4 : Bool) (state : State) (events : List Event) : List Check :=
  (trace (step preferIpv4) state events).filterMap fun point => completed point.1 point.2

/-- Every request is answered, for every upstream that was checked before it, with the last
result. -/
def ReportsLast (preferIpv4 : Bool) (db : Database) (events : List Event) : Prop :=
  ∀ before rest, events = before ++ .getHealth :: rest →
    ∀ id result, lastResult (checks preferIpv4 (start preferIpv4 db) before) id = some result →
      ∃ answer, (step preferIpv4 (run (step preferIpv4) (start preferIpv4 db) before)
          .getHealth).2 = some answer ∧ answer.lookup id = some result

variable {preferIpv4 : Bool}

variable (state : State) (events : List Event) (event : Event)

theorem upstreamHealth_step :
    (step preferIpv4 state event).1.upstreamHealth = state.upstreamHealth := by
  cases event with
  | tasks event now => rfl
  | getHealth => rfl

theorem upstreamHealth_run :
    (run (step preferIpv4) state events).upstreamHealth = state.upstreamHealth := by
  induction events generalizing state with
  | nil => rfl
  | cons event rest ih => exact (ih _).trans (upstreamHealth_step state event)

/-- **When the health is reported.**  In a run from the start every request is answered with the
last results if and only if no check is completed before a request. -/
theorem reportsLast_iff (preferIpv4 : Bool) (db : Database) (events : List Event) :
    ReportsLast preferIpv4 db events ↔
      ∀ before rest, events = before ++ .getHealth :: rest →
        checks preferIpv4 (start preferIpv4 db) before = [] := by
  constructor
  · intro hreports before rest hevents
    by_contra hchecks
    obtain ⟨front, ⟨id, result⟩, hlast⟩ := List.eq_nil_or_concat' _ |>.resolve_left hchecks
    have hresult : lastResult (checks preferIpv4 (start preferIpv4 db) before) id =
        some result := by
      rw [hlast, lastResult_append]
      simp [lastResult]
    obtain ⟨answer, hanswer, hlookup⟩ := hreports before rest hevents id result hresult
    obtain rfl := Option.some.inj hanswer
    -- the map that is read has no entry
    rw [upstreamHealth_run] at hlookup
    cases hlookup
  · intro hnone before rest hevents id result hresult
    rw [hnone before rest hevents] at hresult
    cases hresult

end Runs

/-! ### A check and a request -/

section Example

attribute [local instance] SerdeJson.plain Wire.plain Unicode.ascii

def checkedDb : Database :=
  { Database.empty with dnsUpstreams := ⟨[HealthTask.exampleRow], List.nodup_singleton _⟩ }

def checkedRun : List Event :=
  [.tasks (.advance 1 { }) (str "2026-01-01T00:00:10+00:00"),
    .tasks (.advance 1 { outcome := .records [], elapsedMs := 20, latencyMs := 20 })
      (str "2026-01-01T00:00:11+00:00")]

/-- The request after it is answered without the upstream. -/
theorem not_reportsLast_checkedRun :
    ¬ ReportsLast false checkedDb (checkedRun ++ [.getHealth]) := by
  intro hreports
  have hchecks : checks false (start false checkedDb) checkedRun =
      [(str "u1", ⟨str "healthy", 20, str "2026-01-01T00:00:11+00:00"⟩)] := by decide +kernel
  obtain ⟨answer, hanswer, hlookup⟩ := hreports checkedRun [] rfl (str "u1") _
    (by rw [hchecks]; rfl)
  obtain rfl := Option.some.inj hanswer
  rw [upstreamHealth_run] at hlookup
  cases hlookup

end Example

end RustDns.Api.UpstreamHealth
