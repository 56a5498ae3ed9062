import RustDns.Tasks
import RustDns.Api.HealthTask
import RustDns.Api.State

/-!
# Who writes the upstreams

The rows of `dns_upstreams` and the pool that was built from them are worked on by

* the health task of `main.rs`, which checks the nodes of the pool at every tick,
  writes their status, and reloads the pool if it has seen a status change;
* the health task of the API, which checks the rows and writes their status;
* the handlers `create`, `update` and `delete`, which write a row and reload the pool;
* the handler `test`, which checks one row and writes its status;
* the settings handler, which writes the strategy and reloads the pool.

They run side by side.  Here each is a task that is cut wherever it waits for the
database, the network or a lock, and `act` takes it from one cut to the next.

The state also counts the ticks that have ended and the failed probes in a row.
-/

namespace RustDns.Api.Upstreams

open Text UpstreamPool Connectivity HealthTask

/-! ## Requests -/

/-- `CreateUpstreamRequest`, with its defaults. -/
structure CreateUpstreamRequest where
  name : Str
  addresses : List Str
  priority : ℤ := 1
  healthCheckInterval : ℤ := 30
  healthCheckTimeout : ℤ := 5
  failoverThreshold : ℤ := 3

structure UpdateUpstreamRequest where
  name : Option Str := none
  addresses : Option (List Str) := none
  priority : Option ℤ := none
  isActive : Option Bool := none
  healthCheckEnabled : Option Bool := none
  failoverEnabled : Option Bool := none
  healthCheckInterval : Option ℤ := none
  healthCheckTimeout : Option ℤ := none
  failoverThreshold : Option ℤ := none

inductive Reply where
  | upstream (row : DnsUpstream)
  | deleted
  | tested (success : Bool) (latencyMs : ℤ) (error : Option Str)
  | saved

section Rows

variable [SerdeJson]

/-- `serde_json::to_string` on a list of addresses. -/
def addressesText (addresses : List Str) : Str :=
  SerdeJson.toStr (.array (addresses.map .string))

/-- The row that `create` inserts, or the complaint about the request. -/
def createdRow (id : Str) (body : CreateUpstreamRequest) : Except AppError DnsUpstream :=
  let name := trim body.name
  if name = [] then .error (.validation (str "Upstream name cannot be empty"))
  else if body.addresses = [] then
    .error (.validation (str "At least one address is required"))
  else .ok
    { id := id
      name := name
      addresses := addressesText body.addresses
      priority := body.priority
      isActive := true
      healthCheckEnabled := true
      failoverEnabled := true
      healthCheckInterval := body.healthCheckInterval
      healthCheckTimeout := body.healthCheckTimeout
      failoverThreshold := body.failoverThreshold
      healthStatus := str "unknown" }

/-- The columns that `update` writes, for the row that it has read. -/
def updatedRow (old : DnsUpstream) (body : UpdateUpstreamRequest) : DnsUpstream where
  id := old.id
  name := body.name.getD old.name
  addresses := (body.addresses.map addressesText).getD old.addresses
  priority := body.priority.getD old.priority
  isActive := body.isActive.getD old.isActive
  healthCheckEnabled := body.healthCheckEnabled.getD old.healthCheckEnabled
  failoverEnabled := body.failoverEnabled.getD old.failoverEnabled
  healthCheckInterval := body.healthCheckInterval.getD old.healthCheckInterval
  healthCheckTimeout := body.healthCheckTimeout.getD old.healthCheckTimeout
  failoverThreshold := body.failoverThreshold.getD old.failoverThreshold
  healthStatus := old.healthStatus

end Rows

/-- `format!("Upstream {} not found", id)`. -/
def notFound (id : Str) : AppError := .notFound (str "Upstream " ++ id ++ str " not found")

/-! ## The shared state -/

def statusText (isHealthy : Bool) : Str := if isHealthy then str "healthy" else str "degraded"

/-- The result of a probe, with the number of probes of the upstream that have failed
in a row, up to this one. -/
structure Verdict where
  id : Str
  isHealthy : Bool
  failures : ℕ
  counted : isHealthy = false → 1 ≤ failures
deriving DecidableEq

structure Shared where
  db : Database
  pool : UpstreamPool
  /-- The ticks of the health task of `main.rs` that have ended. -/
  ticks : ℕ
  /-- The probes of each upstream that have failed since the last that succeeded. -/
  failures : Str → ℕ

/-- `UpstreamRepository::list`. -/
def listUpstreams (db : Database) : List DnsUpstream :=
  db.dnsUpstreams.rows.insertionSort fun row other =>
    row.priority < other.priority ∨ row.priority = other.priority ∧ row.name ≤ other.name

def updateLatency (pool : UpstreamPool) (id : Str) (latencyMs : ℤ) : UpstreamPool where
  nodes := pool.nodes.map fun node =>
    if node.model.id == id then { node with lastLatencyMs := latencyMs } else node
  strategy := pool.strategy
  nonempty := by simpa using pool.nonempty
  sorted := by
    have hpriority : ∀ node : UpstreamNode, (if node.model.id == id then
        { node with lastLatencyMs := latencyMs } else node).model.priority =
        node.model.priority := by
      intro node
      split <;> rfl
    rw [List.pairwise_map]
    simpa only [hpriority] using pool.sorted

namespace Shared

/-- A statement on `dns_upstreams`. -/
def modifyRows (shared : Shared)
    (statement : Table DnsUpstream.id → Table DnsUpstream.id) : Shared :=
  { shared with db := { shared.db with dnsUpstreams := statement shared.db.dnsUpstreams } }

def verdict (shared : Shared) (id : Str) (isHealthy : Bool) : Verdict where
  id := id
  isHealthy := isHealthy
  failures := if isHealthy then 0 else shared.failures id + 1
  counted := by
    rintro rfl
    exact Nat.le_add_left 1 (shared.failures id)

def record (shared : Shared) (verdict : Verdict) : Shared :=
  { shared with failures := Function.update shared.failures verdict.id verdict.failures }

def recordAll (shared : Shared) : List (Str × ℤ × Bool) → Shared × List Verdict
  | [] => (shared, [])
  | (id, _, isHealthy) :: rest =>
    let verdict := shared.verdict id isHealthy
    let (after, verdicts) := (shared.record verdict).recordAll rest
    (after, verdict :: verdicts)

/-- `UPDATE dns_upstreams SET health_status = … WHERE id = …`. -/
def report (shared : Shared) (verdict : Verdict) : Shared :=
  shared.modifyRows fun rows => rows.updateWhere (·.id == verdict.id)
    (fun row => { row with healthStatus := statusText verdict.isHealthy }) fun _ => rfl

end Shared

/-! ## The tasks -/

/-- Where a call of `reload_upstreams` stands: before its two queries, or before the
new pool is put in place. -/
inductive ReloadPoint where
  | list
  | strategy (upstreams : List DnsUpstream)
  | store (upstreams : List DnsUpstream) (strategy : Str)

inductive Task where
  /-- The task of `main.rs`, waiting for the next tick. -/
  | idle
  /-- It has checked the nodes. -/
  | probed (verdicts : List Verdict)
  /-- It has read the rows and has these results left to write. -/
  | writing (upstreams : List DnsUpstream) (verdicts : List Verdict) (needsReload : Bool)
  /-- It has written them all and reloads the pool. -/
  | tickReload (point : ReloadPoint)
  /-- The task of the API, waiting for its next tick. -/
  | apiIdle
  /-- It has these rows left to check. -/
  | apiChecking (rows : List DnsUpstream)
  | create (body : CreateUpstreamRequest)
  | update (id : Str) (body : UpdateUpstreamRequest)
  /-- `update` has read the row and knows what to write. -/
  | updateRow (row : DnsUpstream)
  | delete (id : Str)
  | test (id : Str)
  /-- `test` has read the row and takes its first address. -/
  | testRow (row : DnsUpstream) (first : Str)
  | settings (strategy : Str)
  /-- A handler has written and reloads the pool. -/
  | requestReload (point : ReloadPoint) (reply : Reply)

inductive Request where
  | create (body : CreateUpstreamRequest)
  | update (id : Str) (body : UpdateUpstreamRequest)
  | delete (id : Str)
  | test (id : Str)
  | settings (strategy : Str)

def Request.begin : Request → Task
  | create body => .create body
  | update id body => .update id body
  | delete id => .delete id
  | test id => .test id
  | settings strategy => .settings strategy

structure Input where
  /-- The checks of the pool, and their results in the order in which they arrive. -/
  probes : UpstreamNode → Probe := fun _ => ⟨.error, 0, 0⟩
  results : List (Str × ℤ × Bool) := []
  /-- Whether the row of the API task is due. -/
  due : Bool := true
  /-- The host names, and how the lookup of a single check ends. -/
  lookup : HostLookup := fun _ => none
  outcome : LookupOutcome := .error
  elapsedMs : ℕ := 0
  latencyMs : ℤ := 0
  error : Str := []
  /-- The result of `Uuid::new_v4`. -/
  newId : Str := []

inductive Next where
  | running (task : Task)
  | finished (reply : Except AppError Reply)

def Next.task? : Next → Option Task
  | running task => some task
  | finished _ => none

/-- A status change that the health task of `main.rs` reacts to: the row it has read
has another status, and `failover_enabled`. -/
def notices (upstreams : List DnsUpstream) (verdict : Verdict) : Bool :=
  (upstreams.find? (·.id == verdict.id)).any fun upstream =>
    upstream.healthStatus != statusText verdict.isHealthy && upstream.failoverEnabled

def finishTick (shared : Shared) (needsReload : Bool) : Shared × Task :=
  if needsReload then (shared, .tickReload .list)
  else ({ shared with ticks := shared.ticks + 1 }, .idle)

section Act

variable [SerdeJson]

def verdictOf (shared : Shared) (task : Task) (input : Input) : Option Verdict :=
  match task with
  | .writing _ (verdict :: _) _ => some verdict
  | .apiChecking (row :: _) =>
    if input.due then
      (checkRow input.lookup row input.outcome input.elapsedMs).map (shared.verdict row.id)
    else none
  | .testRow row first =>
    some (shared.verdict row.id
      (testDnsConnectivity input.lookup first (deadlineMs row) input.outcome input.elapsedMs))
  | _ => none

def nextRow : List DnsUpstream → Task
  | [] => .apiIdle
  | row :: rest => .apiChecking (row :: rest)

variable [Unicode]

/-- `DnsHandler::reload_upstreams`, from one point to the next. -/
def reload (preferIpv4 : Bool) (shared : Shared) : ReloadPoint → Shared × Option ReloadPoint
  | .list => (shared, some (.strategy (listUpstreams shared.db)))
  | .strategy upstreams =>
    (shared, some (.store upstreams
      ((shared.db.setting (str "upstream_strategy")).getD (str "priority"))))
  | .store upstreams strategy => ({ shared with pool := new upstreams strategy preferIpv4 }, none)

variable [Wire]

def actNext (preferIpv4 : Bool) (shared : Shared) (task : Task) (input : Input) : Shared × Next :=
  match task with
  | .idle =>
    let (results, pool) := shared.pool.healthCheckAll input.probes
    -- the results arrive in some order
    if (input.results : Multiset (Str × ℤ × Bool)) = results then
      if input.results = [] then
        ({ shared with pool := pool, ticks := shared.ticks + 1 }, .running .idle)
      else
        let (shared, verdicts) := { shared with pool := pool }.recordAll input.results
        (shared, .running (.probed verdicts))
    else (shared, .running .idle)
  | .probed verdicts => (shared, .running (.writing (listUpstreams shared.db) verdicts false))
  | .writing _ [] needsReload =>
    let (shared, task) := finishTick shared needsReload
    (shared, .running task)
  | .writing upstreams (verdict :: rest) needsReload =>
    let shared := shared.report verdict
    let needsReload := needsReload || notices upstreams verdict
    if rest = [] then
      let (shared, task) := finishTick shared needsReload
      (shared, .running task)
    else (shared, .running (.writing upstreams rest needsReload))
  | .tickReload point =>
    match reload preferIpv4 shared point with
    | (shared, some point) => (shared, .running (.tickReload point))
    | (shared, none) => ({ shared with ticks := shared.ticks + 1 }, .running .idle)
  | .apiIdle =>
    (shared, .running (nextRow
      (shared.db.dnsUpstreams.rows.filter fun row => row.isActive && row.healthCheckEnabled)))
  | .apiChecking [] => (shared, .running .apiIdle)
  | .apiChecking (row :: rest) =>
    match verdictOf shared (.apiChecking (row :: rest)) input with
    | none => (shared, .running (nextRow rest))
    | some verdict =>
      let shared := shared.record verdict
      let shared := { shared with pool := updateLatency shared.pool row.id input.latencyMs }
      (shared.report verdict, .running (nextRow rest))
  | .create body =>
    match createdRow input.newId body with
    | .error complaint => (shared, .finished (.error complaint))
    | .ok row =>
      match shared.db.dnsUpstreams.insert row with
      | none => (shared, .finished (.error .database))
      | some rows =>
        (shared.modifyRows fun _ => rows, .running (.requestReload .list (.upstream row)))
  | .update id body =>
    match shared.db.dnsUpstreams.find? id with
    | none => (shared, .finished (.error (notFound id)))
    | some old => (shared, .running (.updateRow (updatedRow old body)))
  | .updateRow row =>
    -- the status is not among the columns that are written
    (shared.modifyRows fun rows => rows.updateWhere (·.id == row.id)
        (fun old => { row with id := old.id, healthStatus := old.healthStatus }) fun _ => rfl,
      .running (.requestReload .list (.upstream row)))
  | .delete id =>
    if shared.db.dnsUpstreams.rowsAffected (·.id == id) = 0 then
      (shared, .finished (.error (notFound id)))
    else
      (shared.modifyRows (·.deleteWhere (·.id == id)), .running (.requestReload .list .deleted))
  | .test id =>
    match shared.db.dnsUpstreams.find? id with
    | none => (shared, .finished (.error (notFound id)))
    | some row =>
      match SerdeJson.stringVec row.addresses with
      | none =>
        (shared, .finished (.error
          (.internal (str "Invalid addresses format: " ++ input.error))))
      | some [] =>
        (shared, .finished (.ok (.tested false 0 (some (str "No addresses configured")))))
      | some (first :: _) => (shared, .running (.testRow row first))
  | .testRow row first =>
    let success :=
      testDnsConnectivity input.lookup first (deadlineMs row) input.outcome input.elapsedMs
    let verdict := shared.verdict row.id success
    ((shared.record verdict).report verdict,
      .finished (.ok (.tested success input.latencyMs (if success then none else input.error))))
  | .settings strategy =>
    if strategy ≠ str "priority" ∧ strategy ≠ str "fastest" ∧ strategy ≠ str "load_balance" then
      (shared, .finished (.error (.validation
        (str "upstream_strategy must be one of: priority, fastest, load_balance"))))
    else
      ({ shared with
          db := { shared.db with
            settings := shared.db.settings.upsert ⟨str "upstream_strategy", strategy⟩
              (fun row => { row with value := strategy }) fun _ => rfl } },
        .running (.requestReload .list .saved))
  | .requestReload point reply =>
    match reload preferIpv4 shared point with
    | (shared, some point) => (shared, .running (.requestReload point reply))
    | (shared, none) => (shared, .finished (.ok reply))

/-- One step of a task, without the answer to its request. -/
def act (preferIpv4 : Bool) (shared : Shared) (task : Task) (input : Input) :
    Shared × Option Task :=
  let (shared, next) := actNext preferIpv4 shared task input
  (shared, next.task?)

abbrev step (preferIpv4 : Bool) :
    Tasks.State Shared Task → Tasks.Event Request Input → Tasks.State Shared Task × Unit :=
  Tasks.step Request.begin (act preferIpv4)

def start (preferIpv4 : Bool) (db : Database) : Tasks.State Shared Task where
  shared :=
    { db := db
      pool := new (listUpstreams db)
        ((db.setting (str "upstream_strategy")).getD (str "priority")) preferIpv4
      ticks := 0
      failures := fun _ => 0 }
  tasks := [.idle, .apiIdle]

end Act

end RustDns.Api.Upstreams
