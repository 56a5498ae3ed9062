import RustDns.Machine
import RustDns.Api.Rules
import RustDns.Api.Rewrites
import RustDns.Api.Filters
import RustDns.Api.Clients

/-!
# The routes and what a read-only token can change

`api/router.rs`: every route with the guard of its handler.  The guard is the
type of one argument of the handler, so it is chosen handler by handler:

* six handlers have none;
* the administration handlers take an `AdminUser`;
* all others take an `AuthUser`, which accepts any role.  Most of these only read
  the tables of `Database`; the handlers of rules, filter lists, rewrites and
  clients write them.

A read-only token is therefore stopped by the administration handlers, but not by
the handlers of the last group (`run_readOnly_unchanged`, `run_readOnly_confined`).
The bodies of the administration handlers are a parameter.
-/

namespace RustDns.Api

open Text Program Machine

/-! ## Routes -/

/-- The handlers behind `AuthUser` that do not write the tables of `Database`. -/
inductive ReadHandler where
  | dashboardGetStats | dashboardGetQueryTrend | dashboardGetTopBlockedDomains
  | dashboardGetTopClients | dashboardGetTopQueriedDomains | dashboardGetUpstreamTrend
  | dashboardGetUpstreamDistribution | dashboardGetLatencyStats | dashboardGetLatencyTrend
  | dashboardGetUpstreamHealthHistory
  | queryLogList | queryLogListAdvanced | queryLogListAdvancedPost | queryLogAggregate
  | queryLogTop | queryLogSuggest
  | templatesList | templatesCreate | templatesGet | templatesUpdate | templatesDelete
  | filtersList | filterStatsGet
  | rulesList | ruleHitStats | ruleHitDetail | exportRules | validateRule | getExpiringRules
  | rewritesList | clientsList | clientsPtrLookup | clientsGetActivity
  | listGroups | getGroupMembers | getGroupRules
  | upstreamsList | upstreamsGetHealth | upstreamsGet | upstreamsFailoverLog
  | listAlerts | issueTicket | checkDomains
  | insightsTopApps | insightsAppTrend | insightsListCatalog | insightsTopDomains
  | insightsGetAnomalies | sandboxTestRule

/-- The handlers behind `AdminUser`. -/
inductive AdminHandler where
  | queryLogExport | queryLogBulkDelete
  | createGroup | updateGroup | deleteGroup
  | batchAddClients | batchRemoveClients | batchMoveClients | batchBindRules | batchUnbindRules
  | upstreamsCreate | upstreamsUpdate | upstreamsDelete | upstreamsTest | triggerFailover
  | settingsGetDns | settingsUpdateDns
  | usersList | usersCreate | usersUpdateRole
  | auditLogList
  | clearAlerts | markAllAlertsRead | listMutes | upsertMute | deleteMute | deleteAlert
  | markAlertRead
  | prometheusMetrics | createBackup | getCacheStats | flushCache

/-- The handlers behind `AuthUser` that write rules, rewrites, filter lists or
clients. -/
inductive WriteCall where
  | rulesCreate (body : Rules.CreateRuleRequest)
  | rulesUpdate (id : Str) (body : Rules.UpdateRuleRequest)
  | rulesToggle (id : Str) (isEnabled : Bool)
  | rulesDelete (id : Str)
  | rulesBulkAction (req : Rules.BulkActionRequest)
  | rulesImport (multipart : List (Except Str Rules.Field))
  | rewritesCreate (domain answer : Str)
  | rewritesUpdate (id : Str) (domain answer : Option Str)
  | rewritesDelete (id : Str)
  | filtersCreate (body : Filters.CreateFilterRequest)
  | filtersUpdate (id : Str) (body : Filters.UpdateFilterRequest)
  | filtersDelete (id : Str)
  | filtersRefresh (id : Str)
  | clientsCreate (body : Clients.CreateClientRequest)
  | clientsUpdate (id : Str) (body : Clients.UpdateClientRequest)
  | clientsDelete (id : Str)

inductive Endpoint where
  | healthCheck
  | login
  | logout
  | queryLogWs
  /-- DNS over HTTPS, with the address whose policy is looked up if the request
  gets that far. -/
  | doh (clientIp : Option Str)
  | changePassword (req : ChangePasswordRequest)
  | read (handler : ReadHandler)
  | write (call : WriteCall)
  | admin (handler : AdminHandler) (body : Str)

structure Request where
  authorization : Option Str
  env : Env
  endpoint : Endpoint

section Dispatch

variable [Unicode] [RegexCrate] [SerdeJson] [IpNetCrate] [Jwt] [PasswordHash]

def Request.claims (request : Request) : Option Claims :=
  bearerClaims request.env.now request.authorization

def ignoreResponse {α : Type} (handler : ApiM α) : ApiM Unit := do
  let _ ← handler
  return ()

def WriteCall.handle (env : Env) (auth : Claims) : WriteCall → ApiM Unit
  | .rulesCreate body => ignoreResponse (Rules.create env auth body)
  | .rulesUpdate id body => ignoreResponse (Rules.update env id body)
  | .rulesToggle id isEnabled => Rules.toggle env id isEnabled
  | .rulesDelete id => Rules.delete env id
  | .rulesBulkAction req => ignoreResponse (Rules.bulkAction env req)
  | .rulesImport multipart => ignoreResponse (Rules.importRules env auth multipart)
  | .rewritesCreate domain answer => ignoreResponse (Rewrites.create env auth domain answer)
  | .rewritesUpdate id domain answer => ignoreResponse (Rewrites.update env id domain answer)
  | .rewritesDelete id => Rewrites.delete env id
  | .filtersCreate body => ignoreResponse (Filters.create env body)
  | .filtersUpdate id body => ignoreResponse (Filters.update env id body)
  | .filtersDelete id => Filters.delete env id
  | .filtersRefresh id => Filters.refresh id
  | .clientsCreate body => ignoreResponse (Clients.create env body)
  | .clientsUpdate id body => Clients.update env id body
  | .clientsDelete id => Clients.delete id

abbrev AdminBodies := AdminHandler → Str → Env → Claims → ApiM Unit

def dispatch (admin : AdminBodies) (request : Request) : ApiM Unit :=
  match request.endpoint with
  | .healthCheck => pure ()
  | .login => pure ()
  | .queryLogWs => pure ()
  | .logout => logout request.env request.authorization
  | .doh none => pure ()
  | .doh (some clientIp) => ignoreResponse (getClientConfig request.env clientIp)
  | .changePassword req => do
    let claims ← authUser request.env request.authorization
    changePassword request.env claims req
  | .read _ => ignoreResponse (authUser request.env request.authorization)
  | .write call => do
    let claims ← authUser request.env request.authorization
    call.handle request.env claims
  | .admin handler body => do
    let claims ← adminUser request.env request.authorization
    admin handler body request.env claims

def serve (admin : AdminBodies) (state : AppState) (request : Request) :
    AppState × Except AppError Unit :=
  let (outcome, after) := (dispatch admin request).eval state
  (after, outcome)

end Dispatch

/-! ## Read-only tokens -/

section ReadOnly

variable [Unicode] [RegexCrate] [SerdeJson] [IpNetCrate] [Jwt] [PasswordHash]

/-- Whatever token comes with the request has the role `read_only`. -/
def Request.ReadOnly (request : Request) : Prop :=
  ∀ claims, request.claims = some claims → claims.role = str "read_only"

/-- The request comes to one of the handlers that write behind `AuthUser`: its token
is accepted.  For `filters::refresh` it is the started synchronisation that
writes. -/
def Request.WritesIn (state : AppState) (request : Request) : Prop :=
  (∃ call, request.endpoint = .write call) ∧
    (acceptedClaims request.env request.authorization state).isSome = true

/-- The users in whose name a run is made. -/
def requesters (requests : List Request) : List Str :=
  (requests.filterMap Request.claims).map Claims.sub

structure HidesWritable (view : Database → Database) : Prop where
  customRules : ∀ db table, view { db with customRules := table } = view db
  dnsRewrites : ∀ db table, view { db with dnsRewrites := table } = view db
  filterLists : ∀ db table, view { db with filterLists := table } = view db
  clients : ∀ db table, view { db with clients := table } = view db

variable {view : Database → Database}

omit [SerdeJson] [IpNetCrate] [Jwt] [PasswordHash] in
theorem ignoreResponse_respects {α : Type} {handler : ApiM α}
    (hhandler : Respects (SameView view) handler) :
    Respects (SameView view) (ignoreResponse handler) :=
  respects_bind hhandler fun _ => respects_pure _

omit [IpNetCrate] [Jwt] [PasswordHash] in
theorem WriteCall.handle_respects (hview : HidesWritable view) (env : Env) (auth : Claims)
    (call : WriteCall) : Respects (SameView view) (call.handle env auth) := by
  intro state
  have hrules := hview.customRules state.db
  have hrewrites := hview.dnsRewrites state.db
  have hlists := hview.filterLists state.db
  have hclients := hview.clients state.db
  cases call with
  | rulesCreate body =>
    exact (Rules.create_writes env state auth body).ignored.sameView hrules
  | rulesUpdate id body =>
    exact (Rules.update_writes env state id body).ignored.sameView hrules
  | rulesToggle id isEnabled => exact (Rules.toggle_writes env state id isEnabled).sameView hrules
  | rulesDelete id => exact (congrArg view (Rules.delete_writes env state id).2).trans (hrules _)
  | rulesBulkAction req =>
    exact (Rules.bulkAction_writes env state req).ignored.sameView hrules
  | rulesImport multipart =>
    exact (Rules.importRules_writes env state auth multipart).ignored.sameView
      hrules
  | rewritesCreate domain answer =>
    exact (Rewrites.create_writes env state auth domain answer).ignored.sameView
      hrewrites
  | rewritesUpdate id domain answer =>
    exact (Rewrites.update_writes env state id domain answer).ignored.sameView
      hrewrites
  | rewritesDelete id => exact (Rewrites.delete_writes env state id).sameView hrewrites
  | filtersCreate body =>
    exact (Filters.create_writes env state body).ignored.sameView hlists
  | filtersUpdate id body =>
    exact (Filters.update_writes env state id body).ignored.sameView hlists
  | filtersDelete id =>
    let left := state.db.customRules.deleteWhere (·.createdBy = str "filter:" ++ id)
    refine (congrArg view (Filters.delete_writes env state id).2).trans ?_
    exact (hview.filterLists (state.withRules left).db _).trans (hrules left)
  | filtersRefresh id => exact congrArg view (Filters.refresh_untouched id state).2
  | clientsCreate body =>
    exact (Clients.create_writes env state body).ignored.sameView hclients
  | clientsUpdate id body => exact (Clients.update_writes env state id body).sameView hclients
  | clientsDelete id => exact (Clients.delete_writes state id).sameView hclients

variable (admin : AdminBodies) (state : AppState)

theorem serve_sameView {state : AppState} {request : Request} (hreadOnly : request.ReadOnly)
    (hpassword : ∀ claims, request.claims = some claims →
      ∀ hash now db, view (db.setPassword claims.sub hash now) = view db)
    (hwrite : request.WritesIn state → HidesWritable view) :
    SameView view state (serve admin state request).1 := by
  have hauth := authUser_returns request.env request.authorization
  change SameView view state ((dispatch admin request).exec state)
  unfold dispatch
  cases hendpoint : request.endpoint with
  | healthCheck => exact respects_pure _ state
  | login => exact respects_pure _ state
  | queryLogWs => exact respects_pure _ state
  | logout => exact logout_respects _ _ state
  | doh clientIp =>
    cases clientIp with
    | none => exact respects_pure _ state
    | some clientIp => exact ignoreResponse_respects (getClientConfig_respects _ _) state
  | changePassword req =>
    refine respects_bind_of_returns (authUser_respects _ _) hauth ?_ state
    exact fun claims hclaims =>
      changePassword_respects request.env
        (fun hash now state => hpassword claims hclaims hash now state.db) req
  | read handler => exact ignoreResponse_respects (authUser_respects _ _) state
  | write call =>
    dsimp only
    cases haccepted : acceptedClaims request.env request.authorization state with
    | none =>
      -- the guard stops the request
      rw [exec, eval_bind, authUser_eval, haccepted]
      exact Std.Refl.refl state
    | some claims =>
      have hview := hwrite ⟨⟨call, hendpoint⟩, by simp [haccepted]⟩
      exact respects_bind (authUser_respects _ _)
        (fun claims => call.handle_respects hview request.env claims) state
  | admin handler body =>
    -- the guard does not return for a read-only token
    refine respects_bind_of_returns (adminUser_respects _ _) (adminUser_returns _ _) ?_ state
    rintro claims ⟨hclaims, hrole⟩
    rw [hreadOnly claims hclaims] at hrole
    exact absurd hrole (by decide)

/-- A run of read-only requests keeps every view that shows no password of the
requesters and, unless the run has no writing request, none of the four tables. -/
theorem run_sameView {requests : List Request} (hreadOnly : ∀ request ∈ requests, request.ReadOnly)
    (hpassword : ∀ id ∈ requesters requests,
      ∀ hash now db, view (db.setPassword id hash now) = view db)
    (hwrite : (∃ point ∈ trace (serve admin) state requests, point.2.WritesIn point.1) →
      HidesWritable view) :
    SameView view state (run (serve admin) state requests) ∧
      ∀ point ∈ trace (serve admin) state requests, SameView view state point.1 := by
  refine forall_trace (serve admin) (SameView view state)
    (fun before request => request ∈ requests ∧ (request.WritesIn before → HidesWritable view)) ?_
    (Std.Refl.refl state) requests
    fun point hpoint =>
      ⟨mem_of_mem_trace _ hpoint, fun hiswrite => hwrite ⟨point, hpoint, hiswrite⟩⟩
  rintro before request hbefore ⟨hrequest, hview⟩
  refine IsTrans.trans _ _ _ hbefore (serve_sameView admin (hreadOnly request hrequest) ?_ hview)
  intro claims hclaims
  exact hpassword claims.sub
    (List.mem_map_of_mem (List.mem_filterMap.mpr ⟨request, hrequest, hclaims⟩))

/-- The tables are the same in every state of the run, except for the passwords
of the requesters. -/
def Unchanged (admin : AdminBodies) (state : AppState) (requests : List Request) : Prop :=
  SameView (Database.withoutPasswords (requesters requests)) state
      (run (serve admin) state requests) ∧
    ∀ point ∈ trace (serve admin) state requests,
      SameView (Database.withoutPasswords (requesters requests)) state point.1

/-- **Read-only runs in which no accepted request writes.**  All tables stay as they
are, up to the own passwords. -/
theorem run_readOnly_unchanged (admin : AdminBodies) (state : AppState) (requests : List Request)
    (hreadOnly : ∀ request ∈ requests, request.ReadOnly)
    (hwrite : ∀ point ∈ trace (serve admin) state requests, ¬ point.2.WritesIn point.1) :
    Unchanged admin state requests :=
  run_sameView admin state hreadOnly
    (fun _ hid hash now db => Database.withoutPasswords_setPassword hid hash now db)
    fun ⟨point, hpoint, hwrites⟩ => absurd hwrites (hwrite point hpoint)

/-- The database without the four tables that any token may write. -/
def withoutWritable (db : Database) : Database :=
  { db with customRules := .empty, dnsRewrites := .empty, filterLists := .empty, clients := .empty }

/-- **All read-only runs.**  Groups, memberships, bindings, upstreams, settings
and users stay as they are, up to the own passwords. -/
theorem run_readOnly_confined (requests : List Request)
    (hreadOnly : ∀ request ∈ requests, request.ReadOnly) :
    SameView (fun db => withoutWritable (db.withoutPasswords (requesters requests))) state
      (run (serve admin) state requests) := by
  refine (run_sameView admin state hreadOnly ?_ ?_).1
  · intro id hid hash now db
    exact congrArg withoutWritable (Database.withoutPasswords_setPassword hid hash now db)
  · exact fun _ => ⟨fun _ _ => rfl, fun _ _ => rfl, fun _ _ => rfl, fun _ _ => rfl⟩

end ReadOnly

/-! ## A run -/

section Example

def viewer : Claims :=
  { sub := str "u1", username := str "viewer", role := str "read_only", exp := 1767312000
    iat := 1767225600, jti := str "t1" }

/-- The token with these claims, signed with the secret `example-secret`. -/
def viewerToken : Str :=
  str "eyJ0eXAiOiJKV1QiLCJhbGciOiJIUzI1NiJ9." ++
    str "eyJzdWIiOiJ1MSIsInVzZXJuYW1lIjoidmlld2VyIiwicm9sZSI6InJlYWRfb25seSIsImV4cCI6" ++
    str "MTc2NzMxMjAwMCwiaWF0IjoxNzY3MjI1NjAwLCJqdGkiOiJ0MSJ9." ++
    str "ffKCN-Vp_zXXx_whuxugB0eYht5bf0JAtusQVXx_byc"

@[reducible] def viewerJwt : Jwt where
  verify := fun _ token => if token = viewerToken then some viewer else none

def exampleHash (password : Str) : Option Str :=
  let head := str "$argon2id$v=19$m=19456,t=2,p=1$c2FsdHNhbHRzYWx0c2FsdA$"
  if password = str "password" then
    some (head ++ str "T95q7S205tf9WI4HhYOZDIQmMMAbntacGXTIku0gXT8")
  else if password = str "new-password" then
    some (head ++ str "UN2PcNUMISOdc5JdvmRC3CObp6Nv9E9sp4Ar3SDrrEQ")
  else none

@[reducible] def examplePasswordHash : PasswordHash where
  verify := fun password hash => exampleHash password = some hash
  hash := fun _ password => (exampleHash password).elim (.error []) .ok

attribute [local instance] Unicode.ascii RegexCrate.fragment SerdeJson.plain IpNetCrate.cidr
  viewerJwt examplePasswordHash

def exampleEnv : Env :=
  { now := str "2026-01-01T00:00:00+00:00", salt := str "c2FsdHNhbHRzYWx0c2FsdA"
    newId := fun _ => str "6f9619ff-8b86-4d01-b42d-00cf4fc964ff"
    reloadFails := Reload.noFailure, reloadError := [], configFails := fun _ => false }

def viewerRow : User :=
  { id := str "u1", username := str "viewer"
    password := (exampleHash (str "password")).getD [], role := str "read_only", isActive := true
    createdAt := [], updatedAt := [] }

def exampleState : AppState :=
  { db := { Database.empty with users := ⟨[viewerRow], List.nodup_singleton _⟩ }
    filter := ⟨.new, .empty⟩, clientConfigCache := [], tokenBlacklist := [], spawnedSyncs := [] }

def viewerRequest (endpoint : Endpoint) : Request :=
  ⟨some (str "Bearer " ++ viewerToken), exampleEnv, endpoint⟩

theorem viewerRequest_readOnly (endpoint : Endpoint) : (viewerRequest endpoint).ReadOnly := by
  intro claims hclaims
  have hviewer : bearerClaims exampleEnv.now (some (str "Bearer " ++ viewerToken)) =
      some viewer := by decide +kernel
  rw [← Option.some.inj (hviewer.symm.trans hclaims)]
  rfl

/-- The user changes the password, looks at the rules and tries to delete a
group. -/
def readingRun : List Request :=
  [viewerRequest (.changePassword ⟨str "password", str "new-password"⟩),
    viewerRequest (.read .rulesList), viewerRequest (.admin .deleteGroup [])]

theorem run_readOnly_unchanged_readingRun :
    Unchanged (fun _ _ _ _ => modifyDb fun _ => Database.empty) exampleState readingRun := by
  refine run_readOnly_unchanged _ exampleState readingRun ?_ ?_
  · intro request hrequest
    simp only [readingRun, List.mem_cons, List.not_mem_nil, or_false] at hrequest
    rcases hrequest with rfl | rfl | rfl <;> exact viewerRequest_readOnly _
  · rintro point hpoint ⟨⟨call, hcall⟩, -⟩
    have hrequest := mem_of_mem_trace _ hpoint
    simp only [readingRun, List.mem_cons, List.not_mem_nil, or_false] at hrequest
    rcases hrequest with hrequest | hrequest | hrequest <;> rw [hrequest] at hcall <;> cases hcall

def writingRun : List Request := [viewerRequest (.write (.rulesCreate ⟨str "*", none, none⟩))]

/-- A read-only token is enough to create a rule. -/
theorem not_unchanged_writingRun :
    (∀ request ∈ writingRun, request.claims.map Claims.role = some (str "read_only")) ∧
      ¬ Unchanged (fun _ _ _ _ => pure ()) exampleState writingRun := by
  refine ⟨by decide +kernel, fun hunchanged => ?_⟩
  have hrules := congrArg (fun db => db.customRules.rows.length) hunchanged.1
  revert hrules
  decide +kernel

theorem run_readOnly_confined_writingRun :
    SameView (fun db => withoutWritable (db.withoutPasswords (requesters writingRun))) exampleState
      (run (serve fun _ _ _ _ => pure ()) exampleState writingRun) := by
  refine run_readOnly_confined _ exampleState writingRun fun request hrequest => ?_
  rw [List.mem_singleton.mp hrequest]
  exact viewerRequest_readOnly _

end Example

end RustDns.Api
