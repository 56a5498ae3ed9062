import RustDns.Program
import RustDns.Dns.ClientConfig

/-!
# The state behind the management interface

A handler is a program over the shared `AppState`: the database, the filter
engine, the policies that the DNS handler has cached, and the tokens that have
been logged out.  A statement on the database is committed when it is executed,
so a handler that fails later has still written.

The statements themselves only fail where they violate a key or a unique index.
The queries inside `FilterEngine::reload` may fail in any pattern, given by the
`Env` of the request along with the clock and the generated ids.

Left out of the state are the metrics and the audit log, which are only written.
The maps of login attempts, of tickets and of the health of the upstreams are
modelled where they are used.
-/

namespace RustDns

open Text Program

/-- `AppError`, with the variants that the modelled handlers return.  The text of
a database error is left out. -/
inductive AppError where
  | database
  | authFailed
  | unauthorized (message : Str)
  | notFound (message : Str)
  | conflict (message : Str)
  | validation (message : Str)
  | internal (message : Str)
deriving DecidableEq

structure Env where
  /-- `Utc::now().to_rfc3339()`. -/
  now : Str
  /-- The results of `Uuid::new_v4`, in order. -/
  newId : ℕ → Str
  /-- The salt for a new password hash. -/
  salt : Str
  /-- The queries of `FilterEngine::reload` that fail, and with which text. -/
  reloadFails : ReloadQuery → Bool
  reloadError : Str
  /-- The queries of `resolve_client_config` that fail. -/
  configFails : ClientQuery → Bool
  /-- Where an `UPDATE` leaves a row of `dns_rewrites`, which are read without an order. -/
  rewriteOrder : Table.Reorder DnsRewrite.id := .inPlace

structure AppState [Unicode] [RegexCrate] where
  db : Database
  filter : FilterEngine
  /-- `DnsHandler::client_config_cache`, by client address. -/
  clientConfigCache : List (Str × ClientConfig)
  /-- The `jti` of the tokens that were logged out. -/
  tokenBlacklist : List Str
  /-- The filter list synchronisations that were spawned: list id and URL. -/
  spawnedSyncs : List (Str × Str)

/-- A handler: `AppResult` over the shared state. -/
abbrev ApiM [Unicode] [RegexCrate] := Program AppState AppError

section Operations

variable [Unicode] [RegexCrate] [SerdeJson]

def modifyDb (statement : Database → Database) : ApiM Unit :=
  modify fun state => { state with db := statement state.db }

/-- `state.filter.reload()`, with its error mapped to `AppError::Internal`. -/
def reloadFilter (env : Env) : ApiM Unit := do
  match FilterEngine.reload env.reloadFails env.now (← get).db with
  | none => throw (.internal env.reloadError)
  | some filter => modify fun state => { state with filter }

def tryReloadFilter (env : Env) : ApiM Unit := do
  match FilterEngine.reload env.reloadFails env.now (← get).db with
  | none => return ()
  | some filter => modify fun state => { state with filter }

def invalidateAllClientCache : ApiM Unit :=
  modify fun state => { state with clientConfigCache := [] }

def getClientConfig [IpNetCrate] (env : Env) (clientIp : Str) : ApiM ClientConfig := do
  let state ← get
  match state.clientConfigCache.lookup clientIp with
  | some cached => return cached
  | none =>
    let config := resolveClientConfig env.configFails state.db clientIp
    modify fun state =>
      { state with clientConfigCache := (clientIp, config) :: state.clientConfigCache }
    return config

/-- `tokio::spawn` of `sync_filter_list` and a reload. -/
def spawnSync (filterId url : Str) : ApiM Unit :=
  modify fun state => { state with spawnedSyncs := state.spawnedSyncs ++ [(filterId, url)] }

end Operations

/-! ## Frames -/

def AppState.withRules [Unicode] [RegexCrate] (state : AppState) (table : Table CustomRule.id) :
    AppState :=
  { state with db := { state.db with customRules := table } }

def AppState.withRewrites [Unicode] [RegexCrate] (state : AppState) (table : Table DnsRewrite.id) :
    AppState :=
  { state with db := { state.db with dnsRewrites := table } }

def AppState.withLists [Unicode] [RegexCrate] (state : AppState) (table : Table FilterList.id) :
    AppState :=
  { state with db := { state.db with filterLists := table } }

/-- The state with another database and without the cached policies. -/
def AppState.invalidated [Unicode] [RegexCrate] (state : AppState) (db : Database) : AppState :=
  { state with db, clientConfigCache := [] }

/-- The databases of the two states agree in what `view` shows of them. -/
def SameView [Unicode] [RegexCrate] (view : Database → Database) (before after : AppState) : Prop :=
  view after.db = view before.db

section Frames

variable [Unicode] [RegexCrate] {view : Database → Database}

instance : Std.Refl (SameView view) := ⟨fun _ => rfl⟩

instance : IsTrans AppState (SameView view) := ⟨fun _ _ _ hab hbc => hbc.trans hab⟩

theorem respects_modify_of_db {change : AppState → AppState}
    (hdb : ∀ state, (change state).db = state.db) :
    Respects (SameView view) (modify change : ApiM PUnit) :=
  respects_modify fun state => congrArg view (hdb state)

def Untouched (before after : AppState) : Prop :=
  after.clientConfigCache = before.clientConfigCache ∧ after.db = before.db

instance : Std.Refl (Untouched : AppState → AppState → Prop) := ⟨fun _ => ⟨rfl, rfl⟩⟩

instance : IsTrans AppState Untouched :=
  ⟨fun _ _ _ hab hbc => ⟨hbc.1.trans hab.1, hbc.2.trans hab.2⟩⟩

theorem reloadFilter_untouched [SerdeJson] (env : Env) : Respects Untouched (reloadFilter env) := by
  unfold reloadFilter
  refine respects_bind respects_get fun state => ?_
  split
  · exact respects_throw _
  · exact respects_modify fun _ => ⟨rfl, rfl⟩

theorem tryReloadFilter_untouched [SerdeJson] (env : Env) :
    Respects Untouched (tryReloadFilter env) := by
  unfold tryReloadFilter
  refine respects_bind respects_get fun state => ?_
  split
  · exact respects_pure _
  · exact respects_modify fun _ => ⟨rfl, rfl⟩

theorem tryReloadFilter_respects [SerdeJson] (env : Env) :
    Respects (SameView view) (tryReloadFilter env) :=
  fun state => congrArg view (tryReloadFilter_untouched env state).2

theorem getClientConfig_respects [SerdeJson] [IpNetCrate] (env : Env) (clientIp : Str) :
    Respects (SameView view) (getClientConfig env clientIp) := by
  unfold getClientConfig
  refine respects_bind respects_get fun state => ?_
  split
  · exact respects_pure _
  · exact respects_bind (respects_modify_of_db fun _ => rfl) fun _ => respects_pure _

/-! ## Handlers that write once -/

/-- A handler that writes once at most: it leaves all as it was, or one of the states that
`write` gives, as far as the database and the cached policies go. -/
def Writes {ι : Type} (write : ι → AppState) (allowed : ι → Prop) (before after : AppState) :
    Prop :=
  Untouched before after ∨ ∃ i, allowed i ∧ Untouched (write i) after

section Writes

variable {ι α β : Type} {write : ι → AppState} {allowed : ι → Prop} {state before after : AppState}
  {program : ApiM α}

theorem Writes.refl : Writes write allowed state state := .inl ⟨rfl, rfl⟩

theorem Writes.elim {goal : AppState → Prop} (hwrites : Writes write allowed before after)
    (habsorbs : ∀ {middle after}, goal middle → Untouched middle after → goal after)
    (hbefore : goal before) (hwrite : ∀ i, allowed i → goal (write i)) : goal after := by
  rcases hwrites with hsame | ⟨i, hi, hsame⟩
  · exact habsorbs hbefore hsame
  · exact habsorbs (hwrite i hi) hsame

theorem Writes.sameView (hwrites : Writes write allowed before after)
    (hwrite : ∀ i, SameView view before (write i)) : SameView view before after :=
  hwrites.elim (fun hmiddle hsame => (congrArg view hsame.2).trans hmiddle) rfl fun i _ => hwrite i

theorem writes_bind {next : α → ApiM β} (hwrites : Writes write allowed state (program.exec state))
    (hnext : ∀ value, Respects Untouched (next value)) :
    Writes write allowed state ((program >>= next).exec state) :=
  related_bind (Writes write allowed)
    (fun hmiddle hsame => hmiddle.imp (IsTrans.trans _ _ _ · hsame)
      fun ⟨i, hi, hwritten⟩ => ⟨i, hi, IsTrans.trans _ _ _ hwritten hsame⟩) hwrites hnext

theorem Writes.ignored (hwrites : Writes write allowed state (program.exec state)) :
    Writes write allowed state ((do let _ ← program : ApiM Unit).exec state) :=
  writes_bind hwrites fun _ => respects_pure ()

theorem writes_modifyDb_bind {statement : Database → Database} {next : ApiM α} (i : ι)
    (hi : allowed i) (hwrite : Untouched (write i) { state with db := statement state.db })
    (hnext : Respects Untouched next) :
    Writes write allowed state ((modifyDb statement >>= fun _ => next).exec state) :=
  writes_bind (.inr ⟨i, hi, hwrite⟩) fun _ => hnext

end Writes

end Frames

end RustDns
