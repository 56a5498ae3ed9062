import RustDns.Api.Auth

/-!
# The clients

The handlers of `handlers/clients.rs` that write.  Identifiers, upstreams and tags
are stored as JSON texts.  Each of the handlers drops all cached policies.
-/

namespace RustDns.Api.Clients

open Text Program

variable [Unicode] [RegexCrate] [SerdeJson]

def validateJsonArray : Json.Value → Except AppError Unit
  | .array [] => .error (.validation (str "Array cannot be empty"))
  | .array _ => .ok ()
  | _ => .error (.validation (str "Must be a JSON array"))

structure CreateClientRequest where
  name : Str
  identifiers : Json.Value
  upstreams : Option Json.Value
  filterEnabled : Bool
  tags : Option Json.Value

def create (env : Env) (body : CreateClientRequest) : ApiM Client := do
  let name := trim body.name
  if name = [] then throw (.validation (str "Client name cannot be empty"))
  else match validateJsonArray body.identifiers with
    | .error e => throw e
    | .ok _ =>
      let row : Client :=
        { id := env.newId 0, name, identifiers := SerdeJson.toStr body.identifiers
          upstreams := body.upstreams.map SerdeJson.toStr
          filterEnabled := .bool body.filterEnabled
          tags := body.tags.map SerdeJson.toStr, createdAt := env.now, updatedAt := env.now }
      match (← get).db.clients.insert row with
      | none => throw .database
      | some table =>
        modifyDb fun db => { db with clients := table }
        invalidateAllClientCache
        return row

structure UpdateClientRequest where
  name : Option Str
  identifiers : Option Json.Value
  upstreams : Option Json.Value
  filterEnabled : Option Bool
  tags : Option Json.Value

def UpdateClientRequest.apply (body : UpdateClientRequest) (now : Str) (filterEnabled : Bool)
    (row : Client) : Client :=
  { row with
    name := body.name.getD row.name
    identifiers := (body.identifiers.map SerdeJson.toStr).getD row.identifiers
    upstreams := body.upstreams.map SerdeJson.toStr <|> row.upstreams
    filterEnabled := .bool filterEnabled
    tags := body.tags.map SerdeJson.toStr <|> row.tags
    updatedAt := now }

/-- `clients::update`.  The stored `filter_enabled` is decoded as a `bool`. -/
def update (env : Env) (id : Str) (body : UpdateClientRequest) : ApiM Unit := do
  match (← get).db.clients.find? id with
  | none => throw (.notFound (str "Client " ++ id ++ str " not found"))
  | some existing =>
    match existing.filterEnabled with
    | .int4 _ => throw .database
    | .bool oldFilterEnabled =>
      match (body.identifiers.map validateJsonArray).getD (.ok ()) with
      | .error e => throw e
      | .ok _ =>
        let filterEnabled := body.filterEnabled.getD oldFilterEnabled
        modifyDb fun db => { db with
          clients := db.clients.updateWhere (·.id = id)
            (body.apply env.now filterEnabled) fun _ => rfl }
        invalidateAllClientCache

def delete (id : Str) : ApiM Unit := do
  let affected := (← get).db.clients.rowsAffected (·.id = id)
  modifyDb fun db => { db with clients := db.clients.deleteWhere (·.id = id) }
  if affected = 0 then throw (.notFound (str "Client " ++ id ++ str " not found"))
  else invalidateAllClientCache

/-! ## What the handlers write -/

section Writes

def written (state : AppState) (table : Table Client.id) : AppState :=
  state.invalidated { state.db with clients := table }

variable (env : Env) (state : AppState)

theorem create_writes (body : CreateClientRequest) :
    Writes (written state) (fun table => ∃ row, state.db.clients.insert row = some table) state
      ((create env body).exec state) := by
  unfold create
  dsimp only
  split_ifs
  · exact .refl
  · split
    · exact .refl
    · rw [exec_get_bind]
      split
      · exact .refl
      · rename_i table hinsert
        exact .inr ⟨table, ⟨_, hinsert⟩, rfl, rfl⟩

theorem update_writes (id : Str) (body : UpdateClientRequest) :
    Writes (written state)
      (fun table => ∃ filterEnabled, table = state.db.clients.updateWhere (·.id = id)
        (body.apply env.now filterEnabled) fun _ => rfl)
      state ((update env id body).exec state) := by
  unfold update
  rw [exec_get_bind]
  split
  · exact .refl
  · split
    · exact .refl
    · split
      · exact .refl
      · exact .inr ⟨_, ⟨_, rfl⟩, rfl, rfl⟩

omit [SerdeJson] in
theorem delete_writes (id : Str) :
    Writes (written state) (· = state.db.clients.deleteWhere (·.id = id)) state
      ((delete id).exec state) := by
  unfold delete
  rw [exec_get_bind]
  by_cases haffected : state.db.clients.rowsAffected (·.id = id) = 0
  · -- the handler reports an error without invalidating, but nothing was deleted
    simp only [haffected, if_true]
    refine .inl ⟨rfl, ?_⟩
    change ({ state.db with clients := state.db.clients.deleteWhere (·.id = id) } : Database) = _
    rw [Table.deleteWhere_eq_self haffected]
  · simp only [haffected, if_false]
    exact .inr ⟨_, rfl, rfl, rfl⟩

end Writes

end RustDns.Api.Clients
