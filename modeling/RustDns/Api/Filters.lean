import RustDns.Api.Auth

/-!
# The filter lists

The handlers of `handlers/filters.rs` that write.  The download of a list runs in
the background: creating a list with a URL and refreshing one only start it.

Two lists never have the same URL.  Only `create` turns the violation of that
index into a conflict; for `update` it is a database error like any other.
-/

namespace RustDns.Api.Filters

open Text Program

variable [Unicode] [RegexCrate] [SerdeJson]

def isTaken (table : Table FilterList.id) (id : Str) (url : Option Str) : Bool :=
  url.isSome && table.rows.any fun row => row.url = url && row.id != id

structure CreateFilterRequest where
  name : Str
  url : Option Str
  isEnabled : Bool
  updateIntervalHours : ℤ

/-- `INSERT INTO filter_lists`. -/
def insertRow (row : FilterList) : ApiM Unit := do
  let table := (← get).db.filterLists
  let conflict : AppError := .conflict (str "A filter list with this URL already exists")
  if isTaken table row.id row.url then throw conflict
  else match table.insert row with
    | none => throw conflict
    | some table => modifyDb fun db => { db with filterLists := table }

def create (env : Env) (body : CreateFilterRequest) : ApiM FilterList := do
  let name := trim body.name
  if name = [] then throw (.validation (str "Filter name cannot be empty"))
  else
    let row : FilterList :=
      { id := env.newId 0, name, url := body.url, isEnabled := body.isEnabled, ruleCount := 0
        lastUpdated := none, createdAt := env.now
        updateIntervalHours := body.updateIntervalHours }
    insertRow row
    match body.url with
    | none => return row
    | some url =>
      spawnSync row.id url
      return row

structure UpdateFilterRequest where
  name : Option Str
  url : Option Str
  isEnabled : Option Bool
  updateIntervalHours : Option ℤ

def UpdateFilterRequest.apply (body : UpdateFilterRequest) (row : FilterList) : FilterList :=
  { row with
    name := body.name.getD row.name
    url := body.url <|> row.url
    isEnabled := body.isEnabled.getD row.isEnabled
    updateIntervalHours := body.updateIntervalHours.getD row.updateIntervalHours }

def update (env : Env) (id : Str) (body : UpdateFilterRequest) : ApiM FilterList := do
  let table := (← get).db.filterLists
  match table.find? id with
  | none => throw (.notFound (str "Filter list " ++ id ++ str " not found"))
  | some existing =>
    if isTaken table id (body.apply existing).url then throw .database
    else
      modifyDb fun db => { db with
        filterLists := db.filterLists.updateWhere (·.id = id) body.apply fun _ => rfl }
      reloadFilter env
      return body.apply existing

/-- `filters::delete`.  The rules of the list go first, also when there is no such
list. -/
def delete (env : Env) (id : Str) : ApiM Unit := do
  modifyDb fun db => { db with
    customRules := db.customRules.deleteWhere (·.createdBy = str "filter:" ++ id) }
  let affected := (← get).db.filterLists.rowsAffected (·.id = id)
  modifyDb fun db => { db with filterLists := db.filterLists.deleteWhere (·.id = id) }
  if affected = 0 then throw (.notFound (str "Filter list " ++ id ++ str " not found"))
  else reloadFilter env

def refresh (id : Str) : ApiM Unit := do
  match (← get).db.filterLists.find? id with
  | none => throw (.notFound (str "Filter list " ++ id ++ str " not found"))
  | some filter =>
    match filter.url with
    | none =>
      throw (.validation (str "Cannot refresh local filter list (no URL configured)"))
    | some url => spawnSync id url

/-! ## What the handlers write -/

section Writes

variable (env : Env) (state : AppState)

omit [SerdeJson] in
theorem create_writes (body : CreateFilterRequest) :
    Writes state.withLists (fun _ => True) state ((create env body).exec state) := by
  unfold create insertRow
  dsimp only
  split_ifs
  · exact .refl
  · rw [bind_assoc, exec_get_bind]
    split_ifs
    · exact .refl
    · split
      · exact .refl
      · rename_i table _
        refine writes_modifyDb_bind table trivial ⟨rfl, rfl⟩ ?_
        split
        · exact respects_pure _
        · exact respects_bind (respects_modify fun _ => ⟨rfl, rfl⟩) fun _ => respects_pure _

theorem update_writes (id : Str) (body : UpdateFilterRequest) :
    Writes state.withLists (fun _ => True) state ((update env id body).exec state) := by
  unfold update
  rw [exec_get_bind]
  dsimp only
  split
  · exact .refl
  · split_ifs
    · exact .refl
    · exact writes_modifyDb_bind _ trivial ⟨rfl, rfl⟩
        (respects_bind (reloadFilter_untouched env) fun _ => respects_pure _)

theorem delete_writes (id : Str) :
    Untouched
      { state with db := { state.db with
        customRules := state.db.customRules.deleteWhere (·.createdBy = str "filter:" ++ id)
        filterLists := state.db.filterLists.deleteWhere (·.id = id) } }
      ((delete env id).exec state) := by
  unfold delete modifyDb
  rw [exec_modify_bind, exec_get_bind]
  exact related_bind (fun _ => Untouched _) (fun hmiddle hsame => IsTrans.trans _ _ _ hmiddle hsame)
    ⟨rfl, rfl⟩ fun _ => respects_guard _ (reloadFilter_untouched env)

omit [SerdeJson] in
theorem refresh_untouched (id : Str) : Respects Untouched (refresh id) := by
  unfold refresh
  refine respects_bind respects_get fun state => ?_
  split
  · exact respects_throw _
  · split
    · exact respects_throw _
    · exact respects_modify fun _ => ⟨rfl, rfl⟩

end Writes

end RustDns.Api.Filters
