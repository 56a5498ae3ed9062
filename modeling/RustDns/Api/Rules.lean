import RustDns.Api.Auth

/-!
# The custom rules

The handlers of `handlers/rules.rs` that write: create, update, toggle, delete,
the bulk actions and the import of a file.  All of them ask for a login only.

Rules that belong to a filter list have `filter:<id>` as their creator.  Updating,
toggling and the bulk actions leave those alone; deleting a single rule does not
look at the creator.
-/

namespace RustDns.Api.Rules

open Text Program

variable [Unicode] [RegexCrate] [SerdeJson]

/-- The rule was imported from a filter list: `created_by LIKE 'filter:%'`. -/
def isImported (row : CustomRule) : Bool := startsWith (str "filter:") row.createdBy

/-- The statements below only write `custom_rules`. -/
def modifyRules (change : Table CustomRule.id → Table CustomRule.id) : ApiM Unit :=
  modifyDb fun db => { db with customRules := change db.customRules }

structure CreateRuleRequest where
  rule : Str
  comment : Option Str
  expiresAt : Option Str

def create (env : Env) (auth : Claims) (body : CreateRuleRequest) : ApiM CustomRule := do
  let rule := trim body.rule
  if rule = [] then throw (.validation (str "Rule cannot be empty"))
  else
    let row : CustomRule :=
      { id := env.newId 0, rule, comment := body.comment, isEnabled := true
        createdBy := auth.username, createdAt := env.now, expiresAt := body.expiresAt }
    match (← get).db.customRules.insert row with
    | none => throw .database
    | some table =>
      modifyRules fun _ => table
      reloadFilter env
      return row

def delete (env : Env) (id : Str) : ApiM Unit := do
  let affected := (← get).db.customRules.rowsAffected (·.id = id)
  modifyRules (·.deleteWhere (·.id = id))
  if affected = 0 then throw (.notFound (str "Rule " ++ id ++ str " not found"))
  else reloadFilter env

structure BulkActionRequest where
  ids : List Str
  action : Str

def BulkActionRequest.selects (req : BulkActionRequest) (row : CustomRule) : Bool :=
  req.ids.contains row.id && ! isImported row

/-- `UPDATE custom_rules SET is_enabled = … WHERE`. -/
def setEnabled (condition : CustomRule → Bool) (isEnabled : Bool)
    (table : Table CustomRule.id) : Table CustomRule.id :=
  table.updateWhere condition (fun row => { row with isEnabled }) fun _ => rfl

def bulkStatement (req : BulkActionRequest) : ApiM Unit :=
  if req.action = str "enable" then modifyRules (setEnabled req.selects true)
  else if req.action = str "disable" then modifyRules (setEnabled req.selects false)
  else if req.action = str "delete" then modifyRules (·.deleteWhere req.selects)
  else throw (.validation (str "action must be enable, disable, or delete"))

/-- `rules::bulk_action`: the number of affected rows. -/
def bulkAction (env : Env) (req : BulkActionRequest) : ApiM ℕ := do
  if req.ids = [] then return 0
  else
    let affected := (← get).db.customRules.rowsAffected req.selects
    bulkStatement req
    reloadFilter env
    return affected

/-- `UpdateRuleRequest`.  A `null` is decoded as a missing field, so no body that
was sent has an empty inner option in `expires_at`. -/
structure UpdateRuleRequest where
  rule : Option Str
  comment : Option Str
  isEnabled : Option Bool
  expiresAt : Option (Option Str)

def UpdateRuleRequest.apply (body : UpdateRuleRequest) (row : CustomRule) : CustomRule :=
  { row with
    rule := (body.rule.map trim).getD row.rule
    comment := body.comment <|> row.comment
    isEnabled := body.isEnabled.getD row.isEnabled
    expiresAt := body.expiresAt.getD row.expiresAt }

def UpdateRuleRequest.isEmpty (body : UpdateRuleRequest) : Bool :=
  body.rule.isNone && body.comment.isNone && body.isEnabled.isNone && body.expiresAt.isNone

def UpdateRuleRequest.needsReload (body : UpdateRuleRequest) (existing : CustomRule) : Bool :=
  body.rule.isSome || body.isEnabled.any (· != existing.isEnabled) || body.expiresAt.isSome

/-- `rules::update`: the row after the update, or nothing when there was nothing
to update. -/
def update (env : Env) (id : Str) (body : UpdateRuleRequest) : ApiM (Option CustomRule) := do
  match (← get).db.customRules.find? id with
  | none => throw (.notFound (str "Rule " ++ id ++ str " not found"))
  | some existing =>
    if isImported existing then
      throw (.unauthorized (str "Cannot edit rules imported from filter lists"))
    else if body.rule.any fun rule => trim rule = [] then
      throw (.validation (str "Rule cannot be empty"))
    else if body.isEmpty then return none
    else
      modifyRules (·.updateWhere (·.id = id) body.apply fun _ => rfl)
      if body.needsReload existing then reloadFilter env
      return (← get).db.customRules.find? id

def toggle (env : Env) (id : Str) (isEnabled : Bool) : ApiM Unit := do
  let condition := fun row : CustomRule => row.id = id && ! isImported row
  let affected := (← get).db.customRules.rowsAffected condition
  modifyRules (setEnabled condition isEnabled)
  if affected = 0 then
    throw (.notFound (str "Rule " ++ id ++ str " not found or is a filter list rule"))
  else reloadFilter env

/-! ## Import -/

/-- The content of an uploaded file: its size in bytes, and its text when the
bytes are UTF-8. -/
structure Upload where
  size : ℕ
  text : Option Str

structure Field where
  name : Option Str
  fileName : Option Str
  contentType : Option Str
  bytes : Except Str Upload

inductive ImportResponse where
  | payloadTooLarge (error : Str)
  | badRequest (error : Str)
  | internalServerError (error : Str)
  | ok (imported skipped total : ℕ)
deriving DecidableEq

def maxImportSize : ℕ := 5 * 1024 * 1024

/-- The first field with the name `file`. -/
def readFile : List (Except Str Field) → Except ImportResponse (Option (Field × Upload))
  | [] => .ok none
  | .error e :: _ => .error (.badRequest (str "Multipart error: " ++ e))
  | .ok field :: rest =>
    if field.name = some (str "file") then
      match field.bytes with
      | .error e => .error (.badRequest (str "Failed to read file: " ++ e))
      | .ok upload =>
        if upload.size > maxImportSize then
          .error (.payloadTooLarge (str "File too large. Maximum allowed size is 5 MB."))
        else .ok (some (field, upload))
    else readFile rest

structure RuleEntry where
  rule : Str
  comment : Option Str

def looksLikeJson (field : Field) (content : Str) : Bool :=
  let start := content.dropWhile isWhitespace
  (field.contentType.any fun type => str "application/json" <:+: type) ||
    (field.fileName.any fun name => endsWith (str ".json") (toLowercase name)) ||
    startsWith (str "[") start || startsWith (str "\x7b") start

def jsonEntry : Json.Value → Option RuleEntry
  | .string s => if trim s = [] then none else some ⟨trim s, none⟩
  | .object fields =>
    let rule := trim (((fields.lookup (str "rule")).bind Json.Value.asStr).getD [])
    if rule = [] then none
    else some ⟨rule, (fields.lookup (str "comment")).bind Json.Value.asStr⟩
  | _ => none

def parseEntries (isJson : Bool) (content : Str) : Except Str (List RuleEntry) :=
  if isJson then
    match SerdeJson.fromStr (trim content) with
    | .ok (.array items) => .ok (items.filterMap jsonEntry)
    | .ok _ => .error (str "JSON must be an array of strings or objects.")
    | .error e => .error (str "Invalid JSON: " ++ e)
  else
    let kept := ((lines content).map trim).filter fun line =>
      ! line.isEmpty && ! startsWith (str "#") line
    .ok (kept.map fun line => ⟨line, none⟩)

/-- The transaction of the import, with the numbers of imported and skipped
entries; nothing when an insertion fails, which rolls it back. -/
def importEntries (env : Env) (username : Str) :
    List RuleEntry → Table CustomRule.id → (imported skipped : ℕ) →
      Option (Table CustomRule.id × ℕ × ℕ)
  | [], table, imported, skipped => some (table, imported, skipped)
  | entry :: rest, table, imported, skipped =>
    let rule := trim entry.rule
    if rule = [] ∨ table.rows.any (·.rule = rule) then
      importEntries env username rest table imported (skipped + 1)
    else
      let row : CustomRule :=
        { id := env.newId imported, rule, comment := entry.comment, isEnabled := true
          createdBy := username, createdAt := env.now, expiresAt := none }
      match table.insert row with
      | none => none
      | some table => importEntries env username rest table (imported + 1) skipped

omit [Unicode] [RegexCrate] [SerdeJson] in
theorem rows_subset_of_importEntries {env : Env} {username : Str} {entries : List RuleEntry}
    {table after : Table CustomRule.id} {imported skipped : ℕ} {counted : ℕ × ℕ}
    (himport : importEntries env username entries table imported skipped =
      some (after, counted)) : table.rows ⊆ after.rows := by
  induction entries generalizing table imported skipped with
  | nil =>
    obtain ⟨rfl, -⟩ : table = after ∧ _ := by simpa [importEntries] using himport
    exact List.Subset.refl _
  | cons entry rest ih =>
    unfold importEntries at himport
    dsimp only at himport
    split_ifs at himport
    · exact ih himport
    · split at himport
      · cases himport
      · rename_i middle hinsert
        refine List.Subset.trans ?_ (ih himport)
        rw [Table.rows_of_insert hinsert]
        exact List.subset_append_left _ _

def importRules (env : Env) (auth : Claims) (multipart : List (Except Str Field)) :
    ApiM ImportResponse := do
  match readFile multipart with
  | .error response => return response
  | .ok none => return .badRequest (str "No file uploaded or file is empty.")
  | .ok (some (field, upload)) =>
    if upload.size = 0 then return .badRequest (str "No file uploaded or file is empty.")
    else match upload.text with
      | none => return .badRequest (str "File is not valid UTF-8 text.")
      | some content =>
        match parseEntries (looksLikeJson field content) content with
        | .error message => return .badRequest message
        | .ok [] => return .badRequest (str "No valid rules found in the uploaded file.")
        | .ok entries =>
          match importEntries env auth.username entries (← get).db.customRules 0 0 with
          | none => return .internalServerError (str "Insert failed: ")
          | some (table, imported, skipped) =>
            modifyRules fun _ => table
            if imported > 0 then tryReloadFilter env
            return .ok imported skipped entries.length

/-! ## What the handlers write -/

section Writes

variable (env : Env) (state : AppState)

theorem create_writes (auth : Claims) (body : CreateRuleRequest) :
    Writes state.withRules
      (fun table => ∃ row : CustomRule, row.id = env.newId 0 ∧
        state.db.customRules.insert row = some table)
      state ((create env auth body).exec state) := by
  unfold create
  dsimp only
  split_ifs
  · exact .refl
  · rw [exec_get_bind]
    split
    · exact .refl
    · rename_i table hinsert
      exact writes_modifyDb_bind table ⟨_, rfl, hinsert⟩ ⟨rfl, rfl⟩
        (respects_bind (reloadFilter_untouched env) fun _ => respects_pure _)

theorem delete_writes (id : Str) :
    Untouched (state.withRules (state.db.customRules.deleteWhere (·.id = id)))
      ((delete env id).exec state) := by
  unfold delete
  rw [exec_get_bind]
  exact related_bind (fun _ => Untouched _) (fun hmiddle hsame => IsTrans.trans _ _ _ hmiddle hsame)
    ⟨rfl, rfl⟩ fun _ => respects_guard _ (reloadFilter_untouched env)

theorem bulkAction_writes (req : BulkActionRequest) :
    Writes state.withRules
      (fun table => (∃ isEnabled, table = setEnabled req.selects isEnabled state.db.customRules) ∨
        req.action = str "delete" ∧ table = state.db.customRules.deleteWhere req.selects)
      state ((bulkAction env req).exec state) := by
  have htail : ∀ affected : ℕ, Respects Untouched (do reloadFilter env; return affected : ApiM ℕ) :=
    fun affected => respects_bind (reloadFilter_untouched env) fun _ => respects_pure affected
  unfold bulkAction
  split
  · exact .refl
  · rw [exec_get_bind]
    unfold bulkStatement
    split_ifs with henable hdisable hdelete
    · exact writes_modifyDb_bind _ (.inl ⟨true, rfl⟩) ⟨rfl, rfl⟩ (htail _)
    · exact writes_modifyDb_bind _ (.inl ⟨false, rfl⟩) ⟨rfl, rfl⟩ (htail _)
    · exact writes_modifyDb_bind _ (.inr ⟨hdelete, rfl⟩) ⟨rfl, rfl⟩ (htail _)
    · exact .refl

theorem update_writes (id : Str) (body : UpdateRuleRequest) :
    Writes state.withRules
      (fun table => (∀ row ∈ state.db.customRules.find? id, isImported row = false) ∧
        table = state.db.customRules.updateWhere (·.id = id) body.apply fun _ => rfl)
      state ((update env id body).exec state) := by
  unfold update
  rw [exec_get_bind]
  split
  · exact .refl
  · rename_i existing hfind
    split_ifs with himported
    · exact .refl
    · exact .refl
    · exact .refl
    all_goals
      refine writes_modifyDb_bind _ ⟨?_, rfl⟩ ⟨rfl, rfl⟩ ?_
      · intro row hrow
        rw [hfind] at hrow
        cases hrow
        simpa using himported
    · exact respects_bind (reloadFilter_untouched env) fun _ =>
        respects_bind respects_get fun _ => respects_pure _
    · exact respects_bind respects_get fun _ => respects_pure _

theorem toggle_writes (id : Str) (isEnabled : Bool) :
    Writes state.withRules
      (· = setEnabled (fun row => row.id = id && ! isImported row) isEnabled state.db.customRules)
      state ((toggle env id isEnabled).exec state) := by
  unfold toggle
  rw [exec_get_bind]
  exact writes_modifyDb_bind _ rfl ⟨rfl, rfl⟩ (respects_guard _ (reloadFilter_untouched env))

theorem importRules_writes (auth : Claims) (multipart : List (Except Str Field)) :
    Writes state.withRules (fun table => state.db.customRules.rows ⊆ table.rows) state
      ((importRules env auth multipart).exec state) := by
  unfold importRules
  split
  · exact .refl
  · exact .refl
  · split_ifs
    · exact .refl
    · split
      · exact .refl
      · split
        · exact .refl
        · exact .refl
        · rw [exec_get_bind]
          split
          · exact .refl
          · rename_i himport
            refine writes_modifyDb_bind _ (rows_subset_of_importEntries himport) ⟨rfl, rfl⟩ ?_
            split_ifs
            · exact respects_bind (tryReloadFilter_untouched env) fun _ => respects_pure _
            · exact respects_pure _

end Writes

end RustDns.Api.Rules
