import RustDns.JsonText
import RustDns.Keyset
import RustDns.Api.Rules

/-!
# The export of the rules, and its import

`rules::export_rules` writes the custom rules to a file, without those of the filter lists: as
JSON, as CSV or as plain text.  The JSON file has all columns of a row.  The import reads a file
of that kind, but only the rules and their comments: it trims a rule, enables it, and gives it
no time at which it expires.

`restored_iff` says which tables come back from their export as JSON: those whose rows are what
the import writes (`Restorable`), if the file is not too large for it.  No others do, since every
row that the import writes is of that kind (`restorable_of_importEntries`).
-/

namespace RustDns.Api.Rules

open Text Program

/-! ## The files -/

def escapeCsvField (s : Str) : Str :=
  if s.contains ',' || s.contains '"' || s.contains '\n' then
    str "\"" ++ s.flatMap (fun c => if c = '"' then str "\"\"" else [c]) ++ str "\""
  else s

def csvLine (row : CustomRule) : Str :=
  join (str ",")
    [escapeCsvField row.id, escapeCsvField row.rule, escapeCsvField (row.comment.getD []),
      if row.isEnabled then str "true" else str "false", escapeCsvField row.createdBy,
      escapeCsvField row.createdAt, escapeCsvField (row.expiresAt.getD [])] ++ str "\n"

def csvBody (rows : List CustomRule) : Str :=
  str "id,rule,comment,is_enabled,created_by,created_at,expires_at\n" ++ rows.flatMap csvLine

def txtLines (row : CustomRule) : Str :=
  (match row.comment with
    | some comment => if comment = [] then [] else str "# " ++ comment ++ str "\n"
    | none => []) ++
    if row.isEnabled then row.rule ++ str "\n" else str "# (disabled) " ++ row.rule ++ str "\n"

def txtBody (now : Str) (rows : List CustomRule) : Str :=
  str "# Rust DNS — custom rules export\n" ++ (str "# Exported: " ++ now ++ str "\n\n") ++
    rows.flatMap txtLines

/-- An `Option<String>` in `json!`. -/
def jsonOption : Option Str → Json.Value
  | none => .null
  | some text => .string text

/-- The object of a row, with its keys in the order of `serde_json::Map`. -/
def jsonFields (row : CustomRule) : List (Str × Json.Value) :=
  [(str "comment", jsonOption row.comment), (str "created_at", .string row.createdAt),
    (str "created_by", .string row.createdBy), (str "expires_at", jsonOption row.expiresAt),
    (str "id", .string row.id), (str "is_enabled", .bool row.isEnabled),
    (str "rule", .string row.rule)]

def jsonBody [SerdeJsonPretty] (rows : List CustomRule) : Str :=
  SerdeJsonPretty.toStringPretty (.array ((rows.map jsonFields).map .object))

/-! ## The handler -/

structure ExportResponse where
  contentType : Str
  contentDisposition : Str
  body : Str

section Export

variable [Unicode] [RegexCrate] [SerdeJsonPretty]

def exportedRows (db : Database) : List CustomRule :=
  Keyset.descending CustomRule.createdAt (db.customRules.rows.filter (! isImported ·))

/-- `rules::export_rules`; the format is `json` unless the request has one. -/
def exportRules (env : Env) (format : Option Str) : ApiM ExportResponse := do
  let rows := exportedRows (← get).db
  let format := format.getD (str "json")
  if format = str "csv" then
    return ⟨str "text/csv; charset=utf-8", str "attachment; filename=\"rules_export.csv\"",
      csvBody rows⟩
  else if format = str "txt" then
    return ⟨str "text/plain; charset=utf-8", str "attachment; filename=\"rules_export.txt\"",
      txtBody env.now rows⟩
  else
    return ⟨str "application/json", str "attachment; filename=\"rules_export.json\"",
      jsonBody rows⟩

end Export

/-! ## Sending the file to the import -/

/-- How a file is sent: what the client says about it, the bytes of the body around it, and the
limit of the server for a body.  The router sets none, so it is the one of axum (2 MB). -/
structure Sending where
  fileName : Option Str
  contentType : Option Str
  framing : ℕ
  bodyLimit : ℕ
  limitError : Str

def Sending.multipart (sending : Sending) (body : Str) : List (Except Str Field) :=
  [.ok
    { name := some (str "file"), fileName := sending.fileName, contentType := sending.contentType
      bytes :=
        if sending.framing + len body ≤ sending.bodyLimit then .ok ⟨len body, some body⟩
        else .error sending.limitError }]

/-- The target after the import of what the source exports. -/
def restore [Unicode] [RegexCrate] [SerdeJson] [SerdeJsonPretty] (exportEnv importEnv : Env)
    (format : Option Str) (auth : Claims) (sending : Sending) (source target : AppState) :
    AppState :=
  match ((exportRules exportEnv format).eval source).1 with
  | .ok response => (importRules importEnv auth (sending.multipart response.body)).exec target
  | .error _ => target

structure Content where
  rule : Str
  comment : Option Str
  isEnabled : Bool
  expiresAt : Option Str
deriving DecidableEq

def content (row : CustomRule) : Content := ⟨row.rule, row.comment, row.isEnabled, row.expiresAt⟩

def Restored (before after : List CustomRule) : Prop :=
  (after.map content).Perm (before.map content)

instance (before after : List CustomRule) : Decidable (Restored before after) :=
  inferInstanceAs (Decidable (List.Perm _ _))

/-! ## The size of the file -/

def optionSize : Option Str → ℕ
  | none => 4
  | some text => len (Json.quote text)

/-- The bytes of a row: the names of the columns with blanks and punctuation, and the values. -/
def rowSize (row : CustomRule) : ℕ :=
  131 + (optionSize row.comment + len (Json.quote row.createdAt) + len (Json.quote row.createdBy) +
    optionSize row.expiresAt + len (Json.quote row.id) + (if row.isEnabled then 4 else 5) +
    len (Json.quote row.rule))

def fileSize (rows : List CustomRule) : ℕ := 2 + (rows.map rowSize).sum

section Size

theorem len_print_jsonOption (depth : ℕ) (text : Option Str) :
    len (Json.print .pretty depth (jsonOption text)) = optionSize text := by
  cases text with
  | none =>
    rw [jsonOption, Json.print]
    rfl
  | some text => rw [jsonOption, Json.print, optionSize]

theorem len_print_bool (depth : ℕ) (value : Bool) :
    len (Json.print .pretty depth (.bool value)) = if value then 4 else 5 := by
  cases value <;> rw [Json.print] <;> rfl

theorem len_print_row (row : CustomRule) :
    len (Json.print .pretty 1 (.object (jsonFields row))) + 4 = rowSize row := by
  have hstring : ∀ text : Str, Json.print .pretty 2 (.string text) = Json.quote text :=
    fun text => by rw [Json.print]
  have hkeys : ((jsonFields row).map fun field => len (Json.quote field.1)) =
      [9, 12, 12, 12, 4, 12, 6] := rfl
  rw [Json.len_print_object (by simp [jsonFields])]
  simp only [List.sum_map_add]
  rw [hkeys]
  simp only [jsonFields, List.map_cons, List.map_nil, List.sum_cons, List.sum_nil,
    len_print_jsonOption, len_print_bool, hstring, rowSize]
  omega

theorem len_print_rows (rows : List CustomRule) :
    len (Json.print .pretty 0 (.array ((rows.map jsonFields).map .object))) = fileSize rows := by
  by_cases hrows : rows = []
  · rw [hrows, List.map_nil, List.map_nil, Json.print]
    rfl
  · have hsize : ∀ row, 4 + len (Json.print .pretty 1 (.object (jsonFields row))) = rowSize row :=
      fun row => (Nat.add_comm _ _).trans (len_print_row row)
    rw [Json.len_print_array (by simpa using hrows), fileSize, List.map_map, List.map_map]
    exact congrArg (2 + ·) (congrArg List.sum (List.map_congr_left fun row _ => hsize row))

end Size

/-! ## The entries of the file -/

structure Restorable (row : CustomRule) : Prop where
  enabled : row.isEnabled = true
  unlimited : row.expiresAt = none
  trimmed : trim row.rule = row.rule
  nonempty : row.rule ≠ []

def entryOf (row : CustomRule) : Option RuleEntry :=
  if trim row.rule = [] then none else some ⟨trim row.rule, row.comment⟩

theorem isRecord_jsonFields (row : CustomRule) : Json.IsRecord (jsonFields row) where
  sorted := by
    change List.Pairwise (· < ·) [str "comment", str "created_at", str "created_by",
      str "expires_at", str "id", str "is_enabled", str "rule"]
    decide +kernel
  scalars := by
    have hoption : ∀ text, (jsonOption text).isScalar = true := by
      rintro (_ | _) <;> rfl
    have hstring : ∀ text : Str, (Json.Value.string text).isScalar = true := fun _ => rfl
    have hbool : ∀ value : Bool, (Json.Value.bool value).isScalar = true := fun _ => rfl
    simp [jsonFields, hoption, hstring, hbool]

theorem jsonEntry_object (row : CustomRule) :
    jsonEntry (.object (jsonFields row)) = entryOf row := by
  have hrule : (jsonFields row).lookup (str "rule") = some (.string row.rule) := rfl
  have hcomment :
      ((jsonFields row).lookup (str "comment")).bind Json.Value.asStr = row.comment := by
    change (jsonOption row.comment).asStr = row.comment
    cases row.comment <;> rfl
  rw [jsonEntry, hrule, hcomment]
  rfl

section Entries

variable [SerdeJson] [SerdeJsonPretty] [LawfulSerdeJsonPretty]

theorem jsonBody_eq (rows : List CustomRule) :
    jsonBody rows = Json.print .pretty 0 (.array ((rows.map jsonFields).map .object)) := by
  refine LawfulSerdeJsonPretty.toStringPretty_records fun record hrecord => ?_
  obtain ⟨row, -, rfl⟩ := List.mem_map.mp hrecord
  exact isRecord_jsonFields row

theorem len_jsonBody (rows : List CustomRule) : len (jsonBody rows) = fileSize rows := by
  rw [jsonBody_eq, len_print_rows]

theorem parseEntries_jsonBody [Unicode] (field : Field) (rows : List CustomRule) :
    parseEntries (looksLikeJson field (jsonBody rows)) (jsonBody rows) =
      .ok (rows.filterMap entryOf) := by
  obtain ⟨inner, hbody⟩ :=
    Json.print_array .pretty 0 ((rows.map jsonFields).map Json.Value.object)
  rw [← jsonBody_eq] at hbody
  have hjson : looksLikeJson field (jsonBody rows) = true := by
    have hstart : startsWith (str "[") ((jsonBody rows).dropWhile isWhitespace) = true := by
      rw [hbody, List.dropWhile_cons_of_neg (by decide)]
      simp [startsWith, str]
    simp [looksLikeJson, hstart]
  have htrim : trim (jsonBody rows) = jsonBody rows := by
    refine trim_eq_self ?_ ?_
    · rw [hbody]
      rintro c ⟨⟩
      decide
    · rw [hbody, ← List.cons_append, List.getLast?_concat]
      rintro c ⟨⟩
      decide
  have hparse : SerdeJson.fromStr (jsonBody rows) =
      .ok (.array ((rows.map jsonFields).map .object)) := by
    rw [jsonBody_eq]
    refine LawfulSerdeJsonPretty.fromStr_records fun record hrecord => ?_
    obtain ⟨row, -, rfl⟩ := List.mem_map.mp hrecord
    exact isRecord_jsonFields row
  rw [hjson, parseEntries, if_pos rfl, htrim, hparse]
  simp only [List.map_map, List.filterMap_map]
  exact congrArg Except.ok (List.filterMap_congr fun row _ => jsonEntry_object row)

end Entries

/-! ## What the import writes -/

section Import

variable {env : Env} {username : Str} {entries : List RuleEntry}
  {table after : Table CustomRule.id} {imported skipped : ℕ} {counted : ℕ × ℕ}

theorem restorable_of_importEntries (htable : ∀ row ∈ table.rows, Restorable row)
    (himport : importEntries env username entries table imported skipped = some (after, counted)) :
    ∀ row ∈ after.rows, Restorable row := by
  induction entries generalizing table imported skipped with
  | nil =>
    obtain ⟨rfl, -⟩ : table = after ∧ _ := by simpa [importEntries] using himport
    exact htable
  | cons entry rest ih =>
    unfold importEntries at himport
    dsimp only at himport
    split_ifs at himport with hskip
    · exact ih htable himport
    · split at himport
      · cases himport
      · rename_i middle hinsert
        refine ih ?_ himport
        rw [Table.rows_of_insert hinsert]
        refine List.forall_mem_append.mpr ⟨htable, List.forall_mem_singleton.mpr ?_⟩
        exact ⟨rfl, rfl, trim_trim _, fun hrule => hskip (Or.inl hrule)⟩

/-- No insertion fails if the new ids differ. -/
theorem exists_importEntries (hid : Function.Injective env.newId)
    (hids : table.rows.map CustomRule.id = (List.range imported).map env.newId) :
    ∃ counted, importEntries env username entries table imported skipped = some counted := by
  induction entries generalizing table imported skipped with
  | nil => exact ⟨_, rfl⟩
  | cons entry rest ih =>
    unfold importEntries
    dsimp only
    split_ifs
    · exact ih hids
    · have hkey : env.newId imported ∉ table.rows.map CustomRule.id := by
        rw [hids]
        intro hmem
        obtain ⟨index, hindex, heq⟩ := List.mem_map.mp hmem
        exact absurd (hid heq) (List.mem_range.mp hindex).ne
      obtain ⟨middle, hinsert⟩ : ∃ middle, table.insert
          { id := env.newId imported, rule := trim entry.rule, comment := entry.comment
            isEnabled := true, createdBy := username, createdAt := env.now
            expiresAt := none } = some middle := ⟨_, dif_neg hkey⟩
      rw [hinsert]
      refine ih ?_
      rw [Table.rows_of_insert hinsert, List.map_append, hids, List.range_succ, List.map_append]
      rfl

/-- The entries are all written if their rules are trimmed and new. -/
theorem contents_importEntries
    (himport : importEntries env username entries table imported skipped = some (after, counted))
    (hentries : ∀ entry ∈ entries, trim entry.rule = entry.rule ∧ entry.rule ≠ [])
    (hnew : (table.rows.map CustomRule.rule ++ entries.map RuleEntry.rule).Nodup) :
    after.rows.map content = table.rows.map content ++
      entries.map fun entry => ⟨entry.rule, entry.comment, true, none⟩ := by
  induction entries generalizing table imported skipped with
  | nil =>
    cases himport
    exact (List.append_nil _).symm
  | cons entry rest ih =>
    obtain ⟨⟨htrim, hne⟩, hrest⟩ := List.forall_mem_cons.mp hentries
    have hfresh : ¬ (entry.rule = [] ∨ table.rows.any (·.rule = entry.rule) = true) := by
      rintro (hempty | hany)
      · exact hne hempty
      · obtain ⟨row, hrow, hrule⟩ := List.any_eq_true.mp hany
        refine List.disjoint_of_nodup_append hnew (List.mem_map_of_mem hrow) ?_
        rw [of_decide_eq_true hrule]
        exact List.mem_map_of_mem List.mem_cons_self
    simp only [importEntries, htrim, if_neg hfresh] at himport
    split at himport
    · cases himport
    · rename_i middle hinsert
      have hrows := Table.rows_of_insert hinsert
      rw [ih himport hrest (by rwa [hrows, List.map_append, List.append_assoc]), hrows,
        List.map_append, List.append_assoc]
      rfl

end Import

/-- The rules after an import: those of the transaction, if there is one and it is committed. -/
theorem customRules_importRules [Unicode] [RegexCrate] [SerdeJson] {env : Env} {auth : Claims}
    {multipart : List (Except Str Field)} {field : Field} {size : ℕ} {text : Str}
    {entries : List RuleEntry} (hfile : readFile multipart = .ok (some (field, ⟨size, some text⟩)))
    (hsize : size ≠ 0) (hentries : parseEntries (looksLikeJson field text) text = .ok entries)
    (state : AppState) :
    ((importRules env auth multipart).exec state).db.customRules =
      match importEntries env auth.username entries state.db.customRules 0 0 with
      | none => state.db.customRules
      | some (table, _) => table := by
  unfold importRules
  simp only [hfile, if_neg hsize, hentries]
  cases entries with
  | nil => rfl
  | cons entry rest =>
    simp only [exec_get_bind]
    rcases importEntries env auth.username (entry :: rest) state.db.customRules 0 0 with
      _ | ⟨table, imported, skipped⟩
    · rfl
    · -- After the rules are written, the database stays as it is.
      have hreload : Respects (SameView id) (do
          if imported > 0 then tryReloadFilter env
          return ImportResponse.ok imported skipped (entry :: rest).length) := by
        split_ifs
        · exact respects_bind (tryReloadFilter_respects env) fun _ => respects_pure _
        · exact respects_pure _
      exact congrArg Database.customRules
        (hreload { state with db := { state.db with customRules := table } })

/-! ## Which tables come back -/

theorem fileSize_descending (rows : List CustomRule) :
    fileSize (Keyset.descending CustomRule.createdAt rows) = fileSize rows :=
  congrArg (2 + ·) ((List.perm_insertionSort _ rows).map rowSize).sum_eq

theorem readFile_multipart (sending : Sending) (body : Str) :
    readFile (sending.multipart body) = if sending.framing + len body ≤ sending.bodyLimit then
        if len body > maxImportSize then
          .error (.payloadTooLarge (str "File too large. Maximum allowed size is 5 MB."))
        else .ok (some
          (⟨some (str "file"), sending.fileName, sending.contentType, .ok ⟨len body, some body⟩⟩,
            ⟨len body, some body⟩))
      else .error (.badRequest (str "Failed to read file: " ++ sending.limitError)) := by
  rw [Sending.multipart]
  split_ifs <;> simp_all [readFile]

theorem Restorable.of_content_eq {row other : CustomRule} (hrow : Restorable row)
    (hcontent : content row = content other) : Restorable other := by
  obtain ⟨hrule, -, henabled, hexpires⟩ := Content.mk.inj hcontent
  exact ⟨henabled ▸ hrow.enabled, hexpires ▸ hrow.unlimited, hrule ▸ hrow.trimmed,
    hrule ▸ hrow.nonempty⟩

theorem entryOf_of_restorable {row : CustomRule} (hrow : Restorable row) :
    entryOf row = some ⟨row.rule, row.comment⟩ := by
  rw [entryOf, hrow.trimmed, if_neg hrow.nonempty]

theorem exists_importEntries_of_restorable {env : Env} {rows : List CustomRule}
    {table : Table CustomRule.id} (hrows : ∀ row ∈ rows, Restorable row)
    (hdistinct : (rows.map CustomRule.rule).Nodup) (hempty : table.rows = [])
    (hid : Function.Injective env.newId) (username : Str) :
    ∃ after counted,
      importEntries env username (rows.filterMap entryOf) table 0 0 = some (after, counted) ∧
        after.rows.map content = rows.map content := by
  have hentries : rows.filterMap entryOf = rows.map fun row => ⟨row.rule, row.comment⟩ := by
    rw [← List.filterMap_eq_map]
    exact List.filterMap_congr fun row hrow => entryOf_of_restorable (hrows row hrow)
  have hids : table.rows.map CustomRule.id = (List.range 0).map env.newId := by
    rw [hempty]
    rfl
  have hnew : (table.rows.map CustomRule.rule ++
      (rows.filterMap entryOf).map RuleEntry.rule).Nodup := by
    rw [hempty, hentries, List.map_map]
    exact hdistinct
  have htrimmed : ∀ entry ∈ rows.filterMap entryOf,
      trim entry.rule = entry.rule ∧ entry.rule ≠ [] := by
    rw [hentries]
    intro entry hentry
    obtain ⟨row, hrow, rfl⟩ := List.mem_map.mp hentry
    exact ⟨(hrows row hrow).trimmed, (hrows row hrow).nonempty⟩
  obtain ⟨⟨after, counted⟩, himport⟩ := exists_importEntries hid hids
  refine ⟨after, counted, himport, ?_⟩
  rw [contents_importEntries himport htrimmed hnew, hempty, hentries, List.map_map,
    List.map_nil, List.nil_append]
  refine List.map_congr_left fun row hrow => ?_
  simp only [Function.comp, content, (hrows row hrow).enabled, (hrows row hrow).unlimited]

section RoundTrip

variable [Unicode] [RegexCrate] [SerdeJson] [SerdeJsonPretty] [LawfulSerdeJsonPretty]
  {exportEnv importEnv : Env} {format : Option Str} {auth : Claims} {sending : Sending}
  {source target : AppState}

def Sending.Fits (sending : Sending) (rows : List CustomRule) : Prop :=
  sending.framing + fileSize rows ≤ sending.bodyLimit ∧ fileSize rows ≤ maxImportSize

instance (sending : Sending) (rows : List CustomRule) : Decidable (sending.Fits rows) :=
  inferInstanceAs (Decidable (_ ∧ _))

omit [SerdeJson] [LawfulSerdeJsonPretty] in
theorem eval_exportRules (exportEnv : Env) (hcsv : format ≠ some (str "csv"))
    (htxt : format ≠ some (str "txt"))
    (hown : ∀ row ∈ source.db.customRules.rows, isImported row = false) :
    ∃ contentType contentDisposition, ((exportRules exportEnv format).eval source).1 =
      .ok ⟨contentType, contentDisposition,
        jsonBody (Keyset.descending CustomRule.createdAt source.db.customRules.rows)⟩ := by
  have hfilter : source.db.customRules.rows.filter (! isImported ·) =
      source.db.customRules.rows := by
    refine List.filter_eq_self.mpr fun row hrow => ?_
    rw [hown row hrow, Bool.not_false]
  have hcsv : format.getD (str "json") ≠ str "csv" := by
    cases format with
    | none => decide
    | some format => exact fun heq => hcsv (congrArg some heq)
  have htxt : format.getD (str "json") ≠ str "txt" := by
    cases format with
    | none => decide
    | some format => exact fun heq => htxt (congrArg some heq)
  simp only [exportRules, exportedRows, eval_bind, eval_get, hfilter, if_neg hcsv, if_neg htxt]
  exact ⟨_, _, rfl⟩

theorem customRules_restore (hcsv : format ≠ some (str "csv")) (htxt : format ≠ some (str "txt"))
    (hown : ∀ row ∈ source.db.customRules.rows, isImported row = false) :
    (restore exportEnv importEnv format auth sending source target).db.customRules =
      if sending.Fits source.db.customRules.rows then
        match importEntries importEnv auth.username
          ((Keyset.descending CustomRule.createdAt source.db.customRules.rows).filterMap entryOf)
          target.db.customRules 0 0 with
        | none => target.db.customRules
        | some (table, _) => table
      else target.db.customRules := by
  obtain ⟨contentType, contentDisposition, hexport⟩ :=
    eval_exportRules exportEnv hcsv htxt hown
  obtain ⟨rows, hrows⟩ : ∃ rows, rows =
      Keyset.descending CustomRule.createdAt source.db.customRules.rows := ⟨_, rfl⟩
  have hlen : len (jsonBody rows) = fileSize source.db.customRules.rows := by
    rw [len_jsonBody, hrows, fileSize_descending]
  have hread := readFile_multipart sending (jsonBody rows)
  rw [hlen] at hread
  simp only [restore, hexport, ← hrows]
  split_ifs with hfits
  · rw [if_pos hfits.1, if_neg (not_lt.mpr hfits.2)] at hread
    have hsize : fileSize source.db.customRules.rows ≠ 0 := by
      unfold fileSize
      omega
    exact customRules_importRules hread hsize (parseEntries_jsonBody _ rows) target
  · -- The import answers that the file cannot be read, or that it is too large.
    obtain ⟨response, hresponse⟩ :
        ∃ response, readFile (sending.multipart (jsonBody rows)) = .error response := by
      rw [hread]
      split_ifs with hbody hlarge
      · exact ⟨_, rfl⟩
      · exact absurd ⟨hbody, not_lt.mp hlarge⟩ hfits
      · exact ⟨_, rfl⟩
    simp only [importRules, hresponse]
    rfl

/-- **Which tables come back.**  The JSON export of a table with rules of users only, none of
them twice, is imported to an empty table.  The rows come back if and only if there are none, or
the file is small enough and every row is enabled, does not expire, and has a trimmed rule that
is not empty. -/
theorem restored_iff (hcsv : format ≠ some (str "csv")) (htxt : format ≠ some (str "txt"))
    (hown : ∀ row ∈ source.db.customRules.rows, isImported row = false)
    (hdistinct : (source.db.customRules.rows.map CustomRule.rule).Nodup)
    (hempty : target.db.customRules.rows = []) (hid : Function.Injective importEnv.newId) :
    Restored source.db.customRules.rows
        (restore exportEnv importEnv format auth sending source target).db.customRules.rows ↔
      source.db.customRules.rows = [] ∨
        sending.Fits source.db.customRules.rows ∧
          ∀ row ∈ source.db.customRules.rows, Restorable row := by
  have hperm : (Keyset.descending CustomRule.createdAt source.db.customRules.rows).Perm
      source.db.customRules.rows := List.perm_insertionSort _ _
  have htarget : Restored source.db.customRules.rows target.db.customRules.rows →
      source.db.customRules.rows = [] := by
    rw [hempty]
    exact fun hrestored => List.map_eq_nil_iff.mp hrestored.nil_eq.symm
  rw [customRules_restore hcsv htxt hown]
  constructor
  · split_ifs with hfits
    · split
      · exact fun hrestored => Or.inl (htarget hrestored)
      · rename_i table counted himport
        intro hrestored
        have hall : ∀ row ∈ table.rows, Restorable row :=
          restorable_of_importEntries (by simp [hempty]) himport
        refine Or.inr ⟨hfits, fun row hrow => ?_⟩
        obtain ⟨other, hother, hcontent⟩ :=
          List.mem_map.mp (hrestored.mem_iff.mpr (List.mem_map_of_mem hrow))
        exact (hall other hother).of_content_eq hcontent
    · exact fun hrestored => Or.inl (htarget hrestored)
  · rintro (hnone | ⟨hfits, hrows⟩)
    · rw [hnone]
      split_ifs
      · simp [Keyset.descending, importEntries, Restored, hempty]
      · simp [Restored, hempty]
    · obtain ⟨after, counted, himport, hcontents⟩ := exists_importEntries_of_restorable
        (fun row hrow => hrows row (hperm.mem_iff.mp hrow))
        ((hperm.map CustomRule.rule).nodup_iff.mpr hdistinct) hempty hid auth.username
      rw [if_pos hfits, himport]
      rw [Restored, hcontents]
      exact hperm.map content

end RoundTrip

/-! ### A rule that comes back enabled -/

section Example

attribute [local instance] Unicode.ascii RegexCrate.fragment SerdeJson.standard
  SerdeJsonPretty.standard

def variedRules : Table CustomRule.id where
  rows := [⟨str "a", str "||ads.com^", some (str "\"ads\""), true, str "admin",
      str "2026-01-01", none⟩,
    ⟨str "b", str "||shop.com^", none, false, str "admin", str "2026-01-02", none⟩,
    ⟨str "c", str "||news.com^", none, true, str "admin", str "2026-01-03",
      some (str "2026-01-04")⟩]
  nodup := by decide

def plainRules : Table CustomRule.id where
  rows := [⟨str "a", str "||ads.com^", some (str "\"ads\""), true, str "admin",
      str "2026-01-01", none⟩,
    ⟨str "b", str "||shop.com^", none, true, str "admin", str "2026-01-02", none⟩]
  nodup := by decide

def serverWith (customRules : Table CustomRule.id) : AppState where
  db := { Database.empty with customRules }
  filter := ⟨.new, .empty⟩
  clientConfigCache := []
  tokenBlacklist := []
  spawnedSyncs := []

def restoreEnv : Env where
  now := str "2026-02-01"
  newId n := List.replicate n 'x'
  salt := []
  reloadFails _ := true
  reloadError := []
  configFails _ := false

def restoreAuth : Claims := ⟨str "u1", str "admin", str "admin", 0, 0, str "t1"⟩

def exportedFile : Sending where
  fileName := some (str "rules_export.json")
  contentType := some (str "application/json")
  framing := 200
  bodyLimit := 2 * 1024 * 1024
  limitError := str "Request payload is too large"

def restoredRules (customRules : Table CustomRule.id) : List CustomRule :=
  (restore restoreEnv restoreEnv none restoreAuth exportedFile (serverWith customRules)
    (serverWith .empty)).db.customRules.rows

/-- The rule that was switched off comes back enabled, and the one for a day without its end. -/
theorem not_restored_variedRules :
    (∀ row ∈ variedRules.rows, isImported row = false) ∧
      (variedRules.rows.map CustomRule.rule).Nodup ∧ exportedFile.Fits variedRules.rows ∧
      ¬ Restored variedRules.rows (restoredRules variedRules) ∧
      (restoredRules variedRules).map content =
        [⟨str "||news.com^", none, true, none⟩, ⟨str "||shop.com^", none, true, none⟩,
          ⟨str "||ads.com^", some (str "\"ads\""), true, none⟩] := by
  decide +kernel

theorem restored_plainRules : Restored plainRules.rows (restoredRules plainRules) := by
  have hid : Function.Injective restoreEnv.newId := fun m n heq => by
    simpa [restoreEnv] using congrArg List.length heq
  have hlawful := LawfulSerdeJsonPretty.standard
  refine (restored_iff (by decide) (by decide) (by decide) (by decide) rfl hid).mpr
    (Or.inr ⟨by decide +kernel, fun row hrow => ?_⟩)
  have hrows : ∀ row ∈ plainRules.rows, row.isEnabled = true ∧ row.expiresAt = none ∧
      trim row.rule = row.rule ∧ row.rule ≠ [] := by decide +kernel
  obtain ⟨henabled, hexpires, htrimmed, hnonempty⟩ := hrows row hrow
  exact ⟨henabled, hexpires, htrimmed, hnonempty⟩

end Example

end RustDns.Api.Rules
