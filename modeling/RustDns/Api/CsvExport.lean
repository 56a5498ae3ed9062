import RustDns.Csv
import RustDns.Decimal
import RustDns.Api.QueryLog
import RustDns.Api.RuleExport

/-!
# The exports as CSV

`query_log::export` writes chosen columns of the query log, and `rules::export_rules` all columns
of the custom rules.  Both have a copy of `escape_csv_field`, which puts a field into quotes if it
has a comma, a quote or a line feed, but not for a carriage return.

`recovers_iff` says which rows a reader of `Csv.lean` gets back from the files: those whose last
field does not end with a carriage return outside of quotes, and for a reader that refuses such a
character elsewhere, those without one outside of quotes.
-/

namespace RustDns.Api.QueryLog

open Text

/-! ## The columns -/

inductive ExportField where
  | id
  | time
  | clientIp
  | clientName
  | question
  | qtype
  | answer
  | status
  | reason
  | upstream
  | elapsedNs
  | upstreamNs
deriving DecidableEq

def ExportField.name : ExportField → Str
  | .id => str "id"
  | .time => str "time"
  | .clientIp => str "client_ip"
  | .clientName => str "client_name"
  | .question => str "question"
  | .qtype => str "qtype"
  | .answer => str "answer"
  | .status => str "status"
  | .reason => str "reason"
  | .upstream => str "upstream"
  | .elapsedNs => str "elapsed_ns"
  | .upstreamNs => str "upstream_ns"

def fieldToLabel : ExportField → Str
  | .id => str "ID"
  | .time => str "时间"
  | .clientIp => str "客户端IP"
  | .clientName => str "客户端名称"
  | .question => str "域名"
  | .qtype => str "查询类型"
  | .answer => str "响应"
  | .status => str "状态"
  | .reason => str "原因"
  | .upstream => str "上游服务器"
  | .elapsedNs => str "响应时间(ns)"
  | .upstreamNs => str "上游响应时间(ns)"

def exportFields : List ExportField :=
  [.id, .time, .clientIp, .clientName, .question, .qtype, .answer, .status, .reason, .upstream,
    .elapsedNs, .upstreamNs]

def defaultExportFields : List ExportField :=
  [.id, .time, .clientIp, .clientName, .question, .qtype, .answer, .status, .reason, .elapsedNs,
    .upstreamNs]

/-- A value as `try_get` finds it: of a column of texts, or of one of numbers. -/
inductive Column where
  | text (value : Option Str)
  | number (value : Option ℤ)

def column (row : QueryLogRow) : ExportField → Column
  | .id => .number (some row.id)
  | .time => .text (some row.time)
  | .clientIp => .text (some row.clientIp)
  | .clientName => .text row.clientName
  | .question => .text (some row.question)
  | .qtype => .text (some row.qtype)
  | .answer => .text row.answer
  | .status => .text (some row.status)
  | .reason => .text row.reason
  | .upstream => .text row.upstream
  | .elapsedNs => .number row.elapsedNs
  | .upstreamNs => .number row.upstreamNs

/-! ## The files -/

/-- `escape_csv_field` of `query_log.rs`. -/
def escapeCsvField (value : Str) : Str :=
  if value.contains ',' || value.contains '"' || value.contains '\n' then
    str "\"" ++ value.flatMap (fun c => if c = '"' then str "\"\"" else [c]) ++ str "\""
  else value

def Column.csv : Column → Str
  | .text value => escapeCsvField (value.getD [])
  | .number value => (value.map Decimal.showInt).getD []

/-- A value in the JSON file; without one the object has no such key. -/
def Column.json : Column → Option Json.Value
  | .text value => value.map .string
  | .number value => value.map fun n => .number (Decimal.showInt n)

def csvBody (fields : List ExportField) (rows : List QueryLogRow) : Str :=
  join (str ",") (fields.map fieldToLabel) ++ str "\n" ++
    rows.flatMap fun row =>
      join (str ",") (fields.map fun field => (column row field).csv) ++ str "\n"

/-- The columns in the order in which `serde_json::Map` has their names. -/
def sortedFields : List ExportField :=
  [.answer, .clientIp, .clientName, .elapsedNs, .id, .qtype, .question, .reason, .status, .time,
    .upstream, .upstreamNs]

def jsonObject (fields : List ExportField) (row : QueryLogRow) : List (Str × Json.Value) :=
  (sortedFields.filter (· ∈ fields)).filterMap fun field =>
    (column row field).json.map fun value => (field.name, value)

def jsonBody [SerdeJsonPretty] (fields : List ExportField) (rows : List QueryLogRow) : Str :=
  SerdeJsonPretty.toStringPretty (.array ((rows.map (jsonObject fields)).map .object))

/-! ## The handler -/

/-- `ExportParams`, without what only the statement uses: the limit, the filters and the range of
time. -/
structure ExportParams where
  format : Str := str "csv"
  fields : Option Str := none

/-- The response of the export: a file, or a status and an object with its keys in the order of
`serde_json::Map`. -/
inductive ExportAnswer where
  | file (response : Rules.ExportResponse)
  | object (status : ℕ) (fields : List (Str × Json.Value))

def chosenFields [Unicode] : Option Str → List ExportField
  | some names =>
    (names.splitOn ',').filterMap fun part =>
      exportFields.find? (·.name = toLowercase (trim part))
  | none => defaultExportFields

/-- `query_log::export`, with what the statement gives. -/
def exportLog [Unicode] [SerdeJsonPretty] (params : ExportParams)
    (fetched : Except Str (List QueryLogRow)) : ExportAnswer :=
  let fields := chosenFields params.fields
  if fields = [] then
    .object 200
      [(str "available_fields", .array (exportFields.map fun field => .string field.name)),
        (str "error", .string (str "Invalid fields specified"))]
  else match fetched with
    | .error detail =>
      .object 500
        [(str "detail", .string detail),
          (str "error", .string (str "Database error during export"))]
    | .ok rows =>
      if params.format = str "json" then
        .file ⟨str "application/json", str "attachment; filename=\"query-logs.json\"",
          jsonBody fields rows⟩
      else
        .file ⟨str "text/csv; charset=utf-8", str "attachment; filename=\"query-logs.csv\"",
          csvBody fields rows⟩

/-- The texts of a row, without a value the empty one. -/
def Column.original : Column → Str
  | .text value => value.getD []
  | .number value => (value.map Decimal.showInt).getD []

def csvValues (fields : List ExportField) (row : QueryLogRow) : List Str :=
  fields.map fun field => (column row field).original

/-- The file has the rows: a reader finds the labels of the columns and then their texts. -/
def Recovers [Unicode] [SerdeJsonPretty] (dialect : Csv.Dialect) (params : ExportParams)
    (rows : List QueryLogRow) : Prop :=
  ∃ response, exportLog params (.ok rows) = .file response ∧
    Csv.read dialect response.body = some ((chosenFields params.fields).map fieldToLabel ::
      rows.map (csvValues (chosenFields params.fields)))

end RustDns.Api.QueryLog

namespace RustDns.Api.Rules

open Text Program

def csvHeader : List Str :=
  [str "id", str "rule", str "comment", str "is_enabled", str "created_by", str "created_at",
    str "expires_at"]

/-- The texts of a row, without a value the empty one. -/
def csvValues (row : CustomRule) : List Str :=
  [row.id, row.rule, row.comment.getD [], if row.isEnabled then str "true" else str "false",
    row.createdBy, row.createdAt, row.expiresAt.getD []]

/-- The file has the rows: a reader finds the names of the columns and then their texts. -/
def Recovers [Unicode] [RegexCrate] [SerdeJsonPretty] (dialect : Csv.Dialect) (env : Env)
    (state : AppState) : Prop :=
  ∃ response, ((exportRules env (some (str "csv"))).eval state).1 = .ok response ∧
    Csv.read dialect response.body =
      some (csvHeader :: (exportedRows state.db).map csvValues)

end RustDns.Api.Rules

namespace RustDns.Api

open Text Program

/-! ## Both files are those of one writer -/

/-- The fields that `escape_csv_field` puts into quotes. -/
def csvWriter : Csv.Writer where
  quotes s := s.contains ',' || s.contains '"' || s.contains '\n'
  not_special := by
    intro s c hquotes hc
    simp only [Bool.or_eq_false_iff, List.contains_eq_mem, decide_eq_false_iff_not] at hquotes
    obtain ⟨⟨hcomma, hquote⟩, hfeed⟩ := hquotes
    refine ⟨?_, ?_, ?_⟩ <;> rintro rfl <;> contradiction

theorem field_eq_self {s : Str} (hs : csvWriter.quotes s = false) : csvWriter.field s = s :=
  if_neg (Bool.eq_false_iff.mp hs)

theorem line_csvWriter (row : List Str) :
    csvWriter.line row = join (str ",") (row.map csvWriter.field) ++ str "\n" := rfl

theorem Rules.csvBody_eq (rows : List CustomRule) :
    Rules.csvBody rows = csvWriter.file (Rules.csvHeader :: rows.map Rules.csvValues) := by
  have hheader : csvWriter.line Rules.csvHeader =
      str "id,rule,comment,is_enabled,created_by,created_at,expires_at\n" := by
    decide +kernel
  have hline : ∀ row : CustomRule, Rules.csvLine row = csvWriter.line (Rules.csvValues row) := by
    intro row
    have henabled : csvWriter.field (if row.isEnabled then str "true" else str "false") =
        if row.isEnabled then str "true" else str "false" :=
      field_eq_self (by cases row.isEnabled <;> decide)
    rw [line_csvWriter, Rules.csvValues, List.map_cons, List.map_cons, List.map_cons, List.map_cons,
      henabled]
    rfl
  rw [Csv.Writer.file, List.flatMap_cons, hheader, Rules.csvBody, List.flatMap_map]
  exact congrArg _ (List.flatMap_congr fun row _ => hline row)

namespace QueryLog

theorem quotes_showInt (n : ℤ) : csvWriter.quotes (Decimal.showInt n) = false := by
  have hchars : ∀ c ∈ Decimal.showInt n, c.isDigit = true ∨ c = '-' := by
    intro c hc
    cases n with
    | ofNat n => exact .inl (Decimal.isDigit_of_mem_showNat hc)
    | negSucc n =>
      rcases List.mem_cons.mp hc with rfl | hc
      · exact .inr rfl
      · exact .inl (Decimal.isDigit_of_mem_showNat hc)
  have hnot : ∀ c : Char, c.isDigit = false → c ≠ '-' → c ∉ Decimal.showInt n := by
    intro c hdigit hminus hc
    rcases hchars c hc with h | h
    · exact Bool.false_ne_true (hdigit.symm.trans h)
    · exact hminus h
  simp only [csvWriter, Bool.or_eq_false_iff, List.contains_eq_mem, decide_eq_false_iff_not]
  exact ⟨⟨hnot _ (by decide) (by decide), hnot _ (by decide) (by decide)⟩,
    hnot _ (by decide) (by decide)⟩

theorem csv_eq (value : Column) : value.csv = csvWriter.field value.original := by
  match value with
  | .text _ => rfl
  | .number none => rfl
  | .number (some n) => exact (field_eq_self (quotes_showInt n)).symm

theorem quotes_fieldToLabel (field : ExportField) :
    csvWriter.quotes (fieldToLabel field) = false ∧ '\r' ∉ fieldToLabel field := by
  cases field <;> decide +kernel

theorem csvBody_eq (fields : List ExportField) (rows : List QueryLogRow) :
    csvBody fields rows =
      csvWriter.file (fields.map fieldToLabel :: rows.map (csvValues fields)) := by
  have hlabels : (fields.map fieldToLabel).map csvWriter.field = fields.map fieldToLabel := by
    rw [List.map_map]
    exact List.map_congr_left fun field _ => field_eq_self (quotes_fieldToLabel field).1
  have hvalues : ∀ row, (csvValues fields row).map csvWriter.field =
      fields.map fun field => (column row field).csv := by
    intro row
    rw [csvValues, List.map_map]
    exact List.map_congr_left fun field _ => (csv_eq _).symm
  rw [Csv.Writer.file, List.flatMap_cons, line_csvWriter, hlabels, csvBody, List.flatMap_map]
  refine congrArg _ (List.flatMap_congr fun row _ => ?_)
  rw [line_csvWriter, hvalues]

end QueryLog

/-! ## Reading the files -/

section Reading

variable [Unicode] [RegexCrate] [SerdeJsonPretty] {dialect : Csv.Dialect}

theorem Rules.recovers_iff_legible (env : Env) (state : AppState) :
    Rules.Recovers dialect env state ↔
      ∀ row ∈ Rules.exportedRows state.db, csvWriter.Legible dialect (Rules.csvValues row) := by
  have hheader : csvWriter.Legible dialect Rules.csvHeader :=
    Csv.legible_of_notMem csvWriter (by decide +kernel)
  have hbody : Rules.Recovers dialect env state ↔
      Csv.read dialect (Rules.csvBody (Rules.exportedRows state.db)) =
        some (Rules.csvHeader :: (Rules.exportedRows state.db).map Rules.csvValues) := by
    constructor
    · rintro ⟨response, hresponse, hread⟩
      cases hresponse
      exact hread
    · exact fun hread => ⟨_, rfl, hread⟩
  rw [hbody, Rules.csvBody_eq, Csv.read_file_iff, List.forall_mem_cons, and_iff_right hheader,
    List.forall_mem_map]
  rw [List.forall_mem_cons, List.forall_mem_map]
  exact ⟨List.cons_ne_nil _ _, fun row _ => List.cons_ne_nil _ _⟩

omit [RegexCrate] in
theorem QueryLog.recovers_iff_legible {params : QueryLog.ExportParams}
    (hformat : params.format ≠ str "json") (hfields : QueryLog.chosenFields params.fields ≠ [])
    (rows : List QueryLog.QueryLogRow) :
    QueryLog.Recovers dialect params rows ↔ ∀ row ∈ rows,
      csvWriter.Legible dialect (QueryLog.csvValues (QueryLog.chosenFields params.fields) row) := by
  have hlabels : csvWriter.Legible dialect
      ((QueryLog.chosenFields params.fields).map QueryLog.fieldToLabel) :=
    Csv.legible_of_notMem csvWriter
      (List.forall_mem_map.mpr fun field _ => (QueryLog.quotes_fieldToLabel field).2)
  have hbody : QueryLog.Recovers dialect params rows ↔
      Csv.read dialect (QueryLog.csvBody (QueryLog.chosenFields params.fields) rows) =
        some ((QueryLog.chosenFields params.fields).map QueryLog.fieldToLabel ::
          rows.map (QueryLog.csvValues (QueryLog.chosenFields params.fields))) := by
    rw [QueryLog.Recovers, QueryLog.exportLog, if_neg hfields, if_neg hformat]
    constructor
    · rintro ⟨response, hresponse, hread⟩
      obtain rfl := QueryLog.ExportAnswer.file.inj hresponse
      exact hread
    · exact fun hread => ⟨_, rfl, hread⟩
  rw [hbody, QueryLog.csvBody_eq, Csv.read_file_iff, List.forall_mem_cons, and_iff_right hlabels,
    List.forall_mem_map]
  rw [List.forall_mem_cons, List.forall_mem_map]
  have hmap : ∀ {f : QueryLog.ExportField → Str},
      (QueryLog.chosenFields params.fields).map f ≠ [] :=
    mt List.map_eq_nil_iff.mp hfields
  exact ⟨hmap, fun row _ => hmap⟩

/-- Both exports can be read back if, and only if, no carriage return is lost or refused. -/
theorem recovers_iff (dialect : Csv.Dialect) (env : Env) (state : AppState)
    {params : QueryLog.ExportParams} (hformat : params.format ≠ str "json")
    (hfields : QueryLog.chosenFields params.fields ≠ []) (rows : List QueryLog.QueryLogRow) :
    (Rules.Recovers dialect env state ↔
      ∀ row ∈ Rules.exportedRows state.db, csvWriter.Legible dialect (Rules.csvValues row)) ∧
    (QueryLog.Recovers dialect params rows ↔ ∀ row ∈ rows,
      csvWriter.Legible dialect (QueryLog.csvValues (QueryLog.chosenFields params.fields) row)) :=
  ⟨Rules.recovers_iff_legible env state, QueryLog.recovers_iff_legible hformat hfields rows⟩

end Reading

/-! ### A carriage return at the end of a row -/

section Example

attribute [local instance] Unicode.ascii RegexCrate.fragment SerdeJsonPretty.standard

def returnedRules : Table CustomRule.id where
  rows := [⟨str "a", str "||ads.com^", none, true, str "admin", str "2026-01-01",
    some (str "2026-01-04\r")⟩]
  nodup := List.nodup_singleton _

/-- A rule whose comment has everything that is special. -/
def quotedRules : Table CustomRule.id where
  rows := [⟨str "a", str "||ads.com^", some (str "\"ads\",\r\nshops\r"), true, str "admin",
    str "2026-01-01", none⟩]
  nodup := List.nodup_singleton _

def answeredBy (upstream : Str) : QueryLog.QueryLogRow where
  id := 1
  time := str "2026-01-01 00:00:00+00"
  clientIp := str "10.0.0.2"
  clientName := none
  question := str "shop.com"
  qtype := str "A"
  answer := none
  status := str "allowed"
  reason := none
  elapsedNs := some 1500
  upstreamNs := none
  upstream := some upstream

def upstreamParams : QueryLog.ExportParams where
  fields := some (str "question, upstream")

/-- The carriage return is taken for one of the end of the record, whatever the dialect. -/
theorem not_recovers_returned :
    (¬ Rules.Recovers .strict Rules.restoreEnv (Rules.serverWith returnedRules) ∧
      ¬ Rules.Recovers .lenient Rules.restoreEnv (Rules.serverWith returnedRules)) ∧
    (¬ QueryLog.Recovers .strict upstreamParams [answeredBy (str "quad9\r")] ∧
      ¬ QueryLog.Recovers .lenient upstreamParams [answeredBy (str "quad9\r")]) ∧
    Csv.read .lenient (QueryLog.csvBody (QueryLog.chosenFields upstreamParams.fields)
        [answeredBy (str "quad9\r")]) =
      some [[str "域名", str "上游服务器"], [str "shop.com", str "quad9"]] := by
  have hlog : ∀ dialect,
      ¬ QueryLog.Recovers dialect upstreamParams [answeredBy (str "quad9\r")] := by
    intro dialect
    rw [QueryLog.recovers_iff_legible (by decide +kernel) (by decide +kernel)]
    cases dialect <;> decide +kernel
  have hrules : ∀ dialect,
      ¬ Rules.Recovers dialect Rules.restoreEnv (Rules.serverWith returnedRules) := by
    intro dialect
    rw [Rules.recovers_iff_legible]
    cases dialect <;> decide +kernel
  exact ⟨⟨hrules _, hrules _⟩, ⟨hlog _, hlog _⟩, by decide +kernel⟩

theorem recovers_quoted :
    Rules.Recovers .strict Rules.restoreEnv (Rules.serverWith quotedRules) ∧
      QueryLog.Recovers .strict upstreamParams [answeredBy (str "quad9")] := by
  have hboth := recovers_iff .strict Rules.restoreEnv (Rules.serverWith quotedRules)
    (by decide +kernel : upstreamParams.format ≠ str "json")
    (by decide +kernel : QueryLog.chosenFields upstreamParams.fields ≠ [])
    [answeredBy (str "quad9")]
  exact ⟨hboth.1.mpr (by decide +kernel), hboth.2.mpr (by decide +kernel)⟩

end Example

end RustDns.Api
