import RustDns.Placeholders
import RustDns.TextLines
import RustDns.Db.QueryLogWriter
import RustDns.Dns.Sync

/-!
# Insertions of many rows

`write_batch` and `sync_filter_list` insert many rows with one statement.  They cut their input
into chunks, write a text with a row of placeholders for each element of a chunk, and bind the
values in a second loop.  A placeholder is numbered after the place of its value among those that
are bound.

`aligned_writeBatch` and `aligned_syncFilterList` say that text and values fit together: a chunk of
`k` rows of `f` fields has the placeholders `$1` to `$(k * f)`, in this order, and the statement,
read as the database reads it, stores under the name of each column the field of the element of the
chunk.
-/

namespace RustDns.MultiRowInserts

open Text Placeholders QueryLogWriter

/-- A statement and the values that are bound to its placeholders. -/
structure Insert where
  sql : Str
  bound : List Column
deriving DecidableEq

/-- `format!("${}", n)`. -/
def placeholder (n : ℕ) : Str := str "$" ++ Decimal.showNat n

/-! ## The query log -/

/-- The columns of `query_log`. -/
def logHeader : Str :=
  str "INSERT INTO query_log (time, client_ip, question, qtype, status, reason, answer, " ++
    str "elapsed_ns, upstream_ns, upstream, app_id) VALUES "

/-- `format!("({})", cols.join(","))`. -/
def logRow (numbers : List ℕ) : Str :=
  str "(" ++ join (str ",") (numbers.map placeholder) ++ str ")"

def logInsert (chunk : List QueryLogEntry) : Insert where
  sql := logHeader ++ join (str ",") ((QueryLogWriter.placeholders chunk).map logRow)
  bound := QueryLogWriter.bound chunk

/-- The insertions of `write_batch`, if none fails. -/
def writeBatchInserts (batch : List QueryLogEntry) : List Insert :=
  if batch = [] then [] else (QueryLogWriter.chunks maxRowsPerStmt batch).map logInsert

/-! ## The rules of a filter list -/

/-- `BATCH_SIZE` of `sync_filter_list`. -/
def syncBatchSize : ℕ := 200

/-- `FIELDS_PER_ROW` of `sync_filter_list`. -/
def syncFieldsPerRow : ℕ := 4

def ruleRow (base : ℕ) : Str :=
  str "(" ++ placeholder (base + 1) ++ str ", " ++ placeholder (base + 2) ++
    str ", NULL, true, " ++ placeholder (base + 3) ++ str ", " ++ placeholder (base + 4) ++ str ")"

/-- The columns of `custom_rules`. -/
def ruleHeader : Str :=
  str "INSERT INTO custom_rules (id, rule, comment, is_enabled, created_by, created_at) VALUES "

def ruleFooter : Str := str " ON CONFLICT (id) DO NOTHING"

def ruleValues (newId : ℕ → Str) (now filterId : Str) (rule : Str × ℕ) : List Column :=
  [.text (newId rule.2), .text rule.1, .text (filterPrefix filterId), .text now]

/-- The statement for a chunk; `drawn` ids have been drawn before. -/
def ruleInsert (newId : ℕ → Str) (now filterId : Str) (drawn : ℕ) (chunk : List Str) : Insert where
  sql := ruleHeader ++
    join (str ", ") (chunk.zipIdx.map fun row => ruleRow (row.2 * syncFieldsPerRow)) ++ ruleFooter
  bound := (chunk.zipIdx drawn).flatMap (ruleValues newId now filterId)

def ruleInserts (newId : ℕ → Str) (now filterId : Str) : (drawn : ℕ) → List (List Str) → List Insert
  | _, [] => []
  | drawn, chunk :: rest =>
    if chunk.isEmpty then ruleInserts newId now filterId drawn rest
    else ruleInsert newId now filterId drawn chunk ::
      ruleInserts newId now filterId (drawn + chunk.length) rest

/-- The insertions of `sync_filter_list`, if none fails. -/
def syncInserts (newId : ℕ → Str) (now filterId : Str) (rules : List Str) : List Insert :=
  ruleInserts newId now filterId 0 (Chunks.chunks syncBatchSize rules)

/-! ## What a statement stores -/

/-- The texts in parentheses: the names of the columns, and the rows. -/
def groups : Str → List Str
  | [] => []
  | c :: rest => if c = '(' then rest.takeWhile (· ≠ ')') :: groups rest else groups rest

/-- The parts of a text in parentheses, without the blanks before them. -/
def cells (group : Str) : List Str := (group.splitOn ',').map (·.dropWhile (· = ' '))

/-- A value of a stored row. -/
inductive StoredValue where
  | column (value : Column)
  | bool (value : Bool)
deriving DecidableEq

/-- The value of a part of a row: a constant, or what is bound to the placeholder. -/
def cellValue (bound : List Column) (cell : Str) : Option StoredValue :=
  if cell = str "NULL" then some (.column .null)
  else if cell = str "true" then some (.bool true)
  else if cell.head? = some '$' then
    ((Decimal.parseNat cell.tail).bind fun n => bound[n - 1]?).map .column
  else none

/-- The first `count` rows that the statement stores, each as its values under the names of the
columns. -/
def Insert.rows (insert : Insert) (count : ℕ) : List (List (Str × Option StoredValue)) :=
  ((groups insert.sql).tail.take count).map fun row =>
    (cells ((groups insert.sql).headD [])).zip ((cells row).map (cellValue insert.bound))

/-- The fields of an entry under the names of their columns. -/
def QueryLogEntry.named (entry : QueryLogEntry) : List (Str × StoredValue) :=
  [(str "time", .column (.text entry.time)), (str "client_ip", .column (.text entry.clientIp)),
    (str "question", .column (.text entry.question)), (str "qtype", .column (.text entry.qtype)),
    (str "status", .column (.text entry.status)), (str "reason", .column (.ofText entry.reason)),
    (str "answer", .column (.ofText entry.answer)),
    (str "elapsed_ns", .column (.int entry.elapsedNs)),
    (str "upstream_ns", .column (.ofInt entry.upstreamNs)),
    (str "upstream", .column (.ofText entry.upstreamName)),
    (str "app_id", .column (.ofInt entry.appId))]

/-- The fields of a rule under the names of their columns. -/
def namedRule (row : CustomRule) : List (Str × StoredValue) :=
  [(str "id", .column (.text row.id)), (str "rule", .column (.text row.rule)),
    (str "comment", .column (.ofText row.comment)), (str "is_enabled", .bool row.isEnabled),
    (str "created_by", .column (.text row.createdBy)),
    (str "created_at", .column (.text row.createdAt))]

/-- The statement inserts the chunk: the placeholders are those of its values, and each element is
stored with its fields under the names of the columns. -/
structure Aligned {Row : Type} (fields : ℕ) (named : Row → List (Str × StoredValue))
    (chunk : List Row) (insert : Insert) : Prop where
  numbered : WellFormed insert.sql (chunk.length * fields)
  length_bound : insert.bound.length = chunk.length * fields
  stored : insert.rows chunk.length =
    chunk.map fun element => (named element).map fun field => (field.1, some field.2)
  bounded : chunk.length * fields ≤ 32766

/-- The statements insert the chunks of the input. -/
def AlignedInserts {Row : Type} (fields : ℕ) (named : Row → List (Str × StoredValue))
    (input : List Row) (inserts : List Insert) : Prop :=
  ∃ chunks : List (List Row), chunks.flatten = input ∧
    List.Forall₂ (Aligned fields named) chunks inserts

/-! ### Reading a text -/

section Reading

variable {text : Str}

theorem groups_append (htext : '(' ∉ text) (rest : Str) : groups (text ++ rest) = groups rest := by
  induction text with
  | nil => rfl
  | cons c others ih =>
    obtain ⟨hc, hothers⟩ := not_or.mp (List.mem_cons.not.mp htext)
    rw [List.cons_append, groups, if_neg (Ne.symm hc), ih hothers]

theorem groups_group (hopen : '(' ∉ text) (hclose : ')' ∉ text) (rest : Str) :
    groups (str "(" ++ text ++ str ")" ++ rest) = text :: groups rest := by
  have htake : (text ++ (str ")" ++ rest)).takeWhile (· ≠ ')') = text := by
    rw [List.takeWhile_append_of_pos fun c hc => by simpa using ne_of_mem_of_not_mem hc hclose]
    simp [str]
  change groups ('(' :: (text ++ str ")" ++ rest)) = _
  rw [groups, if_pos rfl, List.append_assoc, htake, groups_append hopen,
    groups_append (by decide)]

variable {parts : List Str}

theorem splitOn_intercalate (hne : parts ≠ []) (hparts : ∀ part ∈ parts, ',' ∉ part) :
    ((str ",").intercalate parts).splitOn ',' = parts := by
  induction parts with
  | nil => exact absurd rfl hne
  | cons part rest ih =>
    obtain ⟨hpart, hrest⟩ := List.forall_mem_cons.mp hparts
    cases rest with
    | nil => simpa [List.intercalate] using splitOn_of_notMem hpart
    | cons next rest =>
      rw [List.intercalate_cons_cons]
      change (part ++ [','] ++ _).splitOn ',' = _
      rw [List.append_assoc, List.singleton_append, splitOn_append_cons, splitOn_of_notMem hpart,
        ih (List.cons_ne_nil _ _) hrest]
      rfl

/-- A part of a row, which does not end the part or the row. -/
def IsCell (part : Str) : Prop := ',' ∉ part ∧ '(' ∉ part ∧ ')' ∉ part

theorem notMem_intercalate {c : Char} {separator : Str} (hseparator : c ∉ separator)
    (hparts : ∀ part ∈ parts, c ∉ part) : c ∉ separator.intercalate parts := by
  rw [← List.count_eq_zero, count_intercalate hseparator, List.sum_eq_zero_iff]
  intro count hcount
  obtain ⟨part, hpart, rfl⟩ := List.mem_map.mp hcount
  exact List.count_eq_zero_of_not_mem (hparts part hpart)

/-- The row of the given parts. -/
def rowText (parts : List Str) : Str := str "(" ++ (str ",").intercalate parts ++ str ")"

theorem groups_rows {separator : Str} (hseparator : '(' ∉ separator) (footer : Str)
    (rows : List (List Str)) (hrows : ∀ parts ∈ rows, ∀ part ∈ parts, IsCell part) :
    groups (separator.intercalate (rows.map rowText) ++ footer) =
      rows.map ((str ",").intercalate ·) ++ groups footer := by
  have hrow : ∀ parts, (∀ part ∈ parts, IsCell part) → ∀ rest,
      groups (rowText parts ++ rest) = (str ",").intercalate parts :: groups rest := by
    intro parts hparts rest
    exact groups_group (notMem_intercalate (by decide) fun part hpart => (hparts part hpart).2.1)
      (notMem_intercalate (by decide) fun part hpart => (hparts part hpart).2.2) rest
  induction rows with
  | nil => rfl
  | cons parts rest ih =>
    obtain ⟨hparts, hrest⟩ := List.forall_mem_cons.mp hrows
    cases rest with
    | nil => simpa [List.intercalate] using hrow parts hparts footer
    | cons next rest =>
      rw [List.map_cons, List.map_cons, List.intercalate_cons_cons, ← List.map_cons,
        List.append_assoc, List.append_assoc, hrow parts hparts, groups_append hseparator,
        ih hrest]
      rfl

theorem groups_header {header before names after : Str}
    (hheader : header = before ++ (str "(" ++ names ++ str ")" ++ after)) (hbefore : '(' ∉ before)
    (hnames : '(' ∉ names ∧ ')' ∉ names) (hafter : '(' ∉ after) (rest : Str) :
    groups (header ++ rest) = names :: groups rest := by
  rw [hheader, List.append_assoc, groups_append hbefore, List.append_assoc,
    groups_group hnames.1 hnames.2, groups_append hafter]

/-- The rows of a statement whose text is put together from a header, the rows of a chunk and a
footer: it is enough to read the row of one element. -/
theorem Insert.rows_eq {Row : Type} {insert : Insert} {chunk : List Row}
    {header separator footer names : Str} {parts : ℕ → List Str}
    {named : Row → List (Str × StoredValue)}
    (hsql : insert.sql = header ++
      (separator.intercalate (chunk.zipIdx.map fun row => rowText (parts row.2)) ++ footer))
    (hheader : ∀ rest, groups (header ++ rest) = names :: groups rest)
    (hseparator : '(' ∉ separator)
    (hparts : ∀ row, parts row ≠ [] ∧ ∀ part ∈ parts row, IsCell part)
    (hrow : ∀ element row, (element, row) ∈ chunk.zipIdx →
      (cells names).zip ((parts row).map fun part =>
        cellValue insert.bound (part.dropWhile (· = ' '))) =
          (named element).map fun field => (field.1, some field.2)) :
    insert.rows chunk.length =
      chunk.map fun element => (named element).map fun field => (field.1, some field.2) := by
  have hgroups : groups insert.sql =
      names :: (chunk.zipIdx.map fun row => (str ",").intercalate (parts row.2)) ++
        groups footer := by
    have hrows := groups_rows hseparator footer (chunk.zipIdx.map fun row => parts row.2) (by
      intro _ hmem
      obtain ⟨row, -, rfl⟩ := List.mem_map.mp hmem
      exact (hparts row.2).2)
    rw [List.map_map, List.map_map] at hrows
    rw [hsql, hheader]
    exact congrArg (names :: ·) hrows
  have hlength : chunk.length =
      (chunk.zipIdx.map fun row => (str ",").intercalate (parts row.2)).length := by
    rw [List.length_map, List.length_zipIdx]
  rw [Insert.rows, hgroups, List.cons_append, List.tail_cons, List.headD_cons, hlength,
    List.take_left, List.map_map]
  conv_rhs => rw [← List.zipIdx_map_fst 0 chunk, List.map_map]
  refine List.map_congr_left fun row hmem => ?_
  have hcells : cells ((str ",").intercalate (parts row.2)) =
      (parts row.2).map (·.dropWhile (· = ' ')) := by
    rw [cells, splitOn_intercalate (hparts row.2).1 fun part hpart =>
      ((hparts row.2).2 part hpart).1]
  rw [Function.comp_apply, Function.comp_apply, ← hrow row.1 row.2 hmem, hcells, List.map_map]
  rfl

end Reading

theorem isCell_placeholder (n : ℕ) : IsCell (placeholder n) := by
  have hnot : ∀ c, c ≠ '$' → c.isDigit = false → c ∉ placeholder n := by
    intro c hc hdigit hmem
    rcases List.mem_append.mp hmem with hmem | hmem
    · exact hc (List.mem_singleton.mp hmem)
    · exact absurd (Decimal.isDigit_of_mem_showNat hmem) (by simp [hdigit])
  exact ⟨hnot _ (by decide) (by decide), hnot _ (by decide) (by decide),
    hnot _ (by decide) (by decide)⟩

theorem cellValue_placeholder (bound : List Column) (n : ℕ) :
    cellValue bound (placeholder n) = (bound[n - 1]?).map .column := by
  have hnull : placeholder n ≠ str "NULL" := fun heq => absurd (congrArg List.head? heq)
    (by change some '$' ≠ some 'N'; decide)
  have htrue : placeholder n ≠ str "true" := fun heq => absurd (congrArg List.head? heq)
    (by change some '$' ≠ some 't'; decide)
  have hhead : (placeholder n).head? = some '$' := rfl
  rw [cellValue, if_neg hnull, if_neg htrue, if_pos hhead]
  change ((Decimal.parseNat (Decimal.showNat n)).bind _).map _ = _
  rw [Decimal.parseNat_showNat]
  rfl

theorem dropWhile_placeholder (n : ℕ) : (placeholder n).dropWhile (· = ' ') = placeholder n := rfl

/-- The placeholder of a row and a column has the value of the element at the column. -/
theorem cellValue_bound {Row : Type} {fields : ℕ} {values : Row → List Column}
    (hvalues : ∀ row, (values row).length = fields) {chunk : List Row} {element : Row} {row : ℕ}
    (hrow : (element, row) ∈ chunk.zipIdx) {column : ℕ} (hcolumn : column < fields) :
    cellValue (chunk.flatMap values) (placeholder (row * fields + (column + 1))) =
      ((values element)[column]?).map .column := by
  rw [cellValue_placeholder, ← Nat.add_assoc, Nat.add_sub_cancel,
    Chunks.getElem?_flatMap_of_width hvalues chunk hcolumn,
    List.mk_mem_zipIdx_iff_getElem?.mp hrow]
  rfl

/-- It is enough that the text is that of a template, the values are in the order of the rows, and
the rows are stored. -/
theorem aligned_of_template {Row : Type} {fields : ℕ} (template : RowTemplate fields)
    {values : Row → List Column} (hvalues : ∀ row, (values row).length = fields)
    {named : Row → List (Str × StoredValue)} {chunk : List Row} {insert : Insert}
    (hsql : insert.sql = template.sql chunk.length) (hbound : insert.bound = chunk.flatMap values)
    (hstored : insert.rows chunk.length =
      chunk.map fun element => (named element).map fun field => (field.1, some field.2))
    (hsize : chunk.length * fields ≤ 32766) : Aligned fields named chunk insert where
  numbered := hsql ▸ template.wellFormed_sql chunk.length
  length_bound := by rw [hbound, Chunks.length_flatMap_of_width hvalues]
  stored := hstored
  bounded := hsize

theorem map_zipIdx_snd {Row : Type} (chunk : List Row) (text : ℕ → Str) :
    chunk.zipIdx.map (fun row => text row.2) = (List.range chunk.length).map text := by
  rw [List.range_eq_range', ← List.zipIdx_map_snd, List.map_map]
  rfl

/-! ## The statements of `write_batch` -/

/-- The text of an insertion into `query_log` as a template. -/
def logTemplate : RowTemplate fieldsPerRow where
  header := logHeader
  row := str "(" ++ join (str ",") (List.replicate fieldsPerRow (str "?")) ++ str ")"
  separator := str ","
  footer := []
  plain_header := by decide +kernel
  isFragment_row := by decide +kernel
  plain_separator := by decide +kernel
  plain_footer := by decide +kernel
  count_row := by decide +kernel

theorem number_mark (n : ℕ) : number n (str "?") = placeholder (n + 1) := by
  simp [number, str, placeholder]

theorem logRow_eq_number (base : ℕ) :
    logRow ((List.range fieldsPerRow).map fun column => base + (column + 1)) =
      number base logTemplate.row := by
  have hopen : '?' ∉ str "(" := by decide
  have hclose : '?' ∉ str ")" := by decide
  have hcomma : '?' ∉ str "," := by decide
  have hone : (str "?").count '?' = 1 := by decide
  change logRow _ = number base
    (str "(" ++ (str ",").intercalate (List.replicate fieldsPerRow (str "?")) ++ str ")")
  rw [number_append_count, number_append hopen, number_intercalate_replicate hcomma,
    number_eq_self hclose, logRow, join, List.map_map]
  simp only [hone, number_mark, Nat.mul_one, Nat.add_assoc]
  rfl

theorem logInsert_sql (chunk : List QueryLogEntry) :
    (logInsert chunk).sql = logTemplate.sql chunk.length := by
  rw [RowTemplate.sql, ← map_zipIdx_snd chunk fun i => number (i * fieldsPerRow) logTemplate.row]
  simp only [logInsert, join, QueryLogWriter.placeholders, List.map_map, Function.comp_def,
    logRow_eq_number]
  exact (List.append_nil _).symm

/-- The names of the columns in the text. -/
def logNames : Str :=
  str "time, client_ip, question, qtype, status, reason, answer, " ++
    str "elapsed_ns, upstream_ns, upstream, app_id"

theorem cells_logNames : cells logNames =
    [str "time", str "client_ip", str "question", str "qtype", str "status", str "reason",
      str "answer", str "elapsed_ns", str "upstream_ns", str "upstream", str "app_id"] := by
  decide +kernel

/-- The parts of a row. -/
def logParts (row : ℕ) : List Str :=
  (List.range fieldsPerRow).map fun column => placeholder (row * fieldsPerRow + (column + 1))

theorem length_columns (entry : QueryLogEntry) : entry.columns.length = fieldsPerRow := rfl

theorem rows_logInsert (chunk : List QueryLogEntry) :
    (logInsert chunk).rows chunk.length = chunk.map fun entry =>
      (QueryLogEntry.named entry).map fun field => (field.1, some field.2) := by
  have hheader : logHeader =
      str "INSERT INTO query_log " ++ (str "(" ++ logNames ++ str ")" ++ str " VALUES ") := by
    decide +kernel
  have hsql : (logInsert chunk).sql = logHeader ++ ((str ",").intercalate
      (chunk.zipIdx.map fun row => rowText (logParts row.2)) ++ []) := by
    rw [logInsert, QueryLogWriter.placeholders, List.map_map, List.append_nil]
    rfl
  refine Insert.rows_eq hsql (groups_header hheader (by decide) (by decide +kernel) (by decide))
    (by decide) ?_ ?_
  · refine fun row => ⟨List.cons_ne_nil _ _, fun part hpart => ?_⟩
    obtain ⟨column, -, rfl⟩ := List.mem_map.mp hpart
    exact isCell_placeholder _
  · intro entry row hrow
    have hvalues : ∀ column ∈ List.range fieldsPerRow,
        cellValue (logInsert chunk).bound (placeholder (row * fieldsPerRow + (column + 1))) =
          ((QueryLogEntry.columns entry)[column]?).map .column := fun column hcolumn =>
      cellValue_bound length_columns hrow (List.mem_range.mp hcolumn)
    rw [cells_logNames, logParts, List.map_map]
    simp only [Function.comp_def, dropWhile_placeholder]
    rw [List.map_congr_left hvalues]
    rfl

theorem aligned_logInsert {chunk : List QueryLogEntry} (hchunk : chunk.length ≤ maxRowsPerStmt) :
    Aligned fieldsPerRow QueryLogEntry.named chunk (logInsert chunk) :=
  aligned_of_template logTemplate (fun _ => rfl) (logInsert_sql chunk) rfl (rows_logInsert chunk)
    ((Nat.mul_le_mul_right fieldsPerRow hchunk).trans (by decide))

theorem aligned_writeBatch (batch : List QueryLogEntry) :
    AlignedInserts fieldsPerRow QueryLogEntry.named batch (writeBatchInserts batch) := by
  refine ⟨Chunks.chunks maxRowsPerStmt batch, Chunks.flatten_chunks (by decide) batch, ?_⟩
  have hinserts : writeBatchInserts batch = (Chunks.chunks maxRowsPerStmt batch).map logInsert := by
    unfold writeBatchInserts
    split_ifs with hbatch
    · rw [hbatch]
      rfl
    · rw [chunks_eq]
  rw [hinserts, List.forall₂_map_right_iff, List.forall₂_same]
  intro chunk hchunk
  exact aligned_logInsert (Chunks.length_le_of_mem_chunks hchunk)

/-! ## The statements of `sync_filter_list` -/

/-- The text of an insertion into `custom_rules` as a template. -/
def ruleTemplate : RowTemplate syncFieldsPerRow where
  header := ruleHeader
  row := str "(?, ?, NULL, true, ?, ?)"
  separator := str ", "
  footer := ruleFooter
  plain_header := by decide +kernel
  isFragment_row := by decide +kernel
  plain_separator := by decide +kernel
  plain_footer := by decide +kernel
  count_row := by decide +kernel

theorem ruleRow_eq_number (base : ℕ) : ruleRow base = number base ruleTemplate.row := by
  simp [ruleRow, ruleTemplate, number, str, placeholder]

theorem ruleInsert_sql (newId : ℕ → Str) (now filterId : Str) (drawn : ℕ) (chunk : List Str) :
    (ruleInsert newId now filterId drawn chunk).sql = ruleTemplate.sql chunk.length := by
  rw [RowTemplate.sql,
    ← map_zipIdx_snd chunk fun i => number (i * syncFieldsPerRow) ruleTemplate.row]
  simp only [ruleInsert, join, ruleRow_eq_number]
  rfl

def ruleNames : Str := str "id, rule, comment, is_enabled, created_by, created_at"

theorem cells_ruleNames : cells ruleNames =
    [str "id", str "rule", str "comment", str "is_enabled", str "created_by",
      str "created_at"] := by
  decide +kernel

/-- The parts of a row; all but the first begin with a blank. -/
def ruleParts (row : ℕ) : List Str :=
  let base := row * syncFieldsPerRow
  [placeholder (base + 1), ' ' :: placeholder (base + 2), str " NULL", str " true",
    ' ' :: placeholder (base + 3), ' ' :: placeholder (base + 4)]

theorem ruleRow_eq_rowText (row : ℕ) :
    ruleRow (row * syncFieldsPerRow) = rowText (ruleParts row) := by
  simp [ruleRow, rowText, ruleParts, str, placeholder, List.intercalate]

theorem isCell_ruleParts (row : ℕ) : ∀ part ∈ ruleParts row, IsCell part := by
  have hblank : ∀ n, IsCell (' ' :: placeholder n) := by
    intro n
    obtain ⟨hcomma, hopen, hclose⟩ := isCell_placeholder n
    simp [IsCell, hcomma, hopen, hclose]
  have hnull : IsCell (str " NULL") := ⟨by decide, by decide, by decide⟩
  have htrue : IsCell (str " true") := ⟨by decide, by decide, by decide⟩
  simp only [ruleParts, List.forall_mem_cons]
  exact ⟨isCell_placeholder _, hblank _, hnull, htrue, hblank _, hblank _, by simp⟩

section Rules

variable (newId : ℕ → Str) (now filterId : Str)

variable (drawn : ℕ) (chunks : List (List Str))

/-- The row for a rule, with the number of its id. -/
def ruleRecord (rule : Str × ℕ) : CustomRule := importedRow filterId now (newId rule.2) rule.1

/-- The rows for a chunk. -/
def ruleRecords (chunk : List Str) : List CustomRule :=
  (chunk.zipIdx drawn).map (ruleRecord newId now filterId)

theorem ruleRecords_append (chunk rest : List Str) :
    ruleRecords newId now filterId drawn (chunk ++ rest) =
      ruleRecords newId now filterId drawn chunk ++
        ruleRecords newId now filterId (drawn + chunk.length) rest := by
  rw [ruleRecords, List.zipIdx_append, List.map_append]
  rfl

/-- The fields of a row that are bound. -/
def boundFields (row : CustomRule) : List Column :=
  [.text row.id, .text row.rule, .text row.createdBy, .text row.createdAt]

theorem length_boundFields (row : CustomRule) : (boundFields row).length = syncFieldsPerRow := rfl

theorem bound_ruleInsert (chunk : List Str) :
    (ruleInsert newId now filterId drawn chunk).bound =
      (ruleRecords newId now filterId drawn chunk).flatMap boundFields := by
  rw [ruleRecords, List.flatMap_map]
  rfl

theorem aligned_ruleInsert {chunk : List Str} (hchunk : chunk.length ≤ syncBatchSize) :
    Aligned syncFieldsPerRow namedRule (ruleRecords newId now filterId drawn chunk)
      (ruleInsert newId now filterId drawn chunk) := by
  have hlength : (ruleRecords newId now filterId drawn chunk).length = chunk.length := by
    rw [ruleRecords, List.length_map, List.length_zipIdx]
  have hbound := bound_ruleInsert newId now filterId drawn chunk
  have hheader : ruleHeader =
      str "INSERT INTO custom_rules " ++ (str "(" ++ ruleNames ++ str ")" ++ str " VALUES ") := by
    decide +kernel
  have hsql : (ruleInsert newId now filterId drawn chunk).sql = ruleHeader ++
      ((str ", ").intercalate ((ruleRecords newId now filterId drawn chunk).zipIdx.map
        fun row => rowText (ruleParts row.2)) ++ ruleFooter) := by
    rw [map_zipIdx_snd _ fun row => rowText (ruleParts row), hlength, ← map_zipIdx_snd chunk]
    simp only [ruleInsert, join, ruleRow_eq_rowText, List.append_assoc]
  refine aligned_of_template ruleTemplate (fun _ => rfl) ?_ hbound ?_ ?_
  · rw [ruleInsert_sql, hlength]
  · refine Insert.rows_eq hsql (groups_header hheader (by decide) (by decide +kernel) (by decide))
      (by decide) (fun row => ⟨List.cons_ne_nil _ _, isCell_ruleParts row⟩) ?_
    intro record row hrow
    have hvalue : ∀ column < syncFieldsPerRow,
        cellValue (ruleInsert newId now filterId drawn chunk).bound
          (placeholder (row * syncFieldsPerRow + (column + 1))) =
            ((boundFields record)[column]?).map .column := by
      intro column hcolumn
      rw [hbound]
      exact cellValue_bound length_boundFields hrow hcolumn
    obtain ⟨rule, -, rfl⟩ := List.mem_map.mp (List.fst_mem_of_mem_zipIdx hrow)
    rw [cells_ruleNames]
    change [_, _, _, _, _, _].zip [cellValue _ (placeholder _), cellValue _ (placeholder _),
      some _, some _, cellValue _ (placeholder _), cellValue _ (placeholder _)] = _
    rw [hvalue 0 (by decide), hvalue 1 (by decide), hvalue 2 (by decide), hvalue 3 (by decide)]
    rfl
  · rw [hlength]
    exact (Nat.mul_le_mul_right syncFieldsPerRow hchunk).trans (by decide)

theorem aligned_ruleInserts
    (hchunks : ∀ chunk ∈ chunks, chunk ≠ [] ∧ chunk.length ≤ syncBatchSize) :
    AlignedInserts syncFieldsPerRow namedRule (ruleRecords newId now filterId drawn chunks.flatten)
      (ruleInserts newId now filterId drawn chunks) := by
  induction chunks generalizing drawn with
  | nil => exact ⟨[], rfl, .nil⟩
  | cons chunk rest ih =>
    obtain ⟨⟨hne, hlength⟩, hrest⟩ := List.forall_mem_cons.mp hchunks
    obtain ⟨rows, hflatten, haligned⟩ := ih (drawn + chunk.length) hrest
    refine ⟨ruleRecords newId now filterId drawn chunk :: rows, ?_, ?_⟩
    · rw [List.flatten_cons, hflatten, List.flatten_cons, ruleRecords_append]
    · rw [ruleInserts, if_neg (by simpa using hne)]
      exact .cons (aligned_ruleInsert newId now filterId drawn hlength) haligned

/-- The rows are those by which `sync_filter_list` is modelled (`importedRows`). -/
theorem aligned_syncFilterList (rules : List Str) :
    AlignedInserts syncFieldsPerRow namedRule
      (rules.mapIdx fun i rule => importedRow filterId now (newId i) rule)
      (syncInserts newId now filterId rules) := by
  have haligned := aligned_ruleInserts newId now filterId 0 (Chunks.chunks syncBatchSize rules)
    fun chunk hchunk =>
      ⟨Chunks.ne_nil_of_mem_chunks (by decide) hchunk, Chunks.length_le_of_mem_chunks hchunk⟩
  rw [List.mapIdx_eq_zipIdx_map]
  rwa [Chunks.flatten_chunks (by decide)] at haligned

/-! ## The rows that are stored -/

theorem bound_ruleInserts :
    (ruleInserts newId now filterId drawn chunks).flatMap Insert.bound =
      (ruleRecords newId now filterId drawn chunks.flatten).flatMap boundFields := by
  induction chunks generalizing drawn with
  | nil => rfl
  | cons chunk rest ih =>
    rw [ruleInserts, List.flatten_cons, ruleRecords_append, List.flatMap_append]
    split_ifs with hempty
    · rw [List.isEmpty_iff.mp hempty, ih]
      rfl
    · rw [List.flatMap_cons, ih, bound_ruleInsert]

/-- The values of all insertions together are those of the rows by which `sync_filter_list` is
modelled. -/
theorem bound_syncInserts [Unicode] (content : Str) :
    (syncInserts newId now filterId
        ((subscriptionRules content).1 ++ (subscriptionRules content).2)).flatMap Insert.bound =
      (importedRows newId now filterId content).flatMap fun row =>
        [.text row.id, .text row.rule, .text row.createdBy, .text row.createdAt] := by
  rw [syncInserts, bound_ruleInserts, Chunks.flatten_chunks (by decide), importedRows,
    List.mapIdx_eq_zipIdx_map]
  rfl

end Rules

/-- The insertions of `write_batch` and of `sync_filter_list` are aligned with their input: the
entries of the batch, and the row for each rule. -/
theorem alignedInserts (batch : List QueryLogEntry) (newId : ℕ → Str) (now filterId : Str)
    (rules : List Str) :
    AlignedInserts fieldsPerRow QueryLogEntry.named batch (writeBatchInserts batch) ∧
      AlignedInserts syncFieldsPerRow namedRule
        (rules.mapIdx fun i rule => importedRow filterId now (newId i) rule)
        (syncInserts newId now filterId rules) :=
  ⟨aligned_writeBatch batch, aligned_syncFilterList newId now filterId rules⟩

end RustDns.MultiRowInserts
