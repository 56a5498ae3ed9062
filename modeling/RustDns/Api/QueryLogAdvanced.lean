import RustDns.Placeholders
import RustDns.JsonText
import RustDns.Api.State

/-!
# Advanced queries of the query log

`QueryBuilder` collects one condition for each filter, with question marks where values go, and
beside it the values.  `list_advanced`, `list_advanced_post` and `aggregate` make their
statements of it.  The conditions are numbered (`pg_numbered`) in the statement that reads the
rows and in the one with groups, but not in the other two.  Also the loops that bind the values
skip what is neither a string nor a number.

`allWellFormed_iff` says for which filters all statements of a request are well formed and get
the values of their placeholders.
-/

namespace RustDns

/-- The integers of the type `i64`. -/
def toI64 (n : ℤ) : Option Int64 :=
  if -2 ^ 63 ≤ n ∧ n < 2 ^ 63 then some (Int64.ofInt n) else none

/-- `Value::as_i64`.  A number with a fraction or an exponent is none, and nor is `-0`. -/
def Json.Value.asI64 : Json.Value → Option Int64
  | .number text => if text = str "-0" then none else (Decimal.parseInt text).bind toI64
  | _ => none

/-- `json!` of an `i64`. -/
def Json.Value.ofI64 (n : Int64) : Json.Value := .number (Decimal.showInt n.toInt)

/-- `Value::as_array`, and nothing for other values. -/
def Json.Value.items : Json.Value → List Json.Value
  | .array items => items
  | _ => []

theorem toI64_toInt (n : Int64) : toI64 n.toInt = some n := by
  rw [toI64, if_pos ⟨Int64.le_toInt n, Int64.toInt_lt n⟩, Int64.ofInt_toInt]

theorem Json.Value.asI64_ofI64 (n : Int64) : (ofI64 n).asI64 = some n := by
  have htext : Decimal.showInt n.toInt ≠ str "-0" := by
    intro htext
    have hzero : n.toInt = 0 := by
      have hparse := Decimal.parseInt_showInt n.toInt
      rw [htext] at hparse
      exact (Option.some.inj hparse).symm
    rw [hzero] at htext
    exact absurd htext (by decide)
  simp only [ofI64, asI64, if_neg htext, Decimal.parseInt_showInt, Option.bind_some, toI64_toInt]

namespace Api.QueryLogAdvanced

open Text Placeholders

structure Filter where
  field : Str
  operator : Str
  value : Json.Value

/-- `AdvancedQueryParams`, and `AdvancedQueryBody` with the same fields. -/
structure AdvancedQueryParams where
  filters : List Filter := []
  logic : Str := str "AND"
  limit : Int64 := 100
  offset : Int64 := 0

structure AggregateParams where
  filters : List Filter := []
  groupBy : List Str := []
  metric : Str := str "count"
  limit : Int64 := 10

/-- How a request ends without a statement: with an error, or with a panic of `chrono`. -/
inductive Refusal where
  | error (error : AppError)
  | panics
deriving DecidableEq

inductive TimeUnit where
  | hours
  | days
  | weeks
  | months
deriving DecidableEq

/-- `Utc::now()` and the time that is some units before it, as text; a time that `chrono` cannot
represent is none. -/
structure Clock where
  now : Str
  before : TimeUnit → ℕ → Option Str

/-! ## Filters -/

inductive Comparison where
  | gt
  | lt
  | gte
  | lte
  | eq
deriving DecidableEq

def Comparison.sql : Comparison → Str
  | .gt => str ">"
  | .lt => str "<"
  | .gte => str ">="
  | .lte => str "<="
  | .eq => str "="

def comparison (operator : Str) : Option Comparison :=
  if operator = str "gt" then some .gt
  else if operator = str "lt" then some .lt
  else if operator = str "gte" then some .gte
  else if operator = str "lte" then some .lte
  else if operator = str "eq" then some .eq
  else none

inductive LikeColumn where
  | question
  | answer
  | clientName
  | upstream
deriving DecidableEq

def LikeColumn.name : LikeColumn → Str
  | .question => str "question"
  | .answer => str "answer"
  | .clientName => str "client_name"
  | .upstream => str "upstream"

inductive EnumColumn where
  | status
  | qtype
deriving DecidableEq

def EnumColumn.name : EnumColumn → Str
  | .status => str "status"
  | .qtype => str "qtype"

inductive FilterKind where
  | timeBetween
  | timeCompare (comparison : Comparison)
  | timeRelative
  | like (column : LikeColumn)
  | isEq (column : EnumColumn)
  | isIn (column : EnumColumn)
  | elapsedMs (comparison : Comparison)
  | elapsedNs (comparison : Comparison)
  | reasonEq
  | reasonLike
deriving DecidableEq

def Filter.kind (filter : Filter) : Option FilterKind :=
  if filter.field = str "time" then
    if filter.operator = str "between" then some .timeBetween
    else if filter.operator = str "relative" then some .timeRelative
    else ((comparison filter.operator).filter (· ≠ .eq)).map .timeCompare
  else if filter.operator = str "like" ∧ filter.field = str "question" then some (.like .question)
  else if filter.operator = str "like" ∧ filter.field = str "answer" then some (.like .answer)
  else if filter.operator = str "like" ∧ filter.field = str "client_name" then
    some (.like .clientName)
  else if filter.operator = str "like" ∧ filter.field = str "upstream" then some (.like .upstream)
  else if filter.operator = str "eq" ∧ filter.field = str "status" then some (.isEq .status)
  else if filter.operator = str "eq" ∧ filter.field = str "qtype" then some (.isEq .qtype)
  else if filter.operator = str "in" ∧ filter.field = str "status" then some (.isIn .status)
  else if filter.operator = str "in" ∧ filter.field = str "qtype" then some (.isIn .qtype)
  else if filter.field = str "elapsed_ms" then (comparison filter.operator).map .elapsedMs
  else if filter.field = str "elapsed_ns" then (comparison filter.operator).map .elapsedNs
  else if filter.operator = str "eq" ∧ filter.field = str "reason" then some .reasonEq
  else if filter.operator = str "like" ∧ filter.field = str "reason" then some .reasonLike
  else none

def invalid {α : Type} (message : Str) : Except Refusal α :=
  .error (.error (.validation message))

def timeUnit (letter : Char) : Option TimeUnit :=
  if letter = 'h' then some .hours
  else if letter = 'd' then some .days
  else if letter = 'w' then some .weeks
  else if letter = 'M' then some .months
  else none

/-- `parse_relative_time`: the start and the end as text. -/
def parseRelativeTime (clock : Clock) (duration : Str) : Except Refusal (Str × Str) :=
  match (Decimal.parseInt (duration.takeWhile fun c => c.isDigit || c = '-')).bind toI64 with
  | none => invalid (str "Invalid relative time format: " ++ duration)
  | some num =>
    match duration.getLast? with
    | none => invalid (str "Missing time unit")
    | some letter =>
      match timeUnit letter with
      | none => invalid (str "Unsupported time unit: " ++ [letter])
      | some unit =>
        match clock.before unit num.toInt.natAbs with
        | none => .error .panics
        | some start => .ok (start, clock.now)

/-- `%…%` around the text of a value. -/
def likePattern (value : Json.Value) : Json.Value :=
  .string (str "%" ++ value.asStr.getD [] ++ str "%")

/-- The arms of the match in `QueryBuilder::add_filter`: the condition and its values. -/
def FilterKind.attach (clock : Clock) (value : Json.Value) :
    FilterKind → Except Refusal (Str × List Json.Value)
  | .timeBetween =>
    match value with
    | .array [first, second] => .ok (str "time BETWEEN ? AND ?", [first, second])
    | .array _ => invalid (str "time between requires exactly 2 values")
    | _ => invalid (str "time between requires array")
  | .timeCompare comparison => .ok (str "time " ++ comparison.sql ++ str " ?", [value])
  | .timeRelative =>
    match value.asStr with
    | none => invalid (str "relative time is string")
    | some duration =>
      match parseRelativeTime clock duration with
      | .error refusal => .error refusal
      | .ok (start, stop) => .ok (str "time BETWEEN ? AND ?", [.string start, .string stop])
  | .like column => .ok (column.name ++ str " LIKE ?", [likePattern value])
  | .isEq column => .ok (column.name ++ str " = ?", [value])
  | .isIn column =>
    match value with
    | .array items =>
      .ok (column.name ++ str " IN (" ++ join (str ",") (items.map fun _ => str "?") ++ str ")",
        items)
    | _ => invalid (str "in operator requires array")
  | .elapsedMs comparison =>
    match value.asI64 with
    | none => invalid (str "elapsed_ms must be a number")
    | some ms => .ok (str "elapsed_ns " ++ comparison.sql ++ str " ?", [.ofI64 (ms * 1000000)])
  | .elapsedNs comparison =>
    match value.asI64 with
    | none => invalid (str "elapsed_ns must be a number")
    | some ns => .ok (str "elapsed_ns " ++ comparison.sql ++ str " ?", [.ofI64 ns])
  | .reasonEq => .ok (str "reason = ?", [.string (value.asStr.getD [])])
  | .reasonLike => .ok (str "reason LIKE ?", [likePattern value])

structure QueryBuilder where
  conditions : List Str := []
  bindings : List Json.Value := []

def QueryBuilder.addFilter (clock : Clock) (builder : QueryBuilder) (filter : Filter) :
    Except Refusal QueryBuilder :=
  match filter.kind with
  | none => .ok builder
  | some kind =>
    match kind.attach clock filter.value with
    | .error refusal => .error refusal
    | .ok (condition, values) =>
      .ok ⟨builder.conditions ++ [condition], builder.bindings ++ values⟩

def addFilters (clock : Clock) (filters : List Filter) : Except Refusal QueryBuilder :=
  filters.foldlM (QueryBuilder.addFilter clock) {}

/-! ## Statements -/

/-- The rounds of `pg_numbered`: the first question mark is replaced, `n` of them before. -/
def pgNumberedRounds : (rounds n : ℕ) → Str → Str
  | 0, _, result => result
  | rounds + 1, n, result =>
    match result.dropWhile (· ≠ '?') with
    | [] => result
    | _ :: after =>
      pgNumberedRounds rounds (n + 1)
        (result.takeWhile (· ≠ '?') ++ str "$" ++ Decimal.showNat (n + 1) ++ after)

/-- `pg_numbered`.  No round makes a new question mark, so there are as many as these. -/
def pgNumbered (sql : Str) : Str := pgNumberedRounds (sql.count '?') 0 sql

inductive Bound where
  | text (text : Str)
  | int (n : Int64)
deriving DecidableEq

def boundValue : Json.Value → Option Bound
  | .string text => some (.text text)
  | .number text => some (.int ((Json.Value.number text).asI64.getD 0))
  | _ => none

structure Statement where
  sql : Str
  bound : List Bound

/-- `WHERE` and the conditions, if there are any. -/
def whereClause (connector : Str) (conditions : List Str) : Str :=
  if conditions = [] then [] else str "WHERE " ++ join connector conditions

/-- What stands between the conditions.  Only the letters of `or` are mapped to those of `OR`
by `to_uppercase`. -/
def connector (logic : Str) : Str :=
  if logic.map Char.toUpper = str "OR" then str " OR " else str " AND "

def selectRows : Str :=
  str "SELECT id, time::text as time, client_ip, client_name, question, qtype, answer, " ++
    str "status, reason, upstream, elapsed_ns\n             FROM query_log "

def QueryBuilder.build (builder : QueryBuilder) (logic : Str) (limit offset : Int64) :
    Str × List Json.Value :=
  (pgNumbered (selectRows ++ whereClause (connector logic) builder.conditions ++
      str " ORDER BY time DESC LIMIT ? OFFSET ?"),
    builder.bindings ++ [.ofI64 limit, .ofI64 offset])

/-- `limit.clamp(1, 1000)`. -/
def clampLimit (limit : Int64) : Int64 :=
  if limit < 1 then 1 else if 1000 < limit then 1000 else limit

/-- The handlers of the lists: the statement that counts, and if it does not fail the one that
reads the rows. -/
def list (clock : Clock) (countFails : Bool) (params : AdvancedQueryParams) :
    Except Refusal (List Statement) := do
  let builder ← addFilters clock params.filters
  let count : Statement :=
    ⟨str "SELECT COUNT(*) FROM query_log " ++
      whereClause (connector params.logic) builder.conditions,
    builder.bindings.filterMap boundValue⟩
  let (sql, bindings) := builder.build params.logic (clampLimit params.limit) params.offset
  let data : Statement := ⟨sql, bindings.filterMap boundValue⟩
  return if countFails then [count] else [count, data]

def listAdvanced (clock : Clock) (countFails : Bool) (params : AdvancedQueryParams) :
    Except Refusal (List Statement) := list clock countFails params

def listAdvancedPost (clock : Clock) (countFails : Bool) (body : AdvancedQueryParams) :
    Except Refusal (List Statement) := list clock countFails body

def metricSql (metric : Str) : Str :=
  if metric = str "sum_elapsed_ms" then str "COALESCE(SUM(elapsed_ns), 0) as metric"
  else if metric = str "avg_elapsed_ms" then str "COALESCE(AVG(elapsed_ns), 0) as metric"
  else str "COUNT(*) as metric"

def validFields : List Str :=
  [str "client_ip", str "client_name", str "question", str "qtype", str "status", str "upstream",
    str "reason"]

def aggregate (clock : Clock) (params : AggregateParams) : Except Refusal (List Statement) := do
  let builder ← addFilters clock params.filters
  let clause := whereClause (str " AND ") builder.conditions
  if params.groupBy = [] then
    return [⟨str "SELECT " ++ metricSql params.metric ++ str " FROM query_log " ++ clause,
      builder.bindings.filterMap boundValue⟩]
  else
    match params.groupBy.find? (! validFields.contains ·) with
    | some field =>
      invalid (str "Invalid group_by field: " ++ field ++ str ". Valid fields: [" ++
        join (str ", ") (validFields.map fun field => str "\"" ++ field ++ str "\"") ++ str "]")
    | none =>
      let groupFields := join (str ", ") params.groupBy
      return [⟨pgNumbered (str "SELECT " ++ groupFields ++ str ", " ++ metricSql params.metric ++
          str " FROM query_log " ++ clause ++ str " GROUP BY " ++ groupFields ++
          str " ORDER BY metric DESC LIMIT ?"),
        builder.bindings.filterMap boundValue ++ [.int params.limit]⟩]

/-! ## Well-formed statements -/

def Bound.Holds : Bound → Json.Value → Prop
  | .text content, value => value = .string content
  | .int n, value => value.asI64 = some n

structure WellFormed (statement : Statement) (values : List Json.Value) : Prop where
  text : Placeholders.WellFormed statement.sql values.length
  bound : List.Forall₂ Bound.Holds statement.bound values

inductive Request where
  | listAdvanced (params : AdvancedQueryParams)
  | listAdvancedPost (body : AdvancedQueryParams)
  | aggregate (params : AggregateParams)

def Request.filters : Request → List Filter
  | .listAdvanced params | .listAdvancedPost params => params.filters
  | .aggregate params => params.filters

def Request.sent (clock : Clock) (countFails : Bool) : Request → Except Refusal (List Statement)
  | .listAdvanced params => QueryLogAdvanced.listAdvanced clock countFails params
  | .listAdvancedPost body => QueryLogAdvanced.listAdvancedPost clock countFails body
  | .aggregate params => QueryLogAdvanced.aggregate clock params

/-- The values for the placeholders of each statement: those of the filters, then the limit and
the offset. -/
def Request.values (attached : List Json.Value) : Request → List (List Json.Value)
  | .listAdvanced params | .listAdvancedPost params =>
    [attached, attached ++ [.ofI64 (clampLimit params.limit), .ofI64 params.offset]]
  | .aggregate params =>
    if params.groupBy = [] then [attached] else [attached ++ [.ofI64 params.limit]]

def AllWellFormed (sent : List Statement) (values : List (List Json.Value)) : Prop :=
  ∀ point ∈ sent.zip values, WellFormed point.1 point.2

def FilterKind.HasNoValue (value : Json.Value) : FilterKind → Prop
  | .isIn _ => value.items = []
  | _ => False

def Filter.HasNoValue (filter : Filter) : Prop :=
  ∀ kind ∈ filter.kind, kind.HasNoValue filter.value

def isBindable : Json.Value → Bool
  | .string _ => true
  | value => value.asI64.isSome

def FilterKind.HasBindable (value : Json.Value) : FilterKind → Prop
  | .timeBetween | .isIn _ => ∀ item ∈ value.items, isBindable item = true
  | .timeCompare _ | .isEq _ => isBindable value = true
  | _ => True

def Filter.HasBindable (filter : Filter) : Prop :=
  ∀ kind ∈ filter.kind, kind.HasBindable filter.value

/-- The condition on the filters: in a statement that is not numbered there are no values, and
in the others they can be bound. -/
def Request.Bindable : Request → Prop
  | .listAdvanced params | .listAdvancedPost params => ∀ filter ∈ params.filters, filter.HasNoValue
  | .aggregate params =>
    if params.groupBy = [] then ∀ filter ∈ params.filters, filter.HasNoValue
    else ∀ filter ∈ params.filters, filter.HasBindable

/-! ## Numbering -/

theorem pgNumberedRounds_eq {rounds n : ℕ} {result : Str} (hrounds : result.count '?' ≤ rounds) :
    pgNumberedRounds rounds n result = number n result := by
  induction rounds generalizing n result with
  | zero =>
    have hmark : '?' ∉ result := List.count_eq_zero.mp (Nat.le_zero.mp hrounds)
    rw [pgNumberedRounds, number_eq_self hmark]
  | succ rounds ih =>
    have hbefore : '?' ∉ result.takeWhile (· ≠ '?') := fun hmem => by
      simpa using List.mem_takeWhile_imp hmem
    have hsplit := List.takeWhile_append_dropWhile (p := (· ≠ '?')) (l := result)
    rw [pgNumberedRounds]
    cases hdrop : result.dropWhile (· ≠ '?') with
    | nil =>
      rw [hdrop, List.append_nil] at hsplit
      rw [hsplit] at hbefore
      exact (number_eq_self hbefore n).symm
    | cons c after =>
      obtain rfl : c = '?' := by
        have hhead := List.head?_dropWhile_not (fun d => decide (d ≠ '?')) result
        rw [hdrop] at hhead
        simpa using hhead
      rw [hdrop] at hsplit
      generalize result.takeWhile (· ≠ '?') = before at hbefore hsplit ⊢
      have hnext : before ++ str "$" ++ Decimal.showNat (n + 1) ++ after =
          before ++ '$' :: Decimal.showNat (n + 1) ++ after := by
        rw [List.append_assoc before]
        rfl
      have hcount := count_first before (n + 1) after
      rw [hsplit] at hcount
      change pgNumberedRounds rounds (n + 1) _ = _
      rw [hnext, ih (by omega), number_first hbefore, hsplit]

theorem pgNumbered_eq (sql : Str) : pgNumbered sql = number 0 sql :=
  pgNumberedRounds_eq le_rfl

/-! ## The values that are bound -/

theorem holds_of_boundValue {value : Json.Value} {bound : Bound}
    (hbind : boundValue value = some bound) : bound.Holds value ↔ isBindable value = true := by
  cases value with
  | string content =>
    cases hbind
    exact ⟨fun _ => rfl, fun _ => rfl⟩
  | number content =>
    cases hbind
    cases hint : (Json.Value.number content).asI64 <;>
      simp [Bound.Holds, isBindable, hint]
  | null | bool _ | array _ | object _ => cases hbind

theorem isBindable_of_boundValue {value : Json.Value} (hbind : boundValue value = none) :
    isBindable value = false := by
  cases value with
  | string _ | number _ => cases hbind
  | null | bool _ | array _ | object _ => rfl

/-- The values are bound as they are if and only if none is skipped or replaced. -/
theorem forall₂_boundValue_iff (values : List Json.Value) :
    List.Forall₂ Bound.Holds (values.filterMap boundValue) values ↔
      ∀ value ∈ values, isBindable value = true := by
  induction values with
  | nil => simp
  | cons value rest ih =>
    rw [List.forall_mem_cons]
    cases hbind : boundValue value with
    | none =>
      rw [List.filterMap_cons_none hbind, isBindable_of_boundValue hbind]
      refine ⟨fun hall => ?_, fun hall => absurd hall.1 (by decide)⟩
      have hlength := hall.length_eq
      have hle := List.length_filterMap_le boundValue rest
      rw [List.length_cons] at hlength
      omega
    | some bound =>
      rw [List.filterMap_cons_some hbind, List.forall₂_cons, holds_of_boundValue hbind, ih]

theorem isBindable_ofI64 (n : Int64) : isBindable (.ofI64 n) = true := by
  have hint : (Json.Value.ofI64 n).asI64.isSome = true := by rw [Json.Value.asI64_ofI64]; rfl
  exact hint

theorem boundValue_ofI64 (n : Int64) : boundValue (.ofI64 n) = some (.int n) := by
  have hint : boundValue (.ofI64 n) = some (.int ((Json.Value.ofI64 n).asI64.getD 0)) := rfl
  rw [hint, Json.Value.asI64_ofI64, Option.getD_some]

/-! ## Conditions -/

/-- What `add_filter` attaches for a filter of some kind. -/
structure Attached (kind : FilterKind) (value : Json.Value) (condition : Str)
    (values : List Json.Value) : Prop where
  fragment : isFragment condition = true
  count : condition.count '?' = values.length
  noValue : values = [] ↔ kind.HasNoValue value
  bindable : (∀ value ∈ values, isBindable value = true) ↔ kind.HasBindable value

section Attach

variable {clock : Clock} {value : Json.Value} {condition : Str} {values : List Json.Value}

theorem Attached.single {kind : FilterKind} {new : Json.Value}
    (hfragment : isFragment condition = true) (hcount : condition.count '?' = 1)
    (hnoValue : ¬ kind.HasNoValue value)
    (hbindable : isBindable new = true ↔ kind.HasBindable value) :
    Attached kind value condition [new] where
  fragment := hfragment
  count := hcount
  noValue := iff_of_false (List.cons_ne_nil _ _) hnoValue
  bindable := by rwa [List.forall_mem_singleton]

theorem attached_isIn (column : EnumColumn) (items : List Json.Value) :
    Attached (.isIn column) (.array items)
      (column.name ++ str " IN (" ++ join (str ",") (items.map fun _ => str "?") ++ str ")")
      items where
  fragment := by
    have hmarks : isFragment (join (str ",") (items.map fun _ => str "?")) = true := by
      refine isFragment_intercalate rfl fun part hpart => ?_
      obtain ⟨_, _, rfl⟩ := List.mem_map.mp hpart
      rfl
    refine isFragment_append (isFragment_append ?_ hmarks) rfl
    cases column <;> rfl
  count := by
    have hname : (column.name ++ str " IN (").count '?' = 0 := by cases column <;> rfl
    have hmarks : (join (str ",") (items.map fun _ => str "?")).count '?' = items.length := by
      rw [join, count_intercalate (by decide), List.map_map]
      simp [Function.comp_def, str]
    rw [List.count_append, List.count_append, hname, hmarks]
    simp [str]
  noValue := Iff.rfl
  bindable := Iff.rfl

theorem attached_of_attach {kind : FilterKind}
    (hattach : kind.attach clock value = .ok (condition, values)) :
    Attached kind value condition values := by
  cases kind with
  | timeBetween =>
    simp only [FilterKind.attach] at hattach
    split at hattach
    · cases hattach
      exact ⟨rfl, rfl, iff_of_false (List.cons_ne_nil _ _) id, Iff.rfl⟩
    · cases hattach
    · cases hattach
  | timeCompare comparison =>
    cases hattach
    refine .single ?_ ?_ id Iff.rfl <;> cases comparison <;> rfl
  | timeRelative =>
    simp only [FilterKind.attach] at hattach
    split at hattach
    · cases hattach
    · split at hattach
      · cases hattach
      · cases hattach
        exact ⟨rfl, rfl, iff_of_false (List.cons_ne_nil _ _) id,
          iff_of_true (by simp [isBindable]) trivial⟩
  | like column =>
    cases hattach
    refine .single ?_ ?_ id (iff_of_true rfl trivial) <;> cases column <;> rfl
  | isEq column =>
    cases hattach
    refine .single ?_ ?_ id Iff.rfl <;> cases column <;> rfl
  | isIn column =>
    simp only [FilterKind.attach] at hattach
    split at hattach
    · cases hattach
      exact attached_isIn column _
    · cases hattach
  | elapsedMs comparison =>
    simp only [FilterKind.attach] at hattach
    split at hattach
    · cases hattach
    · cases hattach
      refine .single ?_ ?_ id (iff_of_true (isBindable_ofI64 _) trivial) <;>
        cases comparison <;> rfl
  | elapsedNs comparison =>
    simp only [FilterKind.attach] at hattach
    split at hattach
    · cases hattach
    · cases hattach
      refine .single ?_ ?_ id (iff_of_true (isBindable_ofI64 _) trivial) <;>
        cases comparison <;> rfl
  | reasonEq =>
    cases hattach
    exact .single rfl rfl id (iff_of_true rfl trivial)
  | reasonLike =>
    cases hattach
    exact .single rfl rfl id (iff_of_true rfl trivial)

end Attach

/-! ## The builder -/

structure Aligned (filters : List Filter) (builder : QueryBuilder) : Prop where
  fragment : ∀ condition ∈ builder.conditions, isFragment condition = true
  count : (builder.conditions.map (List.count '?')).sum = builder.bindings.length
  noValue : builder.bindings = [] ↔ ∀ filter ∈ filters, filter.HasNoValue
  bindable : (∀ value ∈ builder.bindings, isBindable value = true) ↔
    ∀ filter ∈ filters, filter.HasBindable

section Builder

variable {clock : Clock} {filters : List Filter} {builder after : QueryBuilder}

theorem Aligned.addFilter {filter : Filter} (haligned : Aligned filters builder)
    (hadd : builder.addFilter clock filter = .ok after) : Aligned (filters ++ [filter]) after := by
  unfold QueryBuilder.addFilter at hadd
  cases hkind : filter.kind with
  | none =>
    -- a filter that is skipped has no value
    rw [hkind] at hadd
    cases hadd
    have hnoValue : filter.HasNoValue := by simp [Filter.HasNoValue, hkind]
    have hbindable : filter.HasBindable := by simp [Filter.HasBindable, hkind]
    refine ⟨haligned.fragment, haligned.count, ?_, ?_⟩
    · rw [haligned.noValue, List.forall_mem_append, List.forall_mem_singleton]
      exact (and_iff_left hnoValue).symm
    · rw [haligned.bindable, List.forall_mem_append, List.forall_mem_singleton]
      exact (and_iff_left hbindable).symm
  | some kind =>
    simp only [hkind] at hadd
    cases hattach : kind.attach clock filter.value with
    | error refusal =>
      rw [hattach] at hadd
      cases hadd
    | ok attached =>
      obtain ⟨condition, values⟩ := attached
      rw [hattach] at hadd
      cases hadd
      have hattached := attached_of_attach hattach
      have hnoValue : filter.HasNoValue ↔ kind.HasNoValue filter.value := by
        simp [Filter.HasNoValue, hkind]
      have hbindable : filter.HasBindable ↔ kind.HasBindable filter.value := by
        simp [Filter.HasBindable, hkind]
      refine ⟨?_, ?_, ?_, ?_⟩
      · rw [List.forall_mem_append, List.forall_mem_singleton]
        exact ⟨haligned.fragment, hattached.fragment⟩
      · rw [List.map_append, List.sum_append, haligned.count, List.length_append, ← hattached.count]
        simp
      · rw [List.append_eq_nil_iff, haligned.noValue, hattached.noValue, ← hnoValue,
          List.forall_mem_append, List.forall_mem_singleton]
      · rw [List.forall_mem_append, haligned.bindable, hattached.bindable, ← hbindable,
          List.forall_mem_append, List.forall_mem_singleton]

theorem aligned_foldlM (rest : List Filter) (haligned : Aligned filters builder)
    (hfold : rest.foldlM (QueryBuilder.addFilter clock) builder = .ok after) :
    Aligned (filters ++ rest) after := by
  induction rest generalizing filters builder with
  | nil =>
    cases hfold
    rwa [List.append_nil]
  | cons filter rest ih =>
    rw [List.foldlM_cons] at hfold
    cases hadd : builder.addFilter clock filter with
    | error refusal =>
      rw [hadd] at hfold
      cases hfold
    | ok next =>
      rw [hadd] at hfold
      have hrest := ih (haligned.addFilter hadd) hfold
      rwa [List.append_assoc] at hrest

theorem aligned_addFilters (hbuilder : addFilters clock filters = .ok builder) :
    Aligned filters builder := by
  have hempty : Aligned [] {} :=
    ⟨by simp, rfl, by simp, by simp⟩
  exact aligned_foldlM filters hempty hbuilder

theorem isFragment_whereClause {connector : Str}
    (hconnector : isFragment connector = true) (haligned : Aligned filters builder) :
    isFragment (whereClause connector builder.conditions) = true := by
  unfold whereClause
  split_ifs
  · rfl
  · exact isFragment_append rfl
      (isFragment_intercalate hconnector haligned.fragment)

theorem count_whereClause {connector : Str} (hconnector : '?' ∉ connector)
    (haligned : Aligned filters builder) :
    (whereClause connector builder.conditions).count '?' = builder.bindings.length := by
  rw [← haligned.count]
  unfold whereClause
  split_ifs with hconditions
  · rw [hconditions]
    rfl
  · rw [List.count_append, join, count_intercalate hconnector]
    exact Nat.zero_add _

end Builder

/-! ## The statements -/

section Statements

variable {sql : Str} {values : List Json.Value}

/-- A statement that is not numbered is well formed only without values. -/
theorem wellFormed_unnumbered_iff (hsql : isFragment sql = true)
    (hcount : sql.count '?' = values.length) :
    WellFormed ⟨sql, values.filterMap boundValue⟩ values ↔ values = [] := by
  have htemplate := ((Bool.and_eq_true _ _).mp hsql).2
  constructor
  · intro hwell
    have htext : Placeholders.WellFormed sql (sql.count '?') := hcount ▸ hwell.text
    have hmark := (wellFormed_iff_not_mem htemplate).mp htext
    rw [List.count_eq_zero_of_not_mem hmark] at hcount
    exact List.length_eq_zero_iff.mp hcount.symm
  · rintro rfl
    refine ⟨?_, .nil⟩
    rw [← hcount]
    exact (wellFormed_iff_not_mem htemplate).mpr (List.count_eq_zero.mp hcount)

theorem wellFormed_numbered_iff (hsql : isFragment sql = true)
    (hcount : sql.count '?' = values.length) :
    WellFormed ⟨pgNumbered sql, values.filterMap boundValue⟩ values ↔
      ∀ value ∈ values, isBindable value = true := by
  have htemplate := ((Bool.and_eq_true _ _).mp hsql).2
  rw [← forall₂_boundValue_iff]
  refine ⟨WellFormed.bound, fun hbound => ⟨?_, hbound⟩⟩
  rw [pgNumbered_eq, ← hcount]
  exact wellFormed_number htemplate

variable {filters : List Filter} {builder : QueryBuilder} {connector head tail : Str}

theorem wellFormed_unnumbered_where_iff (haligned : Aligned filters builder)
    (hconnector : IsPlain connector) (hhead : IsPlain head) :
    WellFormed ⟨head ++ whereClause connector builder.conditions,
      builder.bindings.filterMap boundValue⟩ builder.bindings ↔ builder.bindings = [] := by
  refine wellFormed_unnumbered_iff
    (isFragment_append hhead.1 (isFragment_whereClause hconnector.1 haligned)) ?_
  rw [List.count_append, hhead.count, count_whereClause hconnector.2 haligned, Nat.zero_add]

theorem wellFormed_numbered_where_iff (haligned : Aligned filters builder)
    (hconnector : IsPlain connector) (hhead : IsPlain head) (htail : isFragment tail = true)
    (hcount : tail.count '?' = values.length)
    (hvalues : ∀ value ∈ values, isBindable value = true) :
    WellFormed ⟨pgNumbered (head ++ whereClause connector builder.conditions ++ tail),
      (builder.bindings ++ values).filterMap boundValue⟩ (builder.bindings ++ values) ↔
      ∀ value ∈ builder.bindings, isBindable value = true := by
  have hsql : isFragment (head ++ whereClause connector builder.conditions ++ tail) = true :=
    isFragment_append
      (isFragment_append hhead.1 (isFragment_whereClause hconnector.1 haligned)) htail
  rw [wellFormed_numbered_iff hsql, List.forall_mem_append]
  · exact and_iff_left hvalues
  · rw [List.count_append, List.count_append, hhead.count,
      count_whereClause hconnector.2 haligned, hcount, List.length_append, Nat.zero_add]

variable (metric logic : Str) (limit : Int64)

theorem isPlain_connector : IsPlain (QueryLogAdvanced.connector logic) := by
  unfold QueryLogAdvanced.connector
  split_ifs <;> decide

theorem isPlain_metricSql : IsPlain (metricSql metric) := by
  unfold metricSql
  split_ifs <;> decide +kernel

theorem isPlain_groupBy {groupBy : List Str}
    (hvalid : groupBy.find? (! validFields.contains ·) = none) :
    IsPlain (join (str ", ") groupBy) := by
  have hfields : ∀ field ∈ validFields, IsPlain field := by decide +kernel
  refine isPlain_intercalate (by decide) fun field hfield => hfields field ?_
  simpa using List.find?_eq_none.mp hvalid field hfield

theorem wellFormed_count_iff (haligned : Aligned filters builder) :
    WellFormed ⟨str "SELECT COUNT(*) FROM query_log " ++
        whereClause (QueryLogAdvanced.connector logic) builder.conditions,
      builder.bindings.filterMap boundValue⟩ builder.bindings ↔ builder.bindings = [] :=
  wellFormed_unnumbered_where_iff haligned (isPlain_connector logic) (by decide +kernel)

theorem wellFormed_build_iff (offset : Int64) (haligned : Aligned filters builder) :
    WellFormed ⟨(builder.build logic limit offset).1,
        (builder.build logic limit offset).2.filterMap boundValue⟩
      (builder.bindings ++ [.ofI64 limit, .ofI64 offset]) ↔
      ∀ value ∈ builder.bindings, isBindable value = true := by
  have hhead : IsPlain selectRows := by decide +kernel
  simp only [QueryBuilder.build]
  refine wellFormed_numbered_where_iff haligned (isPlain_connector logic) hhead
    (by decide +kernel) rfl ?_
  rw [List.forall_mem_cons, List.forall_mem_singleton]
  exact ⟨isBindable_ofI64 limit, isBindable_ofI64 offset⟩

theorem wellFormed_total_iff (haligned : Aligned filters builder) :
    WellFormed ⟨str "SELECT " ++ metricSql metric ++ str " FROM query_log " ++
        whereClause (str " AND ") builder.conditions, builder.bindings.filterMap boundValue⟩
      builder.bindings ↔ builder.bindings = [] := by
  have hselect : IsPlain (str "SELECT ") := by decide
  have hfrom : IsPlain (str " FROM query_log ") := by decide
  exact wellFormed_unnumbered_where_iff haligned (by decide)
    ((hselect.append (isPlain_metricSql metric)).append hfrom)

theorem wellFormed_groups_iff {groupBy : List Str}
    (hvalid : groupBy.find? (! validFields.contains ·) = none)
    (haligned : Aligned filters builder) :
    WellFormed ⟨pgNumbered (str "SELECT " ++ join (str ", ") groupBy ++ str ", " ++
          metricSql metric ++ str " FROM query_log " ++
          whereClause (str " AND ") builder.conditions ++ str " GROUP BY " ++
          join (str ", ") groupBy ++ str " ORDER BY metric DESC LIMIT ?"),
        builder.bindings.filterMap boundValue ++ [.int limit]⟩
      (builder.bindings ++ [.ofI64 limit]) ↔
      ∀ value ∈ builder.bindings, isBindable value = true := by
  have hgroup := isPlain_groupBy hvalid
  have hbound : builder.bindings.filterMap boundValue ++ [.int limit] =
      (builder.bindings ++ [Json.Value.ofI64 limit]).filterMap boundValue := by
    rw [List.filterMap_append, List.filterMap_cons_some (boundValue_ofI64 limit),
      List.filterMap_nil]
  have hselect : IsPlain (str "SELECT ") := by decide
  have hcomma : IsPlain (str ", ") := by decide
  have hfrom : IsPlain (str " FROM query_log ") := by decide
  have hgroupBy : IsPlain (str " GROUP BY ") := by decide
  have hhead := (((hselect.append hgroup).append hcomma).append (isPlain_metricSql metric)).append
    hfrom
  have htail := hgroupBy.append hgroup
  rw [hbound, List.append_assoc _ (str " GROUP BY "), List.append_assoc _ (str " GROUP BY " ++ _)]
  refine wellFormed_numbered_where_iff haligned (by decide) hhead
    (isFragment_append htail.1 (by decide +kernel)) ?_ ?_
  · rw [List.count_append, htail.count]
    rfl
  · rw [List.forall_mem_singleton]
    exact isBindable_ofI64 limit

end Statements

/-! ## The requests -/

section Requests

variable {clock : Clock} {countFails : Bool} {builder : QueryBuilder} {sent : List Statement}

theorem allWellFormed_cons {statement : Statement} {values : List Json.Value}
    {rest : List (List Json.Value)} :
    AllWellFormed (statement :: sent) (values :: rest) ↔
      WellFormed statement values ∧ AllWellFormed sent rest := by
  simp only [AllWellFormed, List.zip_cons_cons, List.forall_mem_cons]

theorem allWellFormed_nil (values : List (List Json.Value)) : AllWellFormed [] values := by
  simp [AllWellFormed]

theorem allWellFormed_list_iff {params : AdvancedQueryParams}
    (hbuilder : addFilters clock params.filters = .ok builder)
    (hsent : list clock countFails params = .ok sent) :
    AllWellFormed sent [builder.bindings,
        builder.bindings ++ [.ofI64 (clampLimit params.limit), .ofI64 params.offset]] ↔
      ∀ filter ∈ params.filters, filter.HasNoValue := by
  have haligned := aligned_addFilters hbuilder
  have hcount := wellFormed_count_iff params.logic haligned
  have hbuild := wellFormed_build_iff params.logic (clampLimit params.limit) params.offset haligned
  rw [list, hbuilder] at hsent
  simp only [QueryBuilder.build] at hbuild
  cases hsent
  rw [← haligned.noValue]
  cases countFails with
  | true =>
    exact allWellFormed_cons.trans ((and_iff_left (allWellFormed_nil _)).trans hcount)
  | false =>
    refine allWellFormed_cons.trans ((and_congr_left fun _ => hcount).trans
      (and_iff_left_of_imp fun hnil => ?_))
    -- without values there is nothing to bind
    refine allWellFormed_cons.mpr ⟨hbuild.mpr fun value hvalue => ?_, allWellFormed_nil _⟩
    rw [hnil] at hvalue
    cases hvalue

theorem allWellFormed_aggregate_iff {params : AggregateParams}
    (hbuilder : addFilters clock params.filters = .ok builder)
    (hsent : aggregate clock params = .ok sent) :
    AllWellFormed sent ((Request.aggregate params).values builder.bindings) ↔
      (Request.aggregate params).Bindable := by
  have haligned := aligned_addFilters hbuilder
  rw [aggregate, hbuilder] at hsent
  simp only [Request.values, Request.Bindable]
  change (if params.groupBy = [] then _ else _) = _ at hsent
  split_ifs at hsent ⊢ with hgroup
  · cases hsent
    rw [← haligned.noValue, ← wellFormed_total_iff params.metric haligned]
    exact allWellFormed_cons.trans (and_iff_left (allWellFormed_nil _))
  · split at hsent
    · cases hsent
    · rename_i hvalid
      cases hsent
      rw [← haligned.bindable, ← wellFormed_groups_iff params.metric params.limit hvalid haligned]
      exact allWellFormed_cons.trans (and_iff_left (allWellFormed_nil _))

end Requests

/-- **When the statements of a request are well formed.**  The lists, and the aggregation
without groups, need filters without values; the aggregation with groups needs strings and
integers where a filter takes its values from the request as they are. -/
theorem allWellFormed_iff (clock : Clock) (countFails : Bool) (request : Request)
    {builder : QueryBuilder} (hbuilder : addFilters clock request.filters = .ok builder)
    {sent : List Statement} (hsent : request.sent clock countFails = .ok sent) :
    AllWellFormed sent (request.values builder.bindings) ↔ request.Bindable := by
  cases request with
  | listAdvanced params => exact allWellFormed_list_iff hbuilder hsent
  | listAdvancedPost body => exact allWellFormed_list_iff hbuilder hsent
  | aggregate params => exact allWellFormed_aggregate_iff hbuilder hsent

/-! ### Requests with filters -/

section Filters

def noonClock : Clock := ⟨str "2026-02-01T12:00:00+00:00", fun _ _ => none⟩

def blockedRows : Request :=
  .listAdvancedPost { filters := [⟨str "status", str "eq", .string (str "blocked")⟩] }

/-- The types of the rows whose status is `true`. -/
def trueTypes : Request :=
  .aggregate { filters := [⟨str "status", str "eq", .bool true⟩], groupBy := [str "qtype"] }

def slowTypes : Request :=
  .aggregate
    { filters := [⟨str "status", str "eq", .string (str "blocked")⟩,
        ⟨str "elapsed_ms", str "gt", .number (str "10")⟩]
      groupBy := [str "qtype"] }

/-- The statement that counts blocked rows has a question mark, and a truth value is not bound
where rows are grouped. -/
theorem not_allWellFormed_blockedRows :
    (∃ builder sent, addFilters noonClock blockedRows.filters = .ok builder ∧
        blockedRows.sent noonClock false = .ok sent ∧
        ¬ AllWellFormed sent (blockedRows.values builder.bindings)) ∧
      ∃ builder sent, addFilters noonClock trueTypes.filters = .ok builder ∧
        trueTypes.sent noonClock false = .ok sent ∧
        ¬ AllWellFormed sent (trueTypes.values builder.bindings) := by
  refine ⟨⟨_, _, rfl, rfl, fun hwell => ?_⟩, ⟨_, _, rfl, rfl, fun hwell => ?_⟩⟩
  · have hcount := (allWellFormed_cons.mp hwell).1
    exact absurd hcount.text.no_mark (by decide +kernel)
  · have hgroups := (allWellFormed_cons.mp hwell).1
    exact absurd hgroups.bound.length_eq (by decide +kernel)

theorem allWellFormed_slowTypes :
    ∃ builder sent, addFilters noonClock slowTypes.filters = .ok builder ∧
      slowTypes.sent noonClock false = .ok sent ∧
      AllWellFormed sent (slowTypes.values builder.bindings) := by
  refine ⟨_, _, rfl, rfl, (allWellFormed_iff noonClock false slowTypes rfl rfl).mpr ?_⟩
  refine List.forall_mem_cons.mpr ⟨fun kind hkind => ?_, List.forall_mem_singleton.mpr
    fun kind hkind => ?_⟩
  · obtain rfl : FilterKind.isEq .status = kind := Option.some.inj hkind
    rfl
  · obtain rfl : FilterKind.elapsedMs .gt = kind := Option.some.inj hkind
    trivial

end Filters

end Api.QueryLogAdvanced

end RustDns
