import RustDns.Keyset
import RustDns.Api.State

/-!
# Pages of the query log

With a cursor, `query_log::list` returns the rows of the query log below it, with the highest
ids first, and the cursor of the next page if there is one.  A client that follows the cursors
sees every row that is there all the time exactly once, although rows come in at the top and are
deleted anywhere while it reads (`fetchAll_complete`).  The log also has rows with the status
`cached` or `error`, but a request for them is refused (`fetchAll_cachedPages`).

The conditions refer to their values by position, so what the statement selects depends on the
order in which the values are bound; `selects_whereOffset` says that it is what the parameters ask
for.
-/

namespace RustDns.Api.QueryLog

open Text

/-- A row of `query_log`. -/
structure QueryLogRow where
  id : ℤ
  time : Str
  clientIp : Str
  clientName : Option Str
  question : Str
  qtype : Str
  answer : Option Str
  status : Str
  reason : Option Str
  elapsedNs : Option ℤ
  upstreamNs : Option ℤ
  upstream : Option Str
deriving DecidableEq

/-- `QueryLogParams`, without the cursor, and without the offset of the other mode. -/
structure QueryLogParams where
  limit : ℤ := 100
  status : Option Str := none
  client : Option Str := none
  domain : Option Str := none
  upstream : Option Str := none
  qtype : Option Str := none
  timeRange : Option Str := none

/-- `text LIKE pattern`. -/
def like : (pattern text : Str) → Bool
  | [], text => text.isEmpty
  | '%' :: pattern, text => text.tails.any fun rest => like pattern rest
  | '_' :: pattern, _ :: rest => like pattern rest
  | ['\\'], _ => false
  | '\\' :: c :: pattern, d :: rest => c = d && like pattern rest
  | c :: pattern, d :: rest => c = d && like pattern rest
  | _ :: _, [] => false

/-- `%…%`. -/
def containing (part : Str) : Str := str "%" ++ part ++ str "%"

/-! ## The statement -/

inductive Param where
  | text (text : Str)
  | int (n : ℤ)

/-- A condition, with the position of its value.  The cutoff of a time range is a literal. -/
inductive Condition where
  | status (index : ℕ)
  | clientIp (index : ℕ)
  | question (index : ℕ)
  | upstream (index : ℕ)
  | qtype (index : ℕ)
  | timeFrom (cutoff : Str)
  | idBelow (index : ℕ)

/-- The text that is bound to `$index`. -/
def textParam (bound : List Param) (index : ℕ) : Option Str :=
  match bound[index - 1]? with
  | some (.text text) => some text
  | _ => none

/-- The number that is bound to `$index`. -/
def intParam (bound : List Param) (index : ℕ) : Option ℤ :=
  match bound[index - 1]? with
  | some (.int n) => some n
  | _ => none

/-- The condition holds of a row.  Nothing is equal to `NULL`. -/
def Condition.holds (bound : List Param) (row : QueryLogRow) : Condition → Bool
  | .status index => (textParam bound index).any (· = row.status)
  | .clientIp index => (textParam bound index).any (like · row.clientIp)
  | .question index => (textParam bound index).any (like · row.question)
  | .upstream index => (textParam bound index).any (some · = row.upstream)
  | .qtype index => (textParam bound index).any (· = row.qtype)
  | .timeFrom cutoff => cutoff ≤ row.time
  | .idBelow index => (intParam bound index).any (row.id < ·)

/-- The conditions so far, and `param_idx`. -/
structure WhereState where
  conditions : List Condition
  paramIdx : ℕ

def WhereState.pushIf (given : Bool) (condition : ℕ → Condition) (state : WhereState) :
    WhereState :=
  if given then ⟨state.conditions ++ [condition state.paramIdx], state.paramIdx + 1⟩ else state

/-- The cutoff of a time range, with `Utc::now()` minus the range as text. -/
def cutoff (ago : Str → Str) (timeRange : Str) : Option Str :=
  if timeRange ∈ [str "1h", str "6h", str "24h", str "7d"] then some (ago timeRange) else none

/-- The conditions without a cursor. -/
def whereOffset (ago : Str → Str) (params : QueryLogParams) : WhereState :=
  let state : WhereState := ⟨[], 1⟩
  let state := state.pushIf params.status.isSome .status
  let state := state.pushIf params.client.isSome .clientIp
  let state := state.pushIf params.domain.isSome .question
  let state := state.pushIf params.upstream.isSome .upstream
  let state := state.pushIf params.qtype.isSome .qtype
  match params.timeRange.bind (cutoff ago) with
  | some cutoff => { state with conditions := state.conditions ++ [.timeFrom cutoff] }
  | none => state

/-- The conditions with a cursor. -/
def whereState (ago : Str → Str) (params : QueryLogParams) : WhereState :=
  (whereOffset ago params).pushIf true .idBelow

/-- The values of the conditions without the cursor, in the order in which they are bound. -/
def paramBindings (params : QueryLogParams) : List Param :=
  params.status.toList.map .text ++ params.client.toList.map (.text ∘ containing) ++
    params.domain.toList.map (.text ∘ containing) ++ params.upstream.toList.map .text ++
    params.qtype.toList.map .text

/-- The values with a cursor, and the limit behind them. -/
def bindings (params : QueryLogParams) (cursor fetchLimit : ℤ) : List Param :=
  paramBindings params ++ [.int cursor, .int fetchLimit]

/-- `limit.clamp(1, 1000)`. -/
def clampLimit (limit : ℤ) : ℤ := max 1 (min limit 1000)

structure CursorPage where
  data : List QueryLogRow
  hasMore : Bool
  nextCursor : Option ℤ
  returned : ℕ

def validStatus (params : QueryLogParams) : Bool :=
  params.status.all ([str "blocked", str "allowed"].contains ·)

/-- `query_log::list` with a cursor. -/
def list (ago : Str → Str) (params : QueryLogParams) (cursor : ℤ)
    (table : Table QueryLogRow.id) : Except AppError CursorPage :=
  if validStatus params then
    let limit := clampLimit params.limit
    let state := whereState ago params
    let bound := bindings params cursor (limit + 1)
    let selected := table.rows.filter fun row => state.conditions.all (·.holds bound row)
    let rows := (Keyset.descending QueryLogRow.id selected).take
      ((intParam bound state.paramIdx).getD 0).toNat
    let hasMore : Bool := limit < rows.length
    let rows := if hasMore then rows.take limit.toNat else rows
    .ok
      { data := rows
        hasMore
        nextCursor := if hasMore then rows.getLast?.map QueryLogRow.id else none
        returned := rows.length }
  else .error (.validation (str "status must be either 'blocked' or 'allowed'"))

/-- A client follows the cursors until there is none: how many calls it made, and all rows.
The table may change from call to call. -/
def fetchAll (ago : ℕ → Str → Str) (params : QueryLogParams)
    (tables : ℕ → Table QueryLogRow.id) :
    (fuel call : ℕ) → ℤ → Option (Except AppError (ℕ × List QueryLogRow))
  | 0, _, _ => none
  | fuel + 1, call, cursor =>
    match list (ago call) params cursor (tables call) with
    | .error error => some (.error error)
    | .ok page =>
      match page.nextCursor with
      | none => some (.ok (1, page.data))
      | some next =>
        (fetchAll ago params tables fuel (call + 1) next).map
          (Except.map fun rest => (rest.1 + 1, page.data ++ rest.2))

/-! ## What the statement selects -/

/-- The rows that the parameters ask for. -/
def wanted (params : QueryLogParams) (row : QueryLogRow) : Bool :=
  params.status.all (· = row.status) &&
    params.client.all (fun part => like (containing part) row.clientIp) &&
    params.domain.all (fun part => like (containing part) row.question) &&
    params.upstream.all (some · = row.upstream) && params.qtype.all (· = row.qtype)

section Statement

theorem textParam_append (before after : List Param) (text : Str) :
    textParam (before ++ .text text :: after) (before.length + 1) = some text := by
  simp [textParam]

theorem intParam_append (before after : List Param) (n : ℤ) :
    intParam (before ++ .int n :: after) (before.length + 1) = some n := by
  simp [intParam]

/-- The conditions so far select these rows, whatever is bound after their values. -/
structure Selects (state : WhereState) (bound : List Param) (select : QueryLogRow → Bool) :
    Prop where
  paramIdx : state.paramIdx = bound.length + 1
  holds : ∀ after row, state.conditions.all (·.holds (bound ++ after) row) = select row

theorem Selects.pushIf {state : WhereState} {bound : List Param} {select : QueryLogRow → Bool}
    (hselects : Selects state bound select) {α : Type} (field : Option α)
    (condition : ℕ → Condition) (param : α → Param) (test : α → QueryLogRow → Bool)
    (hcondition : ∀ value row before after,
      (condition (List.length before + 1)).holds (before ++ param value :: after) row =
        test value row) :
    Selects (state.pushIf field.isSome condition) (bound ++ field.toList.map param)
      fun row => select row && field.all (test · row) := by
  cases field with
  | none =>
    refine ⟨by simpa [WhereState.pushIf] using hselects.paramIdx, fun after row => ?_⟩
    simpa [WhereState.pushIf] using hselects.holds after row
  | some value =>
    refine ⟨by simp [WhereState.pushIf, hselects.paramIdx], fun after row => ?_⟩
    have hbefore := hselects.holds (param value :: after) row
    have hlast := hcondition value row bound after
    simp [WhereState.pushIf, hselects.paramIdx, hbefore, hlast]

variable {params : QueryLogParams} (ago : Str → Str)

theorem selects_whereOffset (htime : params.timeRange = none) :
    Selects (whereOffset ago params) (paramBindings params) (wanted params) := by
  have hempty : Selects ⟨[], 1⟩ [] fun _ => true := ⟨rfl, fun _ _ => rfl⟩
  have hstatus := hempty.pushIf params.status .status .text
    (fun status row => status = row.status)
    fun value row before after => by simp [Condition.holds, textParam_append]
  have hclient := hstatus.pushIf params.client .clientIp (.text ∘ containing)
    (fun part row => like (containing part) row.clientIp)
    fun value row before after => by simp [Condition.holds, textParam_append]
  have hdomain := hclient.pushIf params.domain .question (.text ∘ containing)
    (fun part row => like (containing part) row.question)
    fun value row before after => by simp [Condition.holds, textParam_append]
  have hupstream := hdomain.pushIf params.upstream .upstream .text
    (fun upstream row => some upstream = row.upstream)
    fun value row before after => by simp [Condition.holds, textParam_append]
  have hqtype := hupstream.pushIf params.qtype .qtype .text (fun qtype row => qtype = row.qtype)
    fun value row before after => by simp [Condition.holds, textParam_append]
  have hstate : whereOffset ago params = (((((⟨[], 1⟩ : WhereState).pushIf
      params.status.isSome .status).pushIf params.client.isSome .clientIp).pushIf
      params.domain.isSome .question).pushIf params.upstream.isSome .upstream).pushIf
      params.qtype.isSome .qtype := by
    simp only [whereOffset, htime, Option.bind_none]
  rw [hstate]
  exact hqtype

theorem selects_whereState (htime : params.timeRange = none) (cursor fetchLimit : ℤ) :
    (∀ row, (whereState ago params).conditions.all
        (·.holds (bindings params cursor fetchLimit) row) =
      (wanted params row && decide (row.id < cursor))) ∧
      intParam (bindings params cursor fetchLimit) (whereState ago params).paramIdx =
        some fetchLimit := by
  have hcursor := (selects_whereOffset ago htime).pushIf (some cursor) .idBelow .int
    (fun cursor row => row.id < cursor)
    fun value row before after => by simp [Condition.holds, intParam_append]
  have hbound : bindings params cursor fetchLimit =
      (paramBindings params ++ (some cursor).toList.map .int) ++ [.int fetchLimit] := by
    simp [bindings]
  rw [whereState, hbound]
  refine ⟨fun row => (hcursor.holds [.int fetchLimit] row).trans ?_, ?_⟩
  · simp
  · have hindex := hcursor.paramIdx
    rw [Option.isSome_some] at hindex
    rw [hindex]
    exact intParam_append _ [] fetchLimit

end Statement

/-! ## Pages -/

section Pages

variable {params : QueryLogParams}

theorem toNat_clampLimit_pos (limit : ℤ) : 0 < (clampLimit limit).toNat := by
  unfold clampLimit
  omega

/-- With a status that can be asked for, `list` returns a page of the rows that are wanted. -/
theorem list_eq (ago : Str → Str) (hstatus : validStatus params = true)
    (htime : params.timeRange = none) (cursor : ℤ) (table : Table QueryLogRow.id) :
    ∃ hasMore returned, list ago params cursor table =
      let page := Keyset.page QueryLogRow.id (clampLimit params.limit).toNat
        (Keyset.below QueryLogRow.id (wanted params) table.rows cursor)
      .ok ⟨page.rows, hasMore, page.next, returned⟩ := by
  obtain ⟨hholds, hlimit⟩ := selects_whereState ago htime cursor (clampLimit params.limit + 1)
  have hpos : 1 ≤ clampLimit params.limit := le_max_left _ _
  have hfetch : (clampLimit params.limit + 1).toNat = (clampLimit params.limit).toNat + 1 := by
    omega
  simp only [list, hstatus, if_true, hholds, hlimit, Option.getD_some, hfetch, Keyset.page,
    Keyset.below]
  obtain ⟨fetched, hfetched⟩ : ∃ fetched, fetched = (Keyset.descending QueryLogRow.id
      (table.rows.filter fun row => wanted params row && decide (row.id < cursor))).take
        ((clampLimit params.limit).toNat + 1) := ⟨_, rfl⟩
  simp only [← hfetched]
  by_cases hmore : clampLimit params.limit < fetched.length
  · have hmore' : (clampLimit params.limit).toNat < fetched.length := by omega
    exact ⟨_, _, by simp only [decide_eq_true hmore, if_true, if_pos hmore']; rfl⟩
  · have hmore' : ¬ (clampLimit params.limit).toNat < fetched.length := by omega
    exact ⟨_, _, by simp only [decide_eq_false hmore, if_neg hmore']; rfl⟩

theorem fetchAll_eq (ago : ℕ → Str → Str) (hstatus : validStatus params = true)
    (htime : params.timeRange = none) (tables : ℕ → Table QueryLogRow.id) (fuel call : ℕ)
    (cursor : ℤ) :
    fetchAll ago params tables fuel call cursor =
      (Keyset.fetchAll (Keyset.fetch QueryLogRow.id (clampLimit params.limit).toNat
        (wanted params) fun call => (tables call).rows) fuel call cursor).map .ok := by
  induction fuel generalizing call cursor with
  | zero => rfl
  | succ fuel ih =>
    obtain ⟨hasMore, returned, hlist⟩ := list_eq (ago call) hstatus htime cursor (tables call)
    simp only [fetchAll, hlist, Keyset.fetchAll, Keyset.fetch]
    cases (Keyset.page QueryLogRow.id (clampLimit params.limit).toNat
      (Keyset.below QueryLogRow.id (wanted params) (tables call).rows cursor)).next with
    | none => rfl
    | some next =>
      simp only [ih, Option.map_map]
      rfl

/-- What following the cursors from `start` on has to give, with so many calls: the rows come with
falling ids, are rows that were asked for, and a row that is there at every call comes once. -/
structure FollowsAll (params : QueryLogParams) (tables : ℕ → Table QueryLogRow.id) (start : ℤ)
    (calls : ℕ) (rows : List QueryLogRow) : Prop where
  decreasing : rows.Pairwise fun row other => other.id < row.id
  sound : ∀ row ∈ rows, wanted params row = true ∧ row.id < start ∧
    ∃ call < calls, row ∈ (tables call).rows
  once : ∀ row, (∀ call < calls, row ∈ (tables call).rows) → wanted params row = true →
    row.id < start → rows.count row = 1

/-- **Following the cursors.**  If no status is asked for, or one of the two that can be, and only
rows with ids above the first cursor come in between the calls, whatever is deleted, then the client
comes to an end, after one call more than there were rows below the cursor at most, and has seen
every row that was there all the time once, with falling ids. -/
theorem fetchAll_complete (ago : ℕ → Str → Str) (params : QueryLogParams)
    (hstatus : ∀ status ∈ params.status, status = str "blocked" ∨ status = str "allowed")
    (htime : params.timeRange = none) (tables : ℕ → Table QueryLogRow.id) (start : ℤ)
    (hinserted : ∀ call, ∀ row ∈ (tables (call + 1)).rows, row ∉ (tables call).rows →
      start < row.id) :
    ∃ calls rows, fetchAll ago params tables
        (((tables 0).rows.filter (·.id < start)).length + 1) 0 start = some (.ok (calls, rows)) ∧
      FollowsAll params tables start calls rows := by
  have hvalid : validStatus params = true := by
    unfold validStatus
    cases hgiven : params.status with
    | none => rfl
    | some status => simpa using hstatus status hgiven
  have hshrinks : ∀ call, ∀ row ∈ (tables (call + 1)).rows, row.id < start →
      row ∈ (tables call).rows := by
    intro call row hrow hlt
    by_contra hnew
    exact absurd (hinserted call row hrow hnew) (not_lt.mpr hlt.le)
  rw [fetchAll_eq ago hvalid htime]
  obtain ⟨calls, rows, hfetch, -, hcomplete⟩ :=
    Keyset.exists_fetchAll (toNat_clampLimit_pos params.limit)
      (fun call => (tables call).nodup) hshrinks le_rfl (Nat.lt_succ_self _)
  refine ⟨calls, rows, by rw [hfetch]; rfl, hcomplete.decreasing, ?_, ?_⟩
  · simpa using hcomplete.sound
  · intro row hrow hwanted hlt
    have hnodup : rows.Nodup := hcomplete.decreasing.imp fun hlt heq => by
      rw [heq] at hlt
      exact lt_irrefl _ hlt
    refine List.count_eq_one_of_mem hnodup (hcomplete.complete row ?_ hwanted hlt)
    simpa using hrow

end Pages

/-! ### A log that changes while it is read -/

section Change

def logRow (id : ℤ) (status : String) : QueryLogRow where
  id
  time := str "2026-02-01T12:00:00+00:00"
  clientIp := str "10.0.0.7"
  clientName := none
  question := str "ads.example.com"
  qtype := str "A"
  answer := none
  status := str status
  reason := none
  elapsedNs := some 1200
  upstreamNs := none
  upstream := none

/-- After the first call a row comes in at the top, and one at the border of the page is
deleted. -/
def changingLog (call : ℕ) : Table QueryLogRow.id :=
  if call = 0 then
    ⟨[logRow 1 "blocked", logRow 2 "allowed", logRow 3 "blocked", logRow 4 "blocked",
      logRow 5 "blocked"], by decide⟩
  else ⟨[logRow 1 "blocked", logRow 2 "allowed", logRow 3 "blocked", logRow 5 "blocked",
    logRow 7 "blocked"], by decide⟩

def blockedPages : QueryLogParams :=
  { limit := 2, status := some (str "blocked"), client := some (str "10.") }

theorem fetchAll_complete_changingLog :
    ∃ calls rows, fetchAll (fun _ _ => []) blockedPages changingLog
        (((changingLog 0).rows.filter (·.id < 6)).length + 1) 0 6 = some (.ok (calls, rows)) ∧
      FollowsAll blockedPages changingLog 6 calls rows := by
  refine fetchAll_complete (fun _ _ => []) blockedPages ?_ rfl changingLog 6 ?_
  · intro status hstatus
    exact Or.inl (Option.some.inj hstatus).symm
  have hfirst : ∀ row ∈ (changingLog 1).rows, row ∈ (changingLog 0).rows ∨ 6 < row.id := by
    decide
  intro call row hrow hnew
  cases call with
  | zero => exact (hfirst row hrow).resolve_left hnew
  | succ call => exact absurd hrow hnew

/-- A log with an answer from the cache. -/
def cachedLog : Table QueryLogRow.id := ⟨[logRow 1 "cached"], List.nodup_singleton _⟩

/-- The pages of the answers from the cache. -/
def cachedPages : QueryLogParams := { status := some (str "cached") }

/-- The row is asked for and never comes: with any number of calls the client gets an error. -/
theorem fetchAll_cachedPages :
    (∀ row ∈ cachedLog.rows, wanted cachedPages row = true ∧ row.id < 6) ∧
      ∀ fuel, fetchAll (fun _ _ => []) cachedPages (fun _ => cachedLog) (fuel + 1) 0 6 =
        some (.error (.validation (str "status must be either 'blocked' or 'allowed'"))) :=
  ⟨by decide +kernel, fun _ => rfl⟩

end Change

end RustDns.Api.QueryLog
