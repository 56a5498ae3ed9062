import RustDns.OffsetPaging
import RustDns.Api.QueryLog

/-!
# Pages of the query log by offset

Without a cursor, `query_log::list` sorts the rows by their time, skips as many as the offset says
and returns up to the limit, with the number of all rows.  The limit is cut down to 1000.  Rows of
one batch often have the same time, and the statement leaves their order open.

`readsAll_iff` says when a client that adds the limit to the offset until it has reached the total
gets every row exactly once, whatever order the database chooses in each call.
-/

namespace RustDns.Api.QueryLog

open Text OffsetPaging

/-! ## The handler -/

structure OffsetPage where
  data : List QueryLogRow
  total : ℕ
  returned : ℕ
  offset : ℤ
  limit : ℤ

def offsetBindings (params : QueryLogParams) (limit offset : ℤ) : List Param :=
  paramBindings params ++ [.int limit, .int offset]

variable {Key : Type*} [LinearOrder Key] (timeKey : Str → Key)

/-- The key of `ORDER BY time`: the place of a time in the order of the database. -/
def orderKey (row : QueryLogRow) : Key := timeKey row.time

variable {timeKey}

/-- `query_log::list` without a cursor, with the order that the database chooses.  It refuses a
negative offset. -/
def listOffset (ago : Str → Str) (sorting : Sorting (orderKey timeKey)) (params : QueryLogParams)
    (offset : ℤ) (table : Table QueryLogRow.id) : Except AppError OffsetPage :=
  if validStatus params then
    let limit := clampLimit params.limit
    let state := whereOffset ago params
    let bound := offsetBindings params limit offset
    let selected := table.rows.filter fun row => state.conditions.all (·.holds bound row)
    match intParam bound state.paramIdx, intParam bound (state.paramIdx + 1) with
    | some boundLimit, some boundOffset =>
      if boundOffset < 0 then .error .database
      else
        let rows := slice sorting boundLimit.toNat boundOffset.toNat selected
        let total := table.rows.countP fun row =>
          state.conditions.all (·.holds (paramBindings params) row)
        .ok { data := rows, total, returned := rows.length, offset, limit }
    | _, _ => .error .database
  else .error (.validation (str "status must be either 'blocked' or 'allowed'"))

def OffsetPage.page (answer : OffsetPage) : Page QueryLogRow := ⟨answer.data, answer.total⟩

def fetchOffsets (ago : ℕ → Str → Str) (sortings : ℕ → Sorting (orderKey timeKey))
    (params : QueryLogParams) (table : Table QueryLogRow.id) (fuel : ℕ) :
    Option (Except AppError (List QueryLogRow)) :=
  OffsetPaging.fetchAll
    (fun call offset =>
      (listOffset (ago call) (sortings call) params offset table).map OffsetPage.page)
    params.limit fuel 0 0

def ReadsAll (timeKey : Str → Key) (ago : ℕ → Str → Str) (params : QueryLogParams)
    (table : Table QueryLogRow.id) : Prop :=
  ∀ sortings : ℕ → Sorting (orderKey timeKey), ∃ fuel rows,
    fetchOffsets ago sortings params table fuel = some (.ok rows) ∧
      rows.Perm (table.rows.filter (wanted params))

/-! ## The pages of the client -/

section Pages

variable {params : QueryLogParams} (table : Table QueryLogRow.id)

theorem listOffset_eq (ago : Str → Str) (sorting : Sorting (orderKey timeKey))
    (hstatus : validStatus params = true) (htime : params.timeRange = none) (offset : ℤ) :
    (listOffset ago sorting params offset table).map OffsetPage.page =
      if offset < 0 then .error .database
      else .ok
        ⟨slice sorting (clampLimit params.limit).toNat offset.toNat
          (table.rows.filter (wanted params)), (table.rows.filter (wanted params)).length⟩ := by
  have hselects := selects_whereOffset ago htime
  have hrows : ∀ after, (table.rows.filter fun row =>
      (whereOffset ago params).conditions.all (·.holds (paramBindings params ++ after) row)) =
        table.rows.filter (wanted params) := by
    intro after
    simp only [hselects.holds after]
  have hcount : (table.rows.countP fun row =>
      (whereOffset ago params).conditions.all (·.holds (paramBindings params) row)) =
        (table.rows.filter (wanted params)).length := by
    have hall := hrows []
    rw [List.append_nil] at hall
    rw [List.countP_eq_length_filter, hall]
  have hlimit : intParam (offsetBindings params (clampLimit params.limit) offset)
      (whereOffset ago params).paramIdx = some (clampLimit params.limit) := by
    rw [hselects.paramIdx]
    exact intParam_append _ [.int offset] _
  have hoffset : intParam (offsetBindings params (clampLimit params.limit) offset)
      ((whereOffset ago params).paramIdx + 1) = some offset := by
    rw [hselects.paramIdx]
    simp [intParam, offsetBindings]
  simp only [listOffset, hstatus, if_true, hlimit, hoffset, hcount]
  rw [offsetBindings, hrows]
  split_ifs <;> rfl

variable (ago : ℕ → Str → Str)

/-- With a positive limit the client gets all pages, as wide as the limit that the server uses. -/
theorem fetchOffsets_eq (sortings : ℕ → Sorting (orderKey timeKey))
    (hstatus : validStatus params = true) (htime : params.timeRange = none)
    (hlimit : 1 ≤ params.limit) :
    fetchOffsets ago sortings params table
        (pageCount (table.rows.filter (wanted params)).length params.limit.toNat) =
      some (.ok (pages sortings (clampLimit params.limit).toNat params.limit.toNat
        (table.rows.filter (wanted params)))) := by
  have hstep : ((params.limit.toNat : ℕ) : ℤ) = params.limit := Int.toNat_of_nonneg (by omega)
  unfold fetchOffsets
  rw [← hstep, Int.toNat_natCast]
  refine OffsetPaging.fetchAll_eq (by omega) fun call offset => ?_
  rw [listOffset_eq table (ago call) (sortings call) hstatus htime, hstep,
    if_neg (by omega : ¬ (offset : ℤ) < 0), Int.toNat_natCast]

theorem readsAll_iff_of_pos (hstatus : validStatus params = true)
    (htime : params.timeRange = none) (hlimit : 1 ≤ params.limit) :
    ReadsAll timeKey ago params table ↔
      (params.limit ≤ 1000 ∨ (table.rows.filter (wanted params)).length ≤ 1000) ∧
        ∀ call, ¬ Splits (orderKey timeKey) (table.rows.filter (wanted params))
          (call * params.limit.toNat) := by
  have hpages : ReadsAll timeKey ago params table ↔ ∀ sortings : ℕ → Sorting (orderKey timeKey),
        (pages sortings (clampLimit params.limit).toNat params.limit.toNat
          (table.rows.filter (wanted params))).Perm (table.rows.filter (wanted params)) := by
    refine forall_congr' fun sortings => ⟨?_, fun hperm => ?_⟩
    · rintro ⟨fuel, rows, hfetch, hperm⟩
      have hrows := fetchAll_unique hfetch (fetchOffsets_eq table ago sortings hstatus htime hlimit)
      rwa [← Except.ok.inj hrows]
    · exact ⟨_, _, fetchOffsets_eq table ago sortings hstatus htime hlimit, hperm⟩
  have hnodup : (table.rows.filter (wanted params)).Nodup :=
    (List.Nodup.of_map _ table.nodup).filter _
  have hwidth : (clampLimit params.limit).toNat = min params.limit.toNat 1000 := by
    unfold clampLimit
    omega
  rw [hpages, forall_perm_pages_iff hnodup (by omega) (by omega)]
  refine and_congr_left fun _ => ?_
  omega

/-- With another limit the client reaches the end only if there is nothing to read. -/
theorem readsAll_iff_of_not_pos (hstatus : validStatus params = true)
    (htime : params.timeRange = none) (hlimit : ¬ 1 ≤ params.limit) :
    ReadsAll timeKey ago params table ↔ table.rows.filter (wanted params) = [] := by
  have hfetch : ∀ (sortings : ℕ → Sorting (orderKey timeKey)) (call : ℕ) (offset : ℤ) page,
      (listOffset (ago call) (sortings call) params offset table).map OffsetPage.page = .ok page →
        page.total = (table.rows.filter (wanted params)).length := by
    intro sortings call offset page hpage
    rw [listOffset_eq table (ago call) (sortings call) hstatus htime] at hpage
    split_ifs at hpage
    rw [← Except.ok.inj hpage]
  constructor
  · intro hreads
    by_contra hrows
    obtain ⟨fuel, rows, hall, -⟩ := hreads fun _ => .stable _
    exact fetchAll_ne_ok (by omega) (List.length_pos_iff.mpr hrows)
      (hfetch fun _ => .stable _) fuel 0 le_rfl rows hall
  · intro hrows sortings
    have hempty : (sortings 0).sort [] = [] := List.perm_nil.mp ((sortings 0).perm [])
    refine ⟨1, [], ?_, hrows ▸ List.Perm.refl _⟩
    rw [fetchOffsets, OffsetPaging.fetchAll, listOffset_eq table (ago 0) (sortings 0) hstatus htime,
      hrows]
    simp [slice, hempty]

/-- A client gets every row exactly once, whatever the orders are, if and only if the status can be
asked for and there is nothing to read, or its limit is one that the server uses too or is not
needed, and no page ends between rows of the same time. -/
theorem readsAll_iff (timeKey : Str → Key) (ago : ℕ → Str → Str)
    (htime : params.timeRange = none) :
    ReadsAll timeKey ago params table ↔ validStatus params = true ∧
      (table.rows.filter (wanted params) = [] ∨
        1 ≤ params.limit ∧
        (params.limit ≤ 1000 ∨ (table.rows.filter (wanted params)).length ≤ 1000) ∧
        ∀ call, ¬ Splits (orderKey timeKey) (table.rows.filter (wanted params))
          (call * params.limit.toNat)) := by
  by_cases hstatus : validStatus params = true
  · rw [and_iff_right hstatus]
    by_cases hlimit : 1 ≤ params.limit
    · rw [readsAll_iff_of_pos table ago hstatus htime hlimit, and_iff_right hlimit]
      refine (or_iff_right_of_imp fun hrows => ?_).symm
      rw [hrows]
      exact ⟨.inr (Nat.zero_le _), fun call hsplits =>
        absurd hsplits.pos_lt_length.2 (Nat.not_lt_zero _)⟩
    · rw [readsAll_iff_of_not_pos table ago hstatus htime hlimit, or_iff_left fun h => hlimit h.1]
  · refine iff_of_false (fun hreads => ?_) fun hboth => hstatus hboth.1
    -- a status that cannot be asked for is refused
    obtain ⟨fuel, rows, hall, -⟩ := hreads fun _ => .stable _
    cases fuel with
    | zero => cases hall
    | succ fuel =>
      rw [fetchOffsets, OffsetPaging.fetchAll, listOffset, if_neg hstatus] at hall
      cases hall

end Pages

/-! ### Rows of the same time -/

section Example

def queryAt (id : ℤ) (time : Str) : QueryLogRow where
  id := id
  time := time
  clientIp := str "10.0.0.2"
  clientName := none
  question := str "shop.com"
  qtype := str "A"
  answer := none
  status := str "allowed"
  reason := none
  elapsedNs := none
  upstreamNs := none
  upstream := none

def tiedLog : Table QueryLogRow.id where
  rows := [queryAt 1 (str "2026-01-01 00:00:00+00"), queryAt 2 (str "2026-01-01 00:00:00+00")]
  nodup := List.nodup_cons.mpr ⟨by simp [queryAt], List.nodup_singleton _⟩

def distinctLog : Table QueryLogRow.id where
  rows := [queryAt 1 (str "2026-01-01 00:00:00+00"), queryAt 2 (str "2026-01-01 00:00:01+00")]
  nodup := List.nodup_cons.mpr ⟨by simp [queryAt], List.nodup_singleton _⟩

def singlePages : QueryLogParams where
  limit := 1

def turningSortings (call : ℕ) : Sorting (orderKey (id : Str → Str)) :=
  if call = 0 then .stable _ else .reversed _

/-- The client gets the first row twice and the second one not at all. -/
theorem not_readsAll_tiedLog :
    fetchOffsets (fun _ _ => []) turningSortings singlePages tiedLog 2 =
        some (.ok [queryAt 1 (str "2026-01-01 00:00:00+00"),
          queryAt 1 (str "2026-01-01 00:00:00+00")]) ∧
      ¬ ReadsAll (id : Str → Str) (fun _ _ => []) singlePages tiedLog := by
  have htwice : fetchOffsets (fun _ _ => []) turningSortings singlePages tiedLog 2 =
      some (.ok [queryAt 1 (str "2026-01-01 00:00:00+00"),
        queryAt 1 (str "2026-01-01 00:00:00+00")]) := by
    decide +kernel
  refine ⟨htwice, fun hreads => ?_⟩
  obtain ⟨fuel, rows, hfetch, hperm⟩ := hreads turningSortings
  have hrows := Except.ok.inj (fetchAll_unique hfetch htwice)
  subst hrows
  revert hperm
  decide +kernel

theorem readsAll_distinctLog :
    ReadsAll (id : Str → Str) (fun _ _ => []) singlePages distinctLog := by
  have hkeys : ((distinctLog.rows.filter (wanted singlePages)).map
      (orderKey (id : Str → Str))).Nodup := by
    decide +kernel
  exact (readsAll_iff distinctLog id (fun _ _ => []) rfl).mpr
    ⟨rfl, .inr ⟨by decide, .inl (by decide), fun _ => not_splits_of_nodup hkeys _⟩⟩

end Example

end RustDns.Api.QueryLog
