import RustDns.Keyset

/-!
# Paging by an offset

A long list of rows is read page by page: each call sorts the rows by a key, with the highest
first, skips as many rows as were read before and returns the next ones.  Rows with the same key
may come in another order in each call, so it matters whether a page ends between two such rows.

`forall_perm_pages_iff` says when every row is read exactly once, whatever the orders are: the
pages must be as wide as the steps of the offset, or all rows must be on the first one, and no page
may end between two rows with the same key.
-/

namespace OffsetPaging

variable {Row Key : Type*} [LinearOrder Key] {key : Row → Key}

/-! ## Orders -/

structure Sorting (key : Row → Key) where
  sort : List Row → List Row
  perm : ∀ rows, (sort rows).Perm rows
  sorted : ∀ rows, (sort rows).Pairwise fun row other => key other ≤ key row

def Sorting.stable (key : Row → Key) : Sorting key where
  sort := Keyset.descending key
  perm rows := List.perm_insertionSort _ rows
  sorted := Keyset.sorted_descending

def Sorting.reversed (key : Row → Key) : Sorting key where
  sort rows := (Sorting.stable key).sort rows.reverse
  perm rows := ((Sorting.stable key).perm rows.reverse).trans rows.reverse_perm
  sorted rows := (Sorting.stable key).sorted rows.reverse

def Sorting.set [DecidableEq Row] (sorting : Sorting key) (rows order : List Row)
    (hperm : order.Perm rows)
    (hsorted : order.Pairwise fun row other => key other ≤ key row) : Sorting key where
  sort list := if list = rows then order else sorting.sort list
  perm list := by
    split_ifs with hlist
    · rw [hlist]
      exact hperm
    · exact sorting.perm list
  sorted list := by
    split_ifs
    · exact hsorted
    · exact sorting.sorted list

section Cuts

variable (key) (rows : List Row)

def newer (row : Row) : ℕ := rows.countP fun other => key row < key other

def same (row : Row) : ℕ := rows.countP fun other => key other = key row

def Splits (position : ℕ) : Prop :=
  ∃ row ∈ rows, newer key rows row < position ∧ position < newer key rows row + same key rows row

end Cuts

variable {list rows : List Row} {condition : Row → Bool} {position step : ℕ}

theorem forall_not_of_pairwise {row : Row} (hlist : (row :: list).Pairwise fun row other =>
    condition other = true → condition row = true) (hrow : ¬ condition row = true) :
    ∀ other ∈ row :: list, ¬ condition other = true :=
  List.forall_mem_cons.mpr ⟨hrow, fun other hother hcondition =>
    hrow ((List.pairwise_cons.mp hlist).1 other hother hcondition)⟩

/-- If a condition can only go from true to false along a list, then it holds up to a position. -/
theorem iff_lt_countP
    (hlist : list.Pairwise fun row other => condition other = true → condition row = true)
    (hposition : position < list.length) :
    condition list[position] = true ↔ position < list.countP condition := by
  induction list generalizing position with
  | nil => exact absurd hposition (by simp)
  | cons row list ih =>
    by_cases hrow : condition row = true
    · rw [List.countP_cons_of_pos hrow]
      cases position with
      | zero => simp [hrow]
      | succ position =>
        rw [List.getElem_cons_succ, ih hlist.of_cons, Nat.add_lt_add_iff_right]
    · have hnone := forall_not_of_pairwise hlist hrow
      rw [List.countP_eq_zero.mpr hnone]
      simp [hnone _ (List.getElem_mem hposition)]

theorem take_countP
    (hlist : list.Pairwise fun row other => condition other = true → condition row = true) :
    list.take (list.countP condition) = list.filter condition := by
  induction list with
  | nil => rfl
  | cons row list ih =>
    by_cases hrow : condition row = true
    · rw [List.countP_cons_of_pos hrow, List.take_succ_cons, ih hlist.of_cons,
        List.filter_cons_of_pos hrow]
    · have hnone := forall_not_of_pairwise hlist hrow
      rw [List.countP_eq_zero.mpr hnone, List.filter_eq_nil_iff.mpr hnone, List.take_zero]

theorem countP_le_eq (rows : List Row) (row : Row) :
    rows.countP (fun other => key row ≤ key other) = newer key rows row + same key rows row := by
  unfold newer same
  induction rows with
  | nil => rfl
  | cons other rows ih =>
    rw [List.countP_cons, List.countP_cons, List.countP_cons, ih]
    rcases lt_trichotomy (key row) (key other) with hlt | heq | hgt
    · simp only [hlt, hlt.le, hlt.ne', decide_true, decide_false, if_true, Bool.false_eq_true,
        if_false]
      omega
    · simp only [heq, le_refl, lt_irrefl, decide_true, decide_false, if_true, Bool.false_eq_true,
        if_false]
      omega
    · simp only [hgt.not_ge, hgt.not_gt, hgt.ne, decide_false, Bool.false_eq_true, if_false,
        add_zero]

theorem Splits.pos_lt_length (hsplits : Splits key rows position) :
    0 < position ∧ position < rows.length := by
  obtain ⟨row, -, hnewer, hsame⟩ := hsplits
  have hlength : newer key rows row + same key rows row ≤ rows.length := by
    rw [← countP_le_eq]
    exact List.countP_le_length
  omega

theorem not_splits_of_nodup (hkeys : (rows.map key).Nodup) (position : ℕ) :
    ¬ Splits key rows position := by
  rintro ⟨row, -, hnewer, hsame⟩
  have hone : same key rows row ≤ 1 := by
    have hcount := List.nodup_iff_count_le_one.mp hkeys (key row)
    rwa [List.count, List.countP_map] at hcount
  omega

theorem exists_append_cons_cons (hposition : position + 1 < list.length) :
    ∃ front back, list = front ++ list[position] :: list[position + 1] :: back ∧
      front.length = position := by
  refine ⟨list.take position, list.drop (position + 2), ?_, by simp; omega⟩
  rw [← List.drop_eq_getElem_cons hposition, ← List.drop_eq_getElem_cons (by omega),
    List.take_append_drop]

section Sorted

variable {rows : List Row} (sorting : Sorting key)

theorem length_sort (rows : List Row) : (sorting.sort rows).length = rows.length :=
  (sorting.perm rows).length_eq

theorem falls_lt (row : Row) : (sorting.sort rows).Pairwise fun first second =>
    decide (key row < key second) = true → decide (key row < key first) = true :=
  (sorting.sorted rows).imp fun hle hlt => decide_eq_true ((of_decide_eq_true hlt).trans_le hle)

theorem falls_le (row : Row) : (sorting.sort rows).Pairwise fun first second =>
    decide (key row ≤ key second) = true → decide (key row ≤ key first) = true :=
  (sorting.sorted rows).imp fun hle hlt => decide_eq_true ((of_decide_eq_true hlt).trans hle)

variable {position : ℕ}

theorem key_lt_getElem_iff (row : Row) (hposition : position < (sorting.sort rows).length) :
    key row < key (sorting.sort rows)[position] ↔ position < newer key rows row := by
  have hcount := iff_lt_countP (falls_lt sorting row) hposition
  rwa [decide_eq_true_iff, (sorting.perm rows).countP_eq] at hcount

theorem key_le_getElem_iff (row : Row) (hposition : position < (sorting.sort rows).length) :
    key row ≤ key (sorting.sort rows)[position] ↔
      position < newer key rows row + same key rows row := by
  have hcount := iff_lt_countP (falls_le sorting row) hposition
  rwa [decide_eq_true_iff, (sorting.perm rows).countP_eq, countP_le_eq] at hcount

theorem take_newer (rows : List Row) (row : Row) :
    (sorting.sort rows).take (newer key rows row) =
      (sorting.sort rows).filter fun other => key row < key other := by
  rw [← take_countP (falls_lt sorting row), (sorting.perm rows).countP_eq]
  rfl

theorem perm_take (hsplits : ¬ Splits key rows position) (other : Sorting key) :
    ((sorting.sort rows).take position).Perm ((other.sort rows).take position) := by
  have hperm : (sorting.sort rows).Perm (other.sort rows) :=
    (sorting.perm rows).trans (other.perm rows).symm
  rcases lt_or_ge position (sorting.sort rows).length with hposition | hposition
  · -- the rows with the key of the next one begin there
    have hrow : (sorting.sort rows)[position] ∈ rows :=
      (sorting.perm rows).mem_iff.mp (List.getElem_mem hposition)
    have hbegin : newer key rows (sorting.sort rows)[position] = position := by
      have hfirst := (key_lt_getElem_iff sorting (sorting.sort rows)[position] hposition).not.mp
        (lt_irrefl _)
      have hlast := (key_le_getElem_iff sorting (sorting.sort rows)[position] hposition).mp le_rfl
      by_contra hne
      exact hsplits ⟨_, hrow, by omega, hlast⟩
    have htake := take_newer sorting rows (sorting.sort rows)[position]
    have hother := take_newer other rows (sorting.sort rows)[position]
    rw [hbegin] at htake hother
    rw [htake, hother]
    exact hperm.filter _
  · rw [List.take_of_length_le hposition, List.take_of_length_le (hperm.length_eq ▸ hposition)]
    exact hperm

theorem exists_sorting_of_splits [DecidableEq Row] (hsplits : Splits key rows (position + 1)) :
    ∃ row, ∃ other : Sorting key, (sorting.sort rows)[position]? = some row ∧
      (other.sort rows)[position + 1]? = some row := by
  have hposition : position + 1 < (sorting.sort rows).length := by
    rw [length_sort]
    exact hsplits.pos_lt_length.2
  obtain ⟨row, -, hnewer, hsame⟩ := hsplits
  have hkey : ∀ index, newer key rows row ≤ index → index ≤ position + 1 →
      ∀ hindex : index < (sorting.sort rows).length, key (sorting.sort rows)[index] = key row := by
    intro index hfirst hlast hindex
    exact le_antisymm
      (not_lt.mp ((key_lt_getElem_iff sorting row hindex).not.mpr (by omega)))
      ((key_le_getElem_iff sorting row hindex).mpr (by omega))
  have hfirst := hkey position (by omega) (by omega) (by omega)
  have hsecond := hkey (position + 1) (by omega) le_rfl hposition
  obtain ⟨front, back, hsplit, hfront⟩ := exists_append_cons_cons hposition
  obtain ⟨first, hfirst'⟩ : ∃ first, first = (sorting.sort rows)[position] := ⟨_, rfl⟩
  obtain ⟨second, hsecond'⟩ : ∃ second, second = (sorting.sort rows)[position + 1] := ⟨_, rfl⟩
  rw [← hfirst'] at hfirst hsplit
  rw [← hsecond'] at hsecond hsplit
  -- the order with the two rows the other way round
  have hperm : (front ++ second :: first :: back).Perm rows :=
    ((List.Perm.swap first second back).append_left front).trans
      (hsplit ▸ sorting.perm rows)
  have hsorted : (front ++ second :: first :: back).Pairwise fun row other =>
      key other ≤ key row := by
    have hsorted := hsplit ▸ sorting.sorted rows
    rw [← List.pairwise_map (R := fun k l => l ≤ k)] at hsorted ⊢
    simpa [hfirst, hsecond] using hsorted
  refine ⟨first, sorting.set rows _ hperm hsorted, ?_, ?_⟩
  · rw [hfirst']
    exact List.getElem?_eq_getElem _
  · have hset : (sorting.set rows _ hperm hsorted).sort rows = front ++ second :: first :: back :=
      if_pos rfl
    rw [hset, ← hfront, List.getElem?_append_right (by omega)]
    simp

end Sorted

/-! ## Pages -/

/-- The rows of a page: some are skipped, and then so many are returned. -/
def slice (sorting : Sorting key) (width offset : ℕ) (rows : List Row) : List Row :=
  ((sorting.sort rows).drop offset).take width

def pageCount (total step : ℕ) : ℕ := (total - 1) / step + 1

def pages (sortings : ℕ → Sorting key) (width step : ℕ) (rows : List Row) : List Row :=
  (List.range (pageCount rows.length step)).flatMap fun call =>
    slice (sortings call) width (call * step) rows

theorem le_pageCount_mul (total : ℕ) (hstep : 0 < step) : total ≤ pageCount total step * step := by
  have hlt := Nat.lt_mul_div_succ (total - 1) hstep
  rw [pageCount, mul_comm]
  omega

theorem lt_pageCount_iff {total call : ℕ} (hstep : 0 < step) (hcall : 0 < call) :
    call < pageCount total step ↔ call * step < total := by
  rw [pageCount, Nat.lt_add_one_iff, Nat.le_div_iff_mul_le hstep]
  have hpos : 0 < call * step := Nat.mul_pos hcall hstep
  omega

section Pages

variable {rows : List Row} {width step : ℕ} (sortings : ℕ → Sorting key)

/-- If no page ends between rows with the same key, the pages are those of one order. -/
theorem perm_slice {offset : ℕ} (hfirst : ¬ Splits key rows offset)
    (hlast : ¬ Splits key rows (offset + step)) (sorting other : Sorting key) :
    (slice sorting step offset rows).Perm (slice other step offset rows) := by
  have htake := perm_take sorting hlast other
  rw [List.take_add, List.take_add] at htake
  exact (List.perm_append_left_iff _).mp
    (htake.trans ((perm_take sorting hfirst other).symm.append_right _))

theorem perm_flatMap_range (hsplits : ∀ call, ¬ Splits key rows (call * step))
    (sorting : Sorting key) (calls : ℕ) :
    ((List.range calls).flatMap fun call => slice (sortings call) step (call * step) rows).Perm
      ((sorting.sort rows).take (calls * step)) := by
  induction calls with
  | zero => simp
  | succ calls ih =>
    have hlast := hsplits (calls + 1)
    rw [Nat.succ_mul] at hlast ⊢
    rw [List.range_succ, List.flatMap_append, List.flatMap_singleton, List.take_add]
    exact ih.append (perm_slice (hsplits calls) hlast (sortings calls) sorting)

theorem perm_pages (hstep : 0 < step) (hsplits : ∀ call, ¬ Splits key rows (call * step)) :
    (pages sortings step step rows).Perm rows := by
  have hperm := perm_flatMap_range sortings hsplits (sortings 0) (pageCount rows.length step)
  rw [List.take_of_length_le] at hperm
  · exact hperm.trans ((sortings 0).perm rows)
  · rw [length_sort]
    exact le_pageCount_mul rows.length hstep

theorem length_slice (sorting : Sorting key) (offset : ℕ) :
    (slice sorting width offset rows).length = min width (rows.length - offset) := by
  rw [slice, List.length_take, List.length_drop, length_sort]

theorem length_pages_lt (hwidth : width < step) (hrows : width < rows.length) :
    (pages sortings width step rows).length < rows.length := by
  have hstep : 0 < step := by omega
  have hnarrow : ∀ calls, ((List.range calls).flatMap fun call =>
      slice (sortings call) width (call * step) rows).length ≤ calls * width := by
    intro calls
    induction calls with
    | zero => simp
    | succ calls ih =>
      rw [List.range_succ, List.flatMap_append, List.flatMap_singleton, List.length_append,
        length_slice, Nat.succ_mul]
      omega
  have hbefore := hnarrow ((rows.length - 1) / step)
  rw [pages, pageCount, List.range_succ, List.flatMap_append, List.flatMap_singleton,
    List.length_append, length_slice]
  have hlast := Nat.div_mul_le_self (rows.length - 1) step
  rcases Nat.eq_zero_or_pos ((rows.length - 1) / step) with hzero | hpos
  · rw [hzero] at hbefore ⊢
    omega
  · have hlost := Nat.mul_lt_mul_of_pos_left hwidth hpos
    omega

theorem mem_slice {sorting : Sorting key} {offset : ℕ} (index : ℕ) {row : Row}
    (hindex : index < width) (hrow : (sorting.sort rows)[offset + index]? = some row) :
    row ∈ slice sorting width offset rows := by
  refine List.mem_of_getElem? (i := index) ?_
  rw [slice, List.getElem?_take_of_lt hindex, List.getElem?_drop, hrow]

/-- If a page ends between rows with the same key, one of them can be on the next page too. -/
theorem exists_not_nodup_pages [DecidableEq Row] {call : ℕ} (hstep : 0 < step)
    (hsplits : Splits key rows (call * step)) :
    ∃ sortings : ℕ → Sorting key, ¬ (pages sortings step step rows).Nodup := by
  obtain ⟨call, rfl⟩ : ∃ before, call = before + 1 :=
    Nat.exists_eq_succ_of_ne_zero (Nat.pos_of_mul_pos_right hsplits.pos_lt_length.1).ne'
  have hend : (call + 1) * step = call * step + (step - 1) + 1 := by
    rw [Nat.succ_mul]
    omega
  rw [hend] at hsplits
  obtain ⟨row, other, hfirst, hsecond⟩ := exists_sorting_of_splits (.stable key) hsplits
  refine ⟨Function.update (fun _ => .stable key) (call + 1) other, fun hnodup => ?_⟩
  have hcall : call + 1 < pageCount rows.length step := by
    rw [lt_pageCount_iff hstep (Nat.succ_pos call), hend, ← length_sort other]
    exact (List.getElem?_eq_some_iff.mp hsecond).1
  have hdisjoint := List.pairwise_iff_getElem.mp (List.nodup_flatMap.mp hnodup).2 call (call + 1)
    (by rw [List.length_range]; omega) (by rw [List.length_range]; exact hcall) (Nat.lt_succ_self _)
  rw [List.getElem_range, List.getElem_range, Function.onFun,
    Function.update_of_ne (Nat.lt_succ_self call).ne, Function.update_self] at hdisjoint
  refine hdisjoint (mem_slice (step - 1) (by omega) hfirst) (mem_slice 0 hstep ?_)
  rw [hend]
  exact hsecond

theorem forall_perm_pages_iff [DecidableEq Row] (hrows : rows.Nodup) (hwidth : 0 < width)
    (hle : width ≤ step) :
    (∀ sortings : ℕ → Sorting key, (pages sortings width step rows).Perm rows) ↔
      (width = step ∨ rows.length ≤ width) ∧ ∀ call, ¬ Splits key rows (call * step) := by
  have hstep : 0 < step := hwidth.trans_le hle
  constructor
  · intro hperm
    have hwide : width = step ∨ rows.length ≤ width := by
      by_contra hnarrow
      rw [not_or, not_le] at hnarrow
      have hlost := length_pages_lt (fun _ => .stable key) (lt_of_le_of_ne hle hnarrow.1) hnarrow.2
      exact hlost.ne (hperm fun _ => .stable key).length_eq
    refine ⟨hwide, fun call hsplits => ?_⟩
    rcases hwide with rfl | hshort
    · obtain ⟨sortings, hnot⟩ := exists_not_nodup_pages hstep hsplits
      exact hnot ((hperm sortings).nodup_iff.mpr hrows)
    · obtain ⟨hpos, hlt⟩ := hsplits.pos_lt_length
      have hcall := Nat.pos_of_mul_pos_right hpos
      have hfirst := Nat.le_mul_of_pos_left step hcall
      omega
  · rintro ⟨rfl | hshort, hsplits⟩ sortings
    · exact perm_pages sortings hstep hsplits
    · have hone : pageCount rows.length step = 1 := by
        rw [pageCount, Nat.div_eq_of_lt (by omega)]
      have hall : pages sortings width step rows = (sortings 0).sort rows := by
        rw [pages, hone, List.range_one, List.flatMap_singleton, slice, Nat.zero_mul,
          List.drop_zero, List.take_of_length_le (by rw [length_sort]; exact hshort)]
      rw [hall]
      exact (sortings 0).perm rows

end Pages

/-! ## A client -/

structure Page (Row : Type*) where
  rows : List Row
  total : ℕ

section Client

variable {Error : Type*} (fetch : ℕ → ℤ → Except Error (Page Row)) (limit : ℤ)

def fetchAll : (fuel call : ℕ) → ℤ → Option (Except Error (List Row))
  | 0, _, _ => none
  | fuel + 1, call, offset =>
    match fetch call offset with
    | .error error => some (.error error)
    | .ok page =>
      if page.total ≤ max offset (offset + limit) then some (.ok page.rows)
      else (fetchAll fuel (call + 1) (offset + limit)).map (Except.map (page.rows ++ ·))

variable {fetch limit}

variable {fuel call : ℕ} {offset : ℤ} {result : Except Error (List Row)}

theorem fetchAll_add (hfetch : fetchAll fetch limit fuel call offset = some result) (more : ℕ) :
    fetchAll fetch limit (fuel + more) call offset = some result := by
  induction fuel generalizing call offset result with
  | zero => exact absurd hfetch (by simp [fetchAll])
  | succ fuel ih =>
    rw [Nat.add_right_comm]
    rw [fetchAll] at hfetch ⊢
    cases hpage : fetch call offset with
    | error error => simpa [hpage] using hfetch
    | ok page =>
      simp only [hpage] at hfetch ⊢
      split_ifs at hfetch ⊢ with htotal
      · exact hfetch
      · obtain ⟨rest, hrest, rfl⟩ := Option.map_eq_some_iff.mp hfetch
        rw [ih hrest, Option.map_some]

theorem fetchAll_unique {fuel' : ℕ} {result' : Except Error (List Row)}
    (hfetch : fetchAll fetch limit fuel call offset = some result)
    (hfetch' : fetchAll fetch limit fuel' call offset = some result') : result = result' := by
  have hmore := fetchAll_add hfetch fuel'
  rw [Nat.add_comm, fetchAll_add hfetch' fuel] at hmore
  exact (Option.some.inj hmore).symm

variable {rows : List Row} {width step : ℕ} {sortings : ℕ → Sorting key}

theorem fetchAll_eq (hstep : 0 < step)
    (hfetch : ∀ call offset : ℕ, fetch call offset =
      .ok ⟨slice (sortings call) width offset rows, rows.length⟩) :
    fetchAll fetch step (pageCount rows.length step) 0 0 =
      some (.ok (pages sortings width step rows)) := by
  have hrest : ∀ calls call, call + calls = pageCount rows.length step → 0 < calls →
      fetchAll fetch step calls call ((call * step : ℕ) : ℤ) =
        some (.ok ((List.range' call calls).flatMap fun call =>
          slice (sortings call) width (call * step) rows)) := by
    intro calls
    induction calls with
    | zero => exact fun _ _ hpos => absurd hpos (lt_irrefl 0)
    | succ calls ih =>
      intro call hcalls _
      have hnext : ((call * step : ℕ) : ℤ) + step = (((call + 1) * step : ℕ) : ℤ) := by
        rw [Nat.succ_mul, Nat.cast_add]
      rw [fetchAll, hfetch, hnext]
      dsimp only
      rw [List.range'_succ, List.flatMap_cons]
      rcases Nat.eq_zero_or_pos calls with rfl | hpos
      · -- the last page
        have hend := le_pageCount_mul rows.length hstep
        rw [← hcalls, Nat.zero_add] at hend
        rw [if_pos (le_max_of_le_right (Nat.cast_le.mpr hend)), List.range'_zero,
          List.flatMap_nil, List.append_nil]
      · have hmore : (call + 1) * step < rows.length :=
          (lt_pageCount_iff hstep (Nat.succ_pos call)).mp (by omega)
        have hcontinue : ¬ (rows.length : ℤ) ≤
            max ((call * step : ℕ) : ℤ) (((call + 1) * step : ℕ) : ℤ) := by
          rw [← Nat.cast_max, Nat.cast_le, not_le]
          exact max_lt ((Nat.mul_le_mul_right step (Nat.le_succ call)).trans_lt hmore) hmore
        rw [if_neg hcontinue, ih (call + 1) (by omega) hpos]
        rfl
  have hall := hrest (pageCount rows.length step) 0 (Nat.zero_add _) (Nat.succ_pos _)
  rwa [Nat.zero_mul, Nat.cast_zero, ← List.range_eq_range'] at hall

theorem fetchAll_ne_ok (hlimit : limit ≤ 0) {total : ℕ} (htotal : 0 < total)
    (hfetch : ∀ call offset page, fetch call offset = .ok page → page.total = total)
    (fuel call : ℕ) (hoffset : offset ≤ 0) (rows : List Row) :
    fetchAll fetch limit fuel call offset ≠ some (.ok rows) := by
  induction fuel generalizing call offset rows with
  | zero => simp [fetchAll]
  | succ fuel ih =>
    rw [fetchAll]
    cases hpage : fetch call offset with
    | error error => simp
    | ok page =>
      have hmore : ¬ (page.total : ℤ) ≤ max offset (offset + limit) := by
        rw [hfetch call offset page hpage]
        omega
      simp only [if_neg hmore]
      intro hall
      obtain ⟨rest, hrest, hok⟩ := Option.map_eq_some_iff.mp hall
      cases rest with
      | error error => cases hok
      | ok rest => exact ih (call + 1) (by omega) rest hrest

end Client

end OffsetPaging
