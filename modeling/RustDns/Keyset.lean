import Mathlib

/-!
# Paging by a key

A long list of rows is read page by page: each call asks for the rows with a key below a cursor,
with the highest keys first, and one more than fits the page tells whether there is a next page.
Then the cursor of the next call is the last key of the page.

The table may change between the calls, as long as no row comes in below the first cursor.  Then
the calls come to an end, the rows come with falling keys, and a row that is there all the time
is among them (`exists_fetchAll`).
-/

namespace Keyset

variable {Row Key : Type*} [LinearOrder Key] (key : Row → Key)

def descending (rows : List Row) : List Row :=
  rows.insertionSort fun row other => key other ≤ key row

structure Page (Row Key : Type*) where
  rows : List Row
  next : Option Key

def page (limit : ℕ) (rows : List Row) : Page Row Key :=
  let fetched := (descending key rows).take (limit + 1)
  if limit < fetched.length then
    ⟨fetched.take limit, (fetched.take limit).getLast?.map key⟩
  else ⟨fetched, none⟩

/-- One page after the other, until there is no next one: how many calls it took, and all rows. -/
def fetchAll (fetch : ℕ → Key → Page Row Key) : (fuel call : ℕ) → Key → Option (ℕ × List Row)
  | 0, _, _ => none
  | fuel + 1, call, cursor =>
    match (fetch call cursor).next with
    | none => some (1, (fetch call cursor).rows)
    | some next => (fetchAll fetch fuel (call + 1) next).map fun rest =>
      (rest.1 + 1, (fetch call cursor).rows ++ rest.2)

/-! ## One page -/

section Page

variable {key} {rows : List Row} {limit : ℕ}

theorem mem_descending {row : Row} : row ∈ descending key rows ↔ row ∈ rows :=
  (List.perm_insertionSort _ rows).mem_iff

theorem length_descending : (descending key rows).length = rows.length :=
  (List.perm_insertionSort _ rows).length_eq

theorem sorted_descending (rows : List Row) :
    (descending key rows).Pairwise fun row other => key other ≤ key row := by
  have htotal : Std.Total fun row other : Row => key other ≤ key row :=
    ⟨fun row other => le_total (key other) (key row)⟩
  have htrans : IsTrans Row fun row other : Row => key other ≤ key row :=
    ⟨fun _ _ _ hfirst hsecond => hsecond.trans hfirst⟩
  exact List.pairwise_insertionSort _ rows

theorem pairwise_descending (hkeys : (rows.map key).Nodup) :
    (descending key rows).Pairwise fun row other => key other < key row := by
  have hne : (descending key rows).Pairwise fun row other => key row ≠ key other :=
    List.pairwise_map.mp (((List.perm_insertionSort _ rows).map key).nodup_iff.mpr hkeys)
  exact (sorted_descending rows).imp₂ (fun _ _ hle hne => lt_of_le_of_ne hle hne.symm) hne

theorem page_eq (limit : ℕ) (rows : List Row) :
    page key limit rows = if limit < rows.length then
        ⟨(descending key rows).take limit, ((descending key rows).take limit).getLast?.map key⟩
      else ⟨descending key rows, none⟩ := by
  have hlength : ((descending key rows).take (limit + 1)).length = min (limit + 1) rows.length := by
    rw [List.length_take, length_descending]
  by_cases hlimit : limit < rows.length
  · have hmore : limit < ((descending key rows).take (limit + 1)).length := by
      rw [hlength]
      omega
    simp only [page, if_pos hmore, if_pos hlimit, List.take_take,
      Nat.min_eq_left (Nat.le_succ limit)]
  · have htake : (descending key rows).take (limit + 1) = descending key rows := by
      refine List.take_of_length_le ?_
      rw [length_descending]
      omega
    simp only [page, htake, length_descending, if_neg hlimit]

theorem sublist_page (limit : ℕ) (rows : List Row) :
    (page key limit rows).rows.Sublist (descending key rows) := by
  rw [page_eq]
  split_ifs
  · exact List.take_sublist _ _
  · exact List.Sublist.refl _

theorem mem_page_of_next_eq_none {row : Row} (hlimit : 0 < limit) (hrow : row ∈ rows)
    (hnext : (page key limit rows).next = none) : row ∈ (page key limit rows).rows := by
  rw [page_eq] at hnext ⊢
  split_ifs at hnext ⊢ with hmore
  · -- a page that is followed by another has a last row
    have hempty : (descending key rows).take limit = [] := by simpa using hnext
    have hlength := congrArg List.length hempty
    rw [List.length_take, length_descending, List.length_nil] at hlength
    omega
  · exact mem_descending.mpr hrow

/-- The cursor is the lowest key of the page, and all rows from it on were on the page. -/
theorem exists_last_of_next {next : Key} (hkeys : (rows.map key).Nodup)
    (hnext : (page key limit rows).next = some next) :
    (∃ last ∈ rows, key last = next) ∧ (∀ row ∈ (page key limit rows).rows, next ≤ key row) ∧
      ∀ row ∈ rows, next ≤ key row → row ∈ (page key limit rows).rows := by
  rw [page_eq] at hnext ⊢
  split_ifs at hnext ⊢ with hmore
  obtain ⟨last, hlast, rfl⟩ := Option.map_eq_some_iff.mp hnext
  obtain ⟨shown, hshown⟩ := List.getLast?_eq_some_iff.mp hlast
  have hsplit := List.take_append_drop limit (descending key rows)
  have hsorted := pairwise_descending hkeys
  rw [← hsplit] at hsorted
  obtain ⟨hfirst, -, hacross⟩ := List.pairwise_append.mp hsorted
  refine ⟨⟨last, ?_, rfl⟩, fun row hrow => ?_, fun row hrow hle => ?_⟩
  · exact mem_descending.mp (List.mem_of_mem_take (List.mem_of_mem_getLast? hlast))
  · rw [hshown] at hfirst hrow
    rcases List.mem_append.mp hrow with hrow | hrow
    · exact ((List.pairwise_append.mp hfirst).2.2 row hrow last (List.mem_singleton_self _)).le
    · rw [List.mem_singleton.mp hrow]
  · have hrow : row ∈ descending key rows := mem_descending.mpr hrow
    rw [← hsplit] at hrow
    rcases List.mem_append.mp hrow with hrow | hrow
    · exact hrow
    · have hlt := hacross last (List.mem_of_mem_getLast? hlast) row hrow
      exact absurd hle (not_le.mpr hlt)

end Page

/-! ## All pages -/

section Calls

variable (limit : ℕ) (select : Row → Bool) (tables : ℕ → List Row)

def below (table : List Row) (cursor : Key) : List Row :=
  table.filter fun row => select row && key row < cursor

def fetch (call : ℕ) (cursor : Key) : Page Row Key :=
  page key limit (below key select (tables call) cursor)

structure Complete (call calls : ℕ) (cursor : Key) (rows : List Row) : Prop where
  decreasing : rows.Pairwise fun row other => key other < key row
  sound : ∀ row ∈ rows, select row = true ∧ key row < cursor ∧
    ∃ later < calls, row ∈ tables (call + later)
  complete : ∀ row, (∀ later < calls, row ∈ tables (call + later)) → select row = true →
    key row < cursor → row ∈ rows

variable {key limit select tables} {start : Key}

theorem length_below_lt {before after : List Row} {cursor next : Key} {last : Row}
    (hkeys : (after.map key).Nodup) (hlast : last ∈ before) (hnext : key last = next)
    (hcursor : next < cursor) (hshrinks : ∀ row ∈ after, key row < next → row ∈ before) :
    (after.filter (key · < next)).length < (before.filter (key · < cursor)).length := by
  have hnodup : (last :: after.filter (key · < next)).Nodup := by
    refine List.nodup_cons.mpr ⟨fun hmem => ?_, (List.Nodup.of_map key hkeys).filter _⟩
    have hlt : key last < next := by simpa using (List.mem_filter.mp hmem).2
    exact absurd hlt (by simp [hnext])
  have hsubset : last :: after.filter (key · < next) ⊆ before.filter (key · < cursor) := by
    intro row hrow
    rcases List.mem_cons.mp hrow with rfl | hrow
    · exact List.mem_filter.mpr ⟨hlast, by simpa [hnext] using hcursor⟩
    · obtain ⟨hmem, hlt⟩ := List.mem_filter.mp hrow
      have hlt : key row < next := of_decide_eq_true hlt
      exact List.mem_filter.mpr ⟨hshrinks row hmem hlt, decide_eq_true (hlt.trans hcursor)⟩
  exact (List.subperm_of_subset hnodup hsubset).length_le

section Step

variable {call : ℕ} {cursor : Key}

variable {table : List Row} {row : Row}

theorem mem_below :
    row ∈ below key select table cursor ↔ row ∈ table ∧ select row = true ∧ key row < cursor := by
  simp [below]

theorem nodup_below (hkeys : (table.map key).Nodup) (cursor : Key) :
    ((below key select table cursor).map key).Nodup :=
  hkeys.sublist (List.filter_sublist.map key)

theorem mem_fetch (hrow : row ∈ (fetch key limit select tables call cursor).rows) :
    row ∈ tables call ∧ select row = true ∧ key row < cursor :=
  mem_below.mp (mem_descending.mp ((sublist_page _ _).subset hrow))

theorem pairwise_fetch (hkeys : ((tables call).map key).Nodup) :
    (fetch key limit select tables call cursor).rows.Pairwise
      fun row other => key other < key row :=
  (pairwise_descending (nodup_below hkeys cursor)).sublist (sublist_page _ _)

theorem complete_of_last (hlimit : 0 < limit) (hkeys : ((tables call).map key).Nodup)
    (hnext : (fetch key limit select tables call cursor).next = none) :
    Complete key select tables call 1 cursor
      (fetch key limit select tables call cursor).rows where
  decreasing := pairwise_fetch hkeys
  sound row hrow := by
    obtain ⟨hmem, hselect, hlt⟩ := mem_fetch hrow
    exact ⟨hselect, hlt, 0, Nat.one_pos, hmem⟩
  complete row hrow hselect hlt :=
    mem_page_of_next_eq_none hlimit (mem_below.mpr ⟨hrow 0 Nat.one_pos, hselect, hlt⟩) hnext

theorem complete_of_next {next : Key} {calls : ℕ} {rest : List Row}
    (hkeys : ((tables call).map key).Nodup)
    (hnext : (fetch key limit select tables call cursor).next = some next)
    (hrest : Complete key select tables (call + 1) calls next rest) :
    Complete key select tables call (calls + 1) cursor
      ((fetch key limit select tables call cursor).rows ++ rest) := by
  obtain ⟨⟨last, hlast, rfl⟩, hlow, hall⟩ := exists_last_of_next (nodup_below hkeys cursor) hnext
  obtain ⟨-, -, hlastLt⟩ := mem_below.mp hlast
  refine ⟨?_, ?_, ?_⟩
  · refine List.pairwise_append.mpr ⟨pairwise_fetch hkeys, hrest.decreasing, ?_⟩
    intro row hrow other hother
    exact (hrest.sound other hother).2.1.trans_le (hlow row hrow)
  · intro row hrow
    rcases List.mem_append.mp hrow with hrow | hrow
    · obtain ⟨hmem, hselect, hlt⟩ := mem_fetch hrow
      exact ⟨hselect, hlt, 0, Nat.succ_pos calls, hmem⟩
    · obtain ⟨hselect, hlt, later, hlater, hmem⟩ := hrest.sound row hrow
      refine ⟨hselect, hlt.trans hlastLt, later + 1, Nat.succ_lt_succ hlater, ?_⟩
      rwa [← Nat.add_assoc, Nat.add_right_comm]
  · intro row hrow hselect hlt
    -- from the cursor on the row was on the page, below it the rest has it
    rcases le_or_gt (key last) (key row) with hle | hgt
    · have hmem := mem_below.mpr ⟨hrow 0 (Nat.succ_pos calls), hselect, hlt⟩
      exact List.mem_append_left _ (hall row hmem hle)
    · refine List.mem_append_right _ (hrest.complete row (fun later hlater => ?_) hselect hgt)
      have hmem := hrow (later + 1) (Nat.succ_lt_succ hlater)
      rwa [← Nat.add_assoc, Nat.add_right_comm] at hmem

end Step

/-- **All pages.**  If no row comes in below the first cursor, the calls end, after one more
than there were rows below it at most, and return what they have to. -/
theorem exists_fetchAll (hlimit : 0 < limit) (hkeys : ∀ call, ((tables call).map key).Nodup)
    (hshrinks : ∀ call, ∀ row ∈ tables (call + 1), key row < start → row ∈ tables call)
    {fuel call : ℕ} {cursor : Key} (hcursor : cursor ≤ start)
    (hfuel : ((tables call).filter (key · < cursor)).length < fuel) :
    ∃ calls rows, fetchAll (fetch key limit select tables) fuel call cursor = some (calls, rows) ∧
      calls ≤ fuel ∧ Complete key select tables call calls cursor rows := by
  induction fuel generalizing call cursor with
  | zero => exact absurd hfuel (Nat.not_lt_zero _)
  | succ fuel ih =>
    cases hnext : (fetch key limit select tables call cursor).next with
    | none =>
      refine ⟨1, _, ?_, Nat.succ_pos fuel, complete_of_last hlimit (hkeys call) hnext⟩
      simp only [fetchAll, hnext]
    | some next =>
      obtain ⟨⟨last, hlast, hlastKey⟩, -⟩ :=
        exists_last_of_next (nodup_below (hkeys call) cursor) hnext
      obtain ⟨hlastMem, -, hlastLt⟩ := mem_below.mp hlast
      have hnextLt : next < cursor := hlastKey ▸ hlastLt
      have hfewer := length_below_lt (hkeys (call + 1)) hlastMem hlastKey hnextLt
        fun row hrow hlt => hshrinks call row hrow (hlt.trans (hnextLt.trans_le hcursor))
      obtain ⟨calls, rows, hfetch, hcalls, hcomplete⟩ :=
        ih (hnextLt.le.trans hcursor) (hfewer.trans_le (Nat.lt_succ_iff.mp hfuel))
      refine ⟨calls + 1, _, ?_, Nat.succ_le_succ hcalls,
        complete_of_next (hkeys call) hnext hcomplete⟩
      simp only [fetchAll, hnext, hfetch, Option.map_some]

end Calls

end Keyset
