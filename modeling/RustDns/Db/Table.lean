import Mathlib

/-!
# Tables with a key

A table is a list of rows of which no two have the same key.  The order is the
one in which the rows are read back.  The uniqueness is part of the type: an
insertion that would break it is an error, and the other statements keep it.
-/

/-- A list of rows without two of the same key. -/
@[ext] structure Table {Row Key : Type*} (key : Row → Key) where
  rows : List Row
  nodup : (rows.map key).Nodup

namespace Table

variable {Row Key : Type*} {key : Row → Key}

def empty : Table key := ⟨[], List.nodup_nil⟩

instance : Membership Row (Table key) := ⟨fun table row => row ∈ table.rows⟩

variable {table : Table key} {row : Row} {condition select : Row → Bool} {wanted : Key}
  {change : Row → Row}

theorem mem_rows : row ∈ table.rows ↔ row ∈ table := Iff.rfl

/-- `DELETE FROM … WHERE`. -/
def deleteWhere (table : Table key) (condition : Row → Bool) : Table key where
  rows := table.rows.filter (! condition ·)
  nodup := table.nodup.sublist (List.filter_sublist.map key)

theorem filter_deleteWhere (hkept : ∀ row ∈ table, select row = true → condition row = false) :
    (table.deleteWhere condition).rows.filter select = table.rows.filter select := by
  unfold deleteWhere
  rw [List.filter_filter]
  refine List.filter_congr fun row hrow => ?_
  cases hselect : select row with
  | false => rfl
  | true => simp [hkept row hrow hselect]

theorem mem_deleteWhere_of_not (hrow : row ∈ table.rows) (hcondition : condition row = false) :
    row ∈ (table.deleteWhere condition).rows :=
  List.mem_filter.mpr ⟨hrow, by simp [hcondition]⟩

theorem mem_map_key_deleteWhere (hwanted : wanted ∈ table.rows.map key)
    (hkept : ∀ row ∈ table.rows, key row = wanted → condition row = false) :
    wanted ∈ (table.deleteWhere condition).rows.map key := by
  obtain ⟨row, hrow, hkey⟩ := List.mem_map.mp hwanted
  exact List.mem_map.mpr ⟨row, mem_deleteWhere_of_not hrow (hkept row hrow hkey), hkey⟩

theorem deleteWhere_mem_map_key [BEq Key] [LawfulBEq Key] :
    table.deleteWhere (fun row => key row ∈ (table.rows.filter select).map key) =
      table.deleteWhere select := by
  refine Table.ext (List.filter_congr fun row hrow => congrArg not ?_)
  rw [Bool.eq_iff_iff, decide_eq_true_iff, List.mem_map]
  constructor
  · rintro ⟨other, hother, hkey⟩
    obtain ⟨hmem, hselect⟩ := List.mem_filter.mp hother
    rwa [← List.inj_on_of_nodup_map table.nodup hmem hrow hkey]
  · exact fun hselect => ⟨row, List.mem_filter.mpr ⟨hrow, hselect⟩, rfl⟩

/-- `SELECT … WHERE` the key is the given one. -/
def find? [DecidableEq Key] (table : Table key) (wanted : Key) : Option Row :=
  table.rows.find? (key · = wanted)

theorem find?_eq_some_iff [DecidableEq Key] :
    table.find? wanted = some row ↔ row ∈ table.rows ∧ key row = wanted := by
  constructor
  · intro hfind
    exact ⟨List.mem_of_find?_eq_some hfind, by simpa using List.find?_some hfind⟩
  · rintro ⟨hrow, rfl⟩
    have hsome : (table.find? (key row)).isSome = true :=
      List.find?_isSome.mpr ⟨row, hrow, decide_eq_true rfl⟩
    obtain ⟨found, hfind⟩ := Option.isSome_iff_exists.mp hsome
    have hkey : key found = key row := by simpa using List.find?_some hfind
    rw [hfind, List.inj_on_of_nodup_map table.nodup (List.mem_of_find?_eq_some hfind) hrow hkey]

theorem isSome_find?_iff [DecidableEq Key] :
    (table.find? wanted).isSome = true ↔ wanted ∈ table.rows.map key := by
  simp [find?, List.find?_isSome]

theorem mem_map_key_of_find? [DecidableEq Key] (hfind : ¬ (table.find? wanted).isNone = true) :
    wanted ∈ table.rows.map key := by
  apply isSome_find?_iff.mp
  rwa [Bool.not_eq_true, Option.isNone_eq_false_iff] at hfind

/-- `INSERT`, an error when the key is taken. -/
def insert [DecidableEq Key] (table : Table key) (row : Row) : Option (Table key) :=
  if hkey : key row ∈ table.rows.map key then none
  else some
    { rows := table.rows ++ [row]
      nodup := by
        rw [List.map_append, List.map_singleton, ← List.concat_eq_append]
        exact table.nodup.concat hkey }

variable {after : Table key} {conditions : List (Row → Bool)}

theorem rows_of_insert [DecidableEq Key] (hinsert : table.insert row = some after) :
    after.rows = table.rows ++ [row] := by
  unfold insert at hinsert
  split_ifs at hinsert
  cases hinsert
  rfl

theorem map_key_subset_of_insert [DecidableEq Key] (hinsert : table.insert row = some after) :
    table.rows.map key ⊆ after.rows.map key := by
  rw [rows_of_insert hinsert, List.map_append]
  exact List.subset_append_left _ _

theorem filter_insert_of_ne [DecidableEq Key] [BEq Key] [LawfulBEq Key]
    (hinsert : table.insert row = some after) (hne : key row ≠ wanted) :
    after.rows.filter (key · == wanted) = table.rows.filter (key · == wanted) := by
  rw [rows_of_insert hinsert, List.filter_append]
  simp [hne]

theorem isSome_insert_of_find? [DecidableEq Key] (hfind : table.find? (key row) = none) :
    (table.insert row).isSome = true := by
  have hkey : key row ∉ table.rows.map key := by
    rintro hmem
    obtain ⟨other, hother, heq⟩ := List.mem_map.mp hmem
    exact List.find?_eq_none.mp hfind other hother (by simpa using heq)
  simp [insert, hkey]

/-- `INSERT … ON CONFLICT DO NOTHING`. -/
def insertOrIgnore [DecidableEq Key] (table : Table key) (row : Row) : Table key :=
  (table.insert row).getD table

theorem rows_foldl_insertOrIgnore [DecidableEq Key] {rows : List Row}
    (hnew : ((table.rows ++ rows).map key).Nodup) :
    (rows.foldl insertOrIgnore table).rows = table.rows ++ rows := by
  induction rows generalizing table with
  | nil => simp
  | cons row rest ih =>
    have hkey : key row ∉ table.rows.map key := by
      rw [List.map_append, List.nodup_append] at hnew
      exact fun hmem => hnew.2.2 _ hmem _ (by simp) rfl
    have hrows : (table.insertOrIgnore row).rows = table.rows ++ [row] := by
      simp [insertOrIgnore, insert, hkey]
    have hstep : (((table.insertOrIgnore row).rows ++ rest).map key).Nodup := by
      simpa [hrows] using hnew
    rw [List.foldl_cons, ih hstep, hrows, List.append_assoc, List.singleton_append]

theorem map_key_subset_foldl_insertOrIgnore [DecidableEq Key] (table : Table key)
    (rows : List Row) :
    table.rows.map key ⊆ (rows.foldl insertOrIgnore table).rows.map key := by
  induction rows generalizing table with
  | nil => exact List.Subset.refl _
  | cons row rest ih =>
    refine List.Subset.trans ?_ (ih (table.insertOrIgnore row))
    unfold insertOrIgnore
    cases hinsert : table.insert row with
    | none => exact List.Subset.refl _
    | some after => exact map_key_subset_of_insert hinsert

/-- `UPDATE … SET … WHERE` with a change that keeps the key. -/
def updateWhere (table : Table key) (condition : Row → Bool) (change : Row → Row)
    (hkey : ∀ row, key (change row) = key row) : Table key where
  rows := table.rows.map fun row => if condition row then change row else row
  nodup := by
    have hkeys : ∀ row, key (if condition row then change row else row) = key row := by
      intro row
      split
      · exact hkey row
      · rfl
    simpa only [List.map_map, Function.comp_def, hkeys] using table.nodup

theorem mem_updateWhere_of_not {hkey : ∀ row, key (change row) = key row}
    (hrow : row ∈ table.rows) (hcondition : condition row = false) :
    row ∈ (table.updateWhere condition change hkey).rows := by
  refine List.mem_map.mpr ⟨row, hrow, ?_⟩
  simp [hcondition]

def rowsAffected (table : Table key) (condition : Row → Bool) : ℕ := table.rows.countP condition

variable (hkey : ∀ row, key (change row) = key row)

theorem rowsAffected_le_updateWhere
    (hkeeps : ∀ row ∈ table.rows, condition row = true → select row = true →
      select (change row) = true) :
    table.rowsAffected select ≤ (table.updateWhere condition change hkey).rowsAffected select := by
  unfold rowsAffected updateWhere
  rw [List.countP_map]
  refine List.countP_mono_left fun row hrow hselect => ?_
  dsimp only [Function.comp]
  split_ifs with hcondition
  · exact hkeeps row hrow hcondition hselect
  · exact hselect

theorem rowsAffected_key_le_one [DecidableEq Key] (table : Table key) (wanted : Key) :
    table.rowsAffected (key · = wanted) ≤ 1 := by
  have hcount := List.nodup_iff_count_le_one.mp table.nodup wanted
  rwa [List.count, List.countP_map] at hcount

theorem length_deleteWhere_add_rowsAffected (table : Table key) (condition : Row → Bool) :
    (table.deleteWhere condition).rows.length + table.rowsAffected condition =
      table.rows.length := by
  have hlength : (table.deleteWhere condition).rows.length =
      table.rows.countP fun row => ! condition row := List.countP_eq_length_filter.symm
  rw [hlength, rowsAffected, Nat.add_comm, List.length_eq_countP_add_countP condition]
  simp

theorem rowsAffected_le_updateWhere_key_add_one [DecidableEq Key] (wanted : Key) :
    table.rowsAffected select ≤
      (table.updateWhere (key · = wanted) change hkey).rowsAffected select + 1 := by
  have hone := table.rowsAffected_key_le_one wanted
  have hothers : (table.rows.filter fun row => ! decide (key row = wanted)).countP select ≤
      (table.updateWhere (key · = wanted) change hkey).rowsAffected select := by
    unfold rowsAffected updateWhere
    rw [List.countP_map, List.countP_filter]
    refine List.countP_mono_left fun row _ hrow => ?_
    obtain ⟨hselect, hne⟩ : select row = true ∧ key row ≠ wanted := by simpa using hrow
    simpa [hne] using hselect
  calc table.rowsAffected select
      = (table.rows.filter (key · = wanted)).countP select +
          (table.rows.filter fun row => ! decide (key row = wanted)).countP select :=
        List.countP_eq_countP_filter_add ..
    _ ≤ 1 + (table.updateWhere (key · = wanted) change hkey).rowsAffected select := by
        refine Nat.add_le_add ?_ hothers
        exact List.countP_le_length.trans ((List.countP_eq_length_filter ..).symm.le.trans hone)
    _ = _ := Nat.add_comm _ _

/-- `INSERT … ON CONFLICT DO UPDATE`. -/
def upsert [DecidableEq Key] (table : Table key) (row : Row) (change : Row → Row)
    (hkey : ∀ row, key (change row) = key row) : Table key :=
  (table.insert row).getD (table.updateWhere (key · = key row) change hkey)

/-- One `DELETE` after the other, and how many of them affect a row. -/
def deleteEach (table : Table key) : List (Row → Bool) → Table key × ℕ
  | [] => (table, 0)
  | condition :: rest =>
    let (after, count) := (table.deleteWhere condition).deleteEach rest
    (after, if table.rowsAffected condition > 0 then count + 1 else count)

theorem deleteWhere_eq_self (haffected : table.rowsAffected condition = 0) :
    table.deleteWhere condition = table := by
  refine Table.ext (List.filter_eq_self.mpr fun row hrow => ?_)
  simpa using List.countP_eq_zero.mp haffected row hrow

theorem deleteEach_eq_self (hcount : (table.deleteEach conditions).2 = 0) :
    (table.deleteEach conditions).1 = table := by
  induction conditions with
  | nil => rfl
  | cons condition rest ih =>
    unfold deleteEach at hcount ⊢
    dsimp only at hcount ⊢
    split_ifs at hcount with haffected
    have hself := deleteWhere_eq_self (Nat.eq_zero_of_not_pos haffected)
    rw [hself] at hcount ⊢
    exact ih hcount

@[simp] theorem map_key_updateWhere :
    (table.updateWhere condition change hkey).rows.map key = table.rows.map key := by
  unfold updateWhere
  rw [List.map_map]
  refine List.map_congr_left fun row _ => ?_
  dsimp only [Function.comp]
  split_ifs
  · exact hkey row
  · rfl

theorem map_key_subset_updateWhere :
    table.rows.map key ⊆ (table.updateWhere condition change hkey).rows.map key := by
  rw [map_key_updateWhere]
  exact List.Subset.refl _

/-- In which order the rows are read after an `UPDATE`, which may store a row elsewhere. -/
structure Reorder (key : Row → Key) where
  rows : Table key → List Row
  perm : ∀ table, (rows table).Perm table.rows

/-- All rows stay where they were. -/
def Reorder.inPlace : Reorder key := ⟨Table.rows, fun _ => .refl _⟩

/-- The table with its rows in another order. -/
def reorder (order : Reorder key) (table : Table key) : Table key :=
  ⟨order.rows table, ((order.perm table).map key).nodup_iff.mpr table.nodup⟩

theorem map_key_subset_reorder (order : Reorder key) :
    table.rows.map key ⊆ (table.reorder order).rows.map key :=
  ((order.perm table).map key).symm.subset

theorem pairwise_filter_key [BEq Key] [LawfulBEq Key] (table : Table key) (wanted : Key) :
    (table.rows.filter (key · == wanted)).Pairwise fun _ _ => False := by
  refine ((List.pairwise_map.mp table.nodup).filter _).imp_of_mem fun hrow hother hne => hne ?_
  rw [eq_of_beq (List.mem_filter.mp hrow).2, eq_of_beq (List.mem_filter.mp hother).2]

/-- The order does not matter for the row with a key. -/
theorem filter_reorder [BEq Key] [LawfulBEq Key] (order : Reorder key) :
    (table.reorder order).rows.filter (key · == wanted) = table.rows.filter (key · == wanted) :=
  List.Perm.eq_of_pairwise (fun _ _ _ _ hfalse => hfalse.elim) (pairwise_filter_key _ wanted)
    (pairwise_filter_key table wanted) ((order.perm table).filter _)

theorem map_key_upsert [DecidableEq Key] (hmem : key row ∈ table.rows.map key) :
    (table.upsert row change hkey).rows.map key = table.rows.map key := by
  have hinsert : table.insert row = none := dif_pos hmem
  unfold upsert
  rw [hinsert]
  exact map_key_updateWhere hkey

theorem mem_map_key_upsert_iff [DecidableEq Key] :
    wanted ∈ (table.upsert row change hkey).rows.map key ↔
      wanted ∈ table.rows.map key ∨ wanted = key row := by
  by_cases hmem : key row ∈ table.rows.map key
  · rw [map_key_upsert hkey hmem]
    exact ⟨Or.inl, fun hwanted => hwanted.elim id fun heq => heq ▸ hmem⟩
  · have hrows : (table.upsert row change hkey).rows = table.rows ++ [row] := by
      simp [upsert, insert, hmem]
    rw [hrows, List.map_append, List.mem_append, List.map_singleton, List.mem_singleton]

section Upsert

variable [DecidableEq Key] {table : Table key} {row other : Row} {change : Row → Row}
  {hkey : ∀ row, key (change row) = key row}

theorem mem_upsert_of_ne (hother : other ∈ table.rows) (hne : key other ≠ key row) :
    other ∈ (table.upsert row change hkey).rows := by
  unfold upsert
  cases hinsert : table.insert row with
  | none =>
    refine List.mem_map.mpr ⟨other, hother, ?_⟩
    simp [hne]
  | some after =>
    rw [Option.getD_some, rows_of_insert hinsert]
    exact List.mem_append_left _ hother

theorem find?_upsert_of_ne {wanted : Key} (hne : wanted ≠ key row) :
    (table.upsert row change hkey).find? wanted = table.find? wanted := by
  unfold upsert
  cases hinsert : table.insert row with
  | none =>
    have hkeys : ∀ old, key (if decide (key old = key row) then change old else old) = key old := by
      intro old
      split_ifs
      · exact hkey old
      · rfl
    unfold find? updateWhere
    rw [Option.getD_none, List.find?_map]
    simp only [Function.comp_def, hkeys]
    cases hfind : table.rows.find? (key · = wanted) with
    | none => rfl
    | some old =>
      have hold : key old = wanted := by simpa using List.find?_some hfind
      rw [Option.map_some, if_neg (by simpa [hold] using hne)]
  | some after =>
    rw [Option.getD_some, find?, rows_of_insert hinsert, List.find?_append]
    simp [find?, Ne.symm hne]

theorem mem_upsert_self (hchange : ∀ other, key other = key row → change other = row) :
    row ∈ (table.upsert row change hkey).rows := by
  by_cases hmem : key row ∈ table.rows.map key
  · obtain ⟨old, hold, holdkey⟩ := List.mem_map.mp hmem
    have hinsert : table.insert row = none := dif_pos hmem
    unfold upsert
    rw [hinsert]
    refine List.mem_map.mpr ⟨old, hold, ?_⟩
    simpa [holdkey] using hchange old holdkey
  · simp [upsert, insert, hmem]

theorem upsert_eq_self (hchange : ∀ other, key other = key row → change other = row)
    (hrow : row ∈ table.rows) : table.upsert row change hkey = table := by
  have hinsert : table.insert row = none := dif_pos (List.mem_map_of_mem hrow)
  unfold upsert
  rw [hinsert]
  refine Table.ext ((List.map_congr_left fun old hold => ?_).trans (List.map_id _))
  split_ifs with hold_key
  · have holdkey : key old = key row := of_decide_eq_true hold_key
    rw [hchange old holdkey]
    exact (List.inj_on_of_nodup_map table.nodup hold hrow holdkey).symm
  · rfl

end Upsert

theorem rows_deleteEach (table : Table key) (conditions : List (Row → Bool)) :
    (table.deleteEach conditions).1.rows =
      table.rows.filter fun row => conditions.all fun condition => ! condition row := by
  induction conditions generalizing table with
  | nil => exact (List.filter_eq_self.mpr fun _ _ => rfl).symm
  | cons condition rest ih =>
    unfold deleteEach
    dsimp only
    rw [ih, deleteWhere, List.filter_filter]
    refine List.filter_congr fun row _ => ?_
    rw [List.all_cons, Bool.and_comm]

theorem mem_of_mem_deleteEach (hrow : row ∈ (table.deleteEach conditions).1.rows) :
    row ∈ table.rows := by
  induction conditions generalizing table with
  | nil => exact hrow
  | cons condition rest ih => exact List.mem_of_mem_filter (ih hrow)

/-- An update is not seen through a selection by the key, if it changes nothing that
is shown of the selected rows. -/
theorem map_filter_updateWhere {α : Type*} [BEq Key] [LawfulBEq Key] {shown : Row → α}
    (hshown : ∀ row, key row = wanted → condition row = true → shown (change row) = shown row) :
    ((table.updateWhere condition change hkey).rows.filter (key · == wanted)).map shown =
      (table.rows.filter (key · == wanted)).map shown := by
  have hselect : ∀ row, key (if condition row then change row else row) = key row := by
    intro row
    split_ifs
    · exact hkey row
    · rfl
  unfold updateWhere
  dsimp only
  rw [List.filter_map, List.map_map]
  simp only [Function.comp_def, hselect]
  refine List.map_congr_left fun row hrow => ?_
  have hwanted : key row = wanted := by simpa using (List.mem_filter.mp hrow).2
  by_cases hcondition : condition row = true
  · simp only [hcondition, if_true]
    exact hshown row hwanted hcondition
  · simp [hcondition]

/-- An update is not seen through a second one that rewrites the same rows and
discards what the first one wrote. -/
theorem updateWhere_updateWhere {second : Row → Bool} {rewrite : Row → Row}
    (hchange : ∀ row, key (change row) = key row) (hrewrite : ∀ row, key (rewrite row) = key row)
    (hcovers : ∀ row, condition row = true → second row = true)
    (hsecond : ∀ row, second (change row) = second row)
    (hdiscards : ∀ row, rewrite (change row) = rewrite row) :
    (table.updateWhere condition change hchange).updateWhere second rewrite hrewrite =
      table.updateWhere second rewrite hrewrite := by
  refine Table.ext ?_
  simp only [updateWhere, List.map_map]
  refine List.map_congr_left fun row _ => ?_
  by_cases hcondition : condition row = true
  · simp [hcondition, hsecond, hcovers row hcondition, hdiscards]
  · simp [hcondition]

end Table
