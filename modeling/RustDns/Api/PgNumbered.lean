import RustDns.Loops
import RustDns.Api.QueryLogAdvanced

/-!
# Numbering the placeholders of a statement

`pg_numbered` stands four times in the handlers.  Its loop looks for a question mark, replaces it by
a dollar sign and the next number, and looks again in the text that it has just changed.

What a round writes has no question mark, so every round leaves one fewer, and what is still to be
numbered is the same as before (`Placeholders.number_first`).  Therefore the loop is left, with all
question marks numbered from the left (`numbers_pgNumbered`).
-/

namespace RustDns.Api

open Text Placeholders

/-! ## The loop -/

/-- A round of `pg_numbered`, for the text and the last number: `result.find('?')` and
`result.replace_range(pos..pos + 1, …)`. -/
def replaceFirstMark (state : Str × ℕ) : Option (Str × ℕ) :=
  (state.1.idxOf? '?').map fun pos =>
    (state.1.take pos ++ '$' :: Decimal.showNat (state.2 + 1) ++ state.1.drop (pos + 1),
      state.2 + 1)

/-- The loop of `pg_numbered`, left after so many rounds at most. -/
def pgNumberedLoop (rounds : ℕ) (sql : Str) : Option Str :=
  (Loops.run replaceFirstMark rounds (sql, 0)).map Prod.fst

/-- `pg_numbered` in `query_log_advanced.rs`. -/
def QueryLogAdvanced.pgNumberedWithin (rounds : ℕ) (sql : Str) : Option Str :=
  pgNumberedLoop rounds sql

/-- `pg_numbered` in `rules.rs`. -/
def Rules.pgNumberedWithin (rounds : ℕ) (sql : Str) : Option Str := pgNumberedLoop rounds sql

/-- `pg_numbered` in `query_log.rs`. -/
def QueryLog.pgNumberedWithin (rounds : ℕ) (sql : Str) : Option Str := pgNumberedLoop rounds sql

/-- `pg_numbered` in `audit_log.rs`. -/
def AuditLog.pgNumberedWithin (rounds : ℕ) (sql : Str) : Option Str := pgNumberedLoop rounds sql

/-! ## What it is for -/

/-- The text with the `i`-th question mark replaced by a dollar sign and `i`; the number of a
question mark is how many there are up to it. -/
def numberedMarks (sql : Str) : Str :=
  (sql.mapIdx fun i c =>
    if c = '?' then str "$" ++ Decimal.showNat ((sql.take (i + 1)).count '?') else [c]).flatten

/-- The loop is left after some rounds, however many more it is given, with this result. -/
def Numbers (loop : ℕ → Str → Option Str) (sql : Str) : Prop :=
  ∃ enough, ∀ rounds, enough ≤ rounds → loop rounds sql = some (numberedMarks sql)

theorem number_eq_numberedMarks (sql : Str) : number 0 sql = numberedMarks sql := by
  rw [number_eq_flatten]
  simp only [Nat.zero_add]
  rfl

/-! ## A round, and the whole loop -/

variable {state next : Str × ℕ}

theorem replaceFirstMark_eq_some (hround : replaceFirstMark state = some next) :
    ∃ before after, '?' ∉ before ∧ state.1 = before ++ '?' :: after ∧
      next = (before ++ '$' :: Decimal.showNat (state.2 + 1) ++ after, state.2 + 1) := by
  obtain ⟨pos, hpos, rfl⟩ := Option.map_eq_some_iff.mp hround
  obtain ⟨hlt, hmark, hfirst⟩ := List.idxOf?_eq_some_iff.mp hpos
  refine ⟨state.1.take pos, state.1.drop (pos + 1), ?_, ?_, rfl⟩
  · intro hmem
    obtain ⟨j, hj, hget⟩ := List.getElem_of_mem hmem
    rw [List.length_take] at hj
    rw [List.getElem_take] at hget
    exact hfirst j (by omega) hget
  · rw [← hmark, List.cons_getElem_drop_succ, List.take_append_drop]

theorem number_replaceFirstMark (hround : replaceFirstMark state = some next) :
    number next.2 next.1 = number state.2 state.1 ∧ next.1.count '?' < state.1.count '?' := by
  obtain ⟨before, after, hbefore, hstate, rfl⟩ := replaceFirstMark_eq_some hround
  have hcount := count_first before (state.2 + 1) after
  rw [hstate]
  exact ⟨number_first hbefore state.2 after, by dsimp only; omega⟩

theorem replaceFirstMark_eq_none (hround : replaceFirstMark state = none) : '?' ∉ state.1 :=
  List.idxOf?_eq_none_iff.mp (Option.map_eq_none_iff.mp hround)

theorem pgNumberedLoop_eq {sql : Str} {rounds : ℕ} (hrounds : sql.count '?' ≤ rounds) :
    pgNumberedLoop rounds sql = some (numberedMarks sql) := by
  obtain ⟨last, hrun, hleft, hlast⟩ := Loops.exists_run replaceFirstMark
    (fun state => state.1.count '?') (fun state => number state.2 state.1 = number 0 sql)
    (fun state next hstate hround =>
      ⟨(number_replaceFirstMark hround).1.trans hstate, (number_replaceFirstMark hround).2⟩)
    rounds (sql, 0) rfl hrounds
  rw [number_eq_self (replaceFirstMark_eq_none hleft)] at hlast
  rw [pgNumberedLoop, hrun, Option.map_some, hlast, number_eq_numberedMarks]

/-- The text that the statements of the advanced queries are made of is the one that the loop
returns. -/
theorem pgNumberedLoop_eq_pgNumbered (sql : Str) :
    pgNumberedLoop (sql.count '?') sql = some (QueryLogAdvanced.pgNumbered sql) := by
  rw [pgNumberedLoop_eq le_rfl, QueryLogAdvanced.pgNumbered_eq, number_eq_numberedMarks]

/-- All four copies of `pg_numbered` terminate on every text and number its question marks. -/
theorem numbers_pgNumbered (sql : Str) :
    Numbers QueryLogAdvanced.pgNumberedWithin sql ∧ Numbers Rules.pgNumberedWithin sql ∧
      Numbers QueryLog.pgNumberedWithin sql ∧ Numbers AuditLog.pgNumberedWithin sql := by
  have hloop : Numbers pgNumberedLoop sql := ⟨sql.count '?', fun _ => pgNumberedLoop_eq⟩
  exact ⟨hloop, hloop, hloop, hloop⟩

end RustDns.Api
