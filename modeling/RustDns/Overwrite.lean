import Mathlib

/-!
# Maps filled by overwriting

A map is filled from a list of pairs, and a pair replaces what its key had before.  So of the pairs
with one key only the last survives (`collect_eq_survivors`).  A sum over the map is never larger
than the sum over the list, and it is equal only if every pair that was replaced weighs nothing
(`sum_collect_eq_iff`).
-/

namespace Overwrite

variable {κ ν : Type*} [DecidableEq κ]

def insert (entries : List (κ × ν)) (pair : κ × ν) : List (κ × ν) :=
  entries.filter (·.1 ≠ pair.1) ++ [pair]

def collect (pairs : List (κ × ν)) : List (κ × ν) := pairs.foldl insert []

def survivors : List (κ × ν) → List (κ × ν)
  | [] => []
  | pair :: rest => if pair.1 ∈ rest.map (·.1) then survivors rest else pair :: survivors rest

variable (weight : κ × ν → ℕ) (pairs : List (κ × ν))

theorem foldl_insert (entries : List (κ × ν)) :
    pairs.foldl insert entries = entries.filter (·.1 ∉ pairs.map (·.1)) ++ survivors pairs := by
  induction pairs generalizing entries with
  | nil => simp [survivors]
  | cons pair rest ih =>
    have hentries : (entries.filter (·.1 ≠ pair.1)).filter (·.1 ∉ rest.map (·.1)) =
        entries.filter (·.1 ∉ (pair :: rest).map (·.1)) := by
      rw [List.filter_filter]
      apply List.filter_congr
      intro entry _
      rw [List.map_cons]
      by_cases hkey : entry.1 = pair.1
      · simp [hkey]
      · simp [hkey]
    rw [List.foldl_cons, ih, insert, List.filter_append, hentries, survivors, List.append_assoc]
    by_cases hlater : pair.1 ∈ rest.map (·.1)
    · simp [hlater]
    · simp [hlater]

theorem collect_eq_survivors : collect pairs = survivors pairs := by
  rw [collect, foldl_insert, List.filter_nil, List.nil_append]

theorem sum_survivors_le : ((survivors pairs).map weight).sum ≤ (pairs.map weight).sum := by
  induction pairs with
  | nil => exact le_rfl
  | cons pair rest ih =>
    rw [survivors, List.map_cons, List.sum_cons]
    split_ifs
    · exact ih.trans (Nat.le_add_left _ _)
    · rw [List.map_cons, List.sum_cons]
      exact Nat.add_le_add_left ih _

/-- **The sum over the map is the sum over the list** if and only if no pair that weighs something
is replaced. -/
theorem sum_collect_eq_iff :
    ((collect pairs).map weight).sum = (pairs.map weight).sum ↔
      pairs.Pairwise fun earlier later => earlier.1 = later.1 → weight earlier = 0 := by
  rw [collect_eq_survivors]
  induction pairs with
  | nil => simp [survivors]
  | cons pair rest ih =>
    have hle := sum_survivors_le weight rest
    rw [List.pairwise_cons, ← ih, survivors, List.map_cons, List.sum_cons]
    split_ifs with hlater
    · obtain ⟨later, hmem, hkey⟩ := List.mem_map.mp hlater
      constructor
      · intro hsum
        exact ⟨fun _ _ _ => by omega, by omega⟩
      · rintro ⟨hnothing, hsum⟩
        have hpair := hnothing later hmem hkey.symm
        omega
    · rw [List.map_cons, List.sum_cons, Nat.add_left_cancel_iff, iff_and_self]
      intro _ later hmem hkey
      exact absurd (List.mem_map.mpr ⟨later, hmem, hkey.symm⟩) hlater

end Overwrite
