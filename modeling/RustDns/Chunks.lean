import Mathlib

/-!
# Chunks

A list is cut into chunks of one size, of which only the last may be shorter.  The chunks together
are the list again (`flatten_chunks`), and none is empty or larger than the size.  The values of the
rows of a chunk, one row after the other, are found by row and column (`getElem?_flatMap_of_width`).
-/

namespace Chunks

variable {α : Type}

def chunksRounds (size : ℕ) : (rounds : ℕ) → List α → List (List α)
  | 0, _ => []
  | rounds + 1, items =>
    if items.isEmpty then [] else items.take size :: chunksRounds size rounds (items.drop size)

def chunks (size : ℕ) (items : List α) : List (List α) := chunksRounds size items.length items

section Size

variable {size : ℕ} (hsize : 0 < size)

include hsize

variable {items chunk : List α}

theorem flatten_chunksRounds {rounds : ℕ} (hrounds : items.length ≤ rounds) :
    (chunksRounds size rounds items).flatten = items := by
  induction rounds generalizing items with
  | zero =>
    rw [List.length_eq_zero_iff.mp (Nat.le_zero.mp hrounds)]
    rfl
  | succ rounds ih =>
    rw [chunksRounds]
    split_ifs with hitems
    · rw [List.isEmpty_iff.mp hitems]
      rfl
    · have hpos := List.length_pos_iff.mpr (List.isEmpty_iff.not.mp hitems)
      rw [List.flatten_cons, ih (by rw [List.length_drop]; omega), List.take_append_drop]

theorem flatten_chunks (items : List α) : (chunks size items).flatten = items :=
  flatten_chunksRounds hsize le_rfl

omit hsize in
theorem length_le_of_mem_chunks (hchunk : chunk ∈ chunks size items) : chunk.length ≤ size := by
  unfold chunks at hchunk
  generalize items.length = rounds at hchunk
  induction rounds generalizing items with
  | zero => cases hchunk
  | succ rounds ih =>
    rw [chunksRounds] at hchunk
    split_ifs at hchunk
    · cases hchunk
    · rcases List.mem_cons.mp hchunk with rfl | hchunk
      · exact List.length_take_le _ _
      · exact ih hchunk

theorem ne_nil_of_mem_chunks (hchunk : chunk ∈ chunks size items) : chunk ≠ [] := by
  unfold chunks at hchunk
  generalize items.length = rounds at hchunk
  induction rounds generalizing items with
  | zero => cases hchunk
  | succ rounds ih =>
    rw [chunksRounds] at hchunk
    split_ifs at hchunk with hitems
    · cases hchunk
    · rcases List.mem_cons.mp hchunk with rfl | hchunk
      · have hpos := List.length_pos_iff.mpr (List.isEmpty_iff.not.mp hitems)
        rw [← List.length_pos_iff, List.length_take]
        omega
      · exact ih hchunk

end Size

/-! ## Rows of one width -/

section Rows

variable {β : Type} {values : α → List β} {width : ℕ} (hwidth : ∀ row, (values row).length = width)

include hwidth

theorem length_flatMap_of_width (rows : List α) :
    (rows.flatMap values).length = rows.length * width := by
  induction rows with
  | nil => exact (Nat.zero_mul width).symm
  | cons row rows ih =>
    rw [List.flatMap_cons, List.length_append, hwidth, ih, List.length_cons, Nat.add_mul,
      Nat.one_mul, Nat.add_comm]

theorem getElem?_flatMap_of_width (rows : List α) {row column : ℕ} (hcolumn : column < width) :
    (rows.flatMap values)[row * width + column]? =
      rows[row]?.bind fun element => (values element)[column]? := by
  induction rows generalizing row with
  | nil => rfl
  | cons first rows ih =>
    rw [List.flatMap_cons]
    cases row with
    | zero =>
      rw [Nat.zero_mul, Nat.zero_add, List.getElem?_append_left (by rw [hwidth]; exact hcolumn)]
      rfl
    | succ row =>
      have hplace : (row + 1) * width + column = width + (row * width + column) := by
        rw [Nat.add_mul, Nat.one_mul]
        omega
      rw [hplace, List.getElem?_append_right (by rw [hwidth]; omega), hwidth,
        Nat.add_sub_cancel_left, ih, List.getElem?_cons_succ]

end Rows

end Chunks
