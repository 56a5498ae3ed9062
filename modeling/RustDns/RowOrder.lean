import Mathlib

/-!
# The order of rows

A query returns rows in an order of its own, or in that of a key, where rows of the same key may
come in any order.  `forall_perm_find?_iff` says when the first row that meets a condition does not
depend on the order.  `insertionSort_flatMap` sorts rows that come in blocks, each with one key: it
is enough to sort the blocks.  And `head?_insertionSort` says which row comes first: of those with
the smallest key, the first.
-/

namespace List

/-! ## Any order -/

/-- What a function shows of the first element that meets a condition does not depend on the order
if and only if the function shows the same of all such elements. -/
theorem forall_perm_find?_iff {α β : Type*} [DecidableEq α] {list : List α} {condition : α → Bool}
    {shown : α → β} {d : β} :
    (∀ other : List α, other.Perm list → ((other.find? condition).map shown).getD d =
        ((list.find? condition).map shown).getD d) ↔
      ∀ first ∈ list, ∀ second ∈ list, condition first = true → condition second = true →
        shown first = shown second := by
  constructor
  · intro hsame
    -- Any element can come first.
    have hfirst : ∀ first ∈ list, condition first = true →
        shown first = ((list.find? condition).map shown).getD d := by
      intro first hmem hcondition
      have hfront := hsame (first :: list.erase first) (perm_cons_erase hmem).symm
      rwa [find?_cons_of_pos hcondition, Option.map_some, Option.getD_some] at hfront
    intro first hmem second hmem' hcondition hcondition'
    rw [hfirst first hmem hcondition, hfirst second hmem' hcondition']
  · intro hagree other hperm
    cases hfind : list.find? condition with
    | none =>
      have hnone : other.find? condition = none := by
        rw [find?_eq_none] at hfind ⊢
        exact fun element hmem => hfind element (hperm.mem_iff.mp hmem)
      rw [hnone]
    | some first =>
      have hsome : (other.find? condition).isSome = true :=
        find?_isSome.mpr ⟨first, hperm.mem_iff.mpr (mem_of_find?_eq_some hfind), find?_some hfind⟩
      obtain ⟨second, hsecond⟩ := Option.isSome_iff_exists.mp hsome
      rw [hsecond]
      exact hagree second (hperm.mem_iff.mp (mem_of_find?_eq_some hsecond)) first
        (mem_of_find?_eq_some hfind) (find?_some hsecond) (find?_some hfind)

/-! ## The order of a key -/

theorem head?_insertionSort {α κ : Type*} [LinearOrder κ] (key : α → κ) (list : List α) :
    (list.insertionSort fun a b => key a ≤ key b).head? = list.argmin key := by
  induction list with
  | nil => rfl
  | cons first rest ih =>
    rw [argmin_cons, ← ih, insertionSort_cons]
    cases rest.insertionSort fun a b => key a ≤ key b with
    | nil => rfl
    | cons smallest others =>
      by_cases hle : key first ≤ key smallest
      · simp [orderedInsert, hle]
      · simp [orderedInsert, hle]

section Blocks

variable {α β κ : Type*} [LinearOrder κ] {key : β → κ} {blockKey : α → κ} {block : α → List β}

theorem orderedInsert_append {element : β} {front : List β} (back : List β)
    (hfront : ∀ other ∈ front, key other < key element) :
    orderedInsert (fun a b => key a ≤ key b) element (front ++ back) =
      front ++ orderedInsert (fun a b => key a ≤ key b) element back := by
  induction front with
  | nil => rfl
  | cons first rest ih =>
    obtain ⟨hfirst, hrest⟩ := forall_mem_cons.mp hfront
    rw [cons_append, orderedInsert, if_neg hfirst.not_ge, ih hrest, cons_append]

theorem foldr_orderedInsert_append {elements front : List β} (back : List β)
    (hfront : ∀ element ∈ elements, ∀ other ∈ front, key other < key element) :
    elements.foldr (orderedInsert fun a b => key a ≤ key b) (front ++ back) =
      front ++ elements.foldr (orderedInsert fun a b => key a ≤ key b) back := by
  induction elements with
  | nil => rfl
  | cons element rest ih =>
    obtain ⟨helement, hrest⟩ := forall_mem_cons.mp hfront
    rw [foldr_cons, ih hrest, orderedInsert_append _ helement, foldr_cons]

theorem foldr_orderedInsert_eq_append {elements back : List β} {k : κ}
    (helements : ∀ element ∈ elements, key element = k) (hback : ∀ other ∈ back, k ≤ key other) :
    elements.foldr (orderedInsert fun a b => key a ≤ key b) back = elements ++ back := by
  induction elements with
  | nil => rfl
  | cons element rest ih =>
    obtain ⟨helement, hrest⟩ := forall_mem_cons.mp helements
    have hall : ∀ other ∈ rest ++ back, key element ≤ key other := by
      intro other hother
      rw [helement]
      rcases mem_append.mp hother with hother | hother
      · exact (hrest other hother).ge
      · exact hback other hother
    rw [foldr_cons, ih hrest, cons_append]
    cases hlist : rest ++ back with
    | nil => rfl
    | cons next others =>
      have hnext : key element ≤ key next := hall next (by simp [hlist])
      rw [orderedInsert, if_pos hnext]

theorem insertionSort_append {r : β → β → Prop} [DecidableRel r] (front back : List β) :
    (front ++ back).insertionSort r = front.foldr (orderedInsert r) (back.insertionSort r) := by
  induction front with
  | nil => rfl
  | cons first rest ih => rw [cons_append, insertionSort_cons, ih, foldr_cons]

theorem foldr_orderedInsert_flatMap (hblock : ∀ a, ∀ element ∈ block a, key element = blockKey a)
    (a : α) {sorted : List α} (hsorted : sorted.Pairwise fun a b => blockKey a ≤ blockKey b) :
    (block a).foldr (orderedInsert fun a b => key a ≤ key b) (sorted.flatMap block) =
      (orderedInsert (fun a b => blockKey a ≤ blockKey b) a sorted).flatMap block := by
  induction sorted with
  | nil => exact foldr_orderedInsert_eq_append (hblock a) (by simp)
  | cons first rest ih =>
    obtain ⟨hfirst, hrest⟩ := pairwise_cons.mp hsorted
    rw [orderedInsert]
    split_ifs with hle
    · -- all blocks that are there have no smaller key
      refine foldr_orderedInsert_eq_append (hblock a) fun other hother => ?_
      obtain ⟨b, hb, hother⟩ := mem_flatMap.mp hother
      rw [hblock b other hother]
      rcases mem_cons.mp hb with rfl | hb
      · exact hle
      · exact hle.trans (hfirst b hb)
    · have hlt : ∀ element ∈ block a, ∀ other ∈ block first, key other < key element := by
        intro element helement other hother
        rw [hblock a element helement, hblock first other hother]
        exact not_le.mp hle
      rw [flatMap_cons, foldr_orderedInsert_append _ hlt, ih hrest, flatMap_cons]

theorem insertionSort_flatMap (key : β → κ) (blockKey : α → κ) (block : α → List β)
    (hblock : ∀ a, ∀ element ∈ block a, key element = blockKey a) (blocks : List α) :
    (blocks.flatMap block).insertionSort (fun a b => key a ≤ key b) =
      (blocks.insertionSort fun a b => blockKey a ≤ blockKey b).flatMap block := by
  induction blocks with
  | nil => rfl
  | cons a rest ih =>
    rw [flatMap_cons, insertionSort_append, ih, insertionSort_cons]
    exact foldr_orderedInsert_flatMap hblock a (pairwise_insertionSort _ rest)

end Blocks

end List
