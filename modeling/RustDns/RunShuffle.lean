import Mathlib

/-!
# Shuffling the runs of a list

A loop walks over a list by index.  It looks for the end of the run of equal keys that begins at the
index, shuffles that part of the list in place, puts it out and goes on behind it.  The loop ends,
since a run is never empty, and what it puts out are the runs of the list, each shuffled by itself
(`loop_eq`).  So the keys stay where they are (`map_key_flatten`).
-/

namespace RunShuffle

variable {α κ : Type*} [DecidableEq κ] (key : α → κ) (shuffle : ℕ → List α → List α)

/-! ## The loop -/

def slice (items : List α) (start stop : ℕ) : List α := (items.take stop).drop start

/-- The variables of the loop: the list, what has been put out, the index, and how many shuffles
there have been. -/
structure State (α : Type*) where
  items : List α
  result : List α
  index : ℕ
  turn : ℕ

def groupEnd (items : List α) (index : ℕ) (hindex : index < items.length) : ℕ :=
  let current := key (items.get ⟨index, hindex⟩)
  (((items.drop index).findIdx? fun item => key item != current).map (index + ·)).getD items.length

def next (state : State α) (hindex : state.index < state.items.length) : State α :=
  let stop := groupEnd key state.items state.index hindex
  let items := state.items.take state.index ++
    shuffle state.turn (slice state.items state.index stop) ++ state.items.drop stop
  ⟨items, state.result ++ slice items state.index stop, stop, state.turn + 1⟩

/-- The loop, unless it takes more rounds than the bound. -/
def loop : ℕ → State α → Option (List α)
  | 0, _ => none
  | fuel + 1, state =>
    if hindex : state.index < state.items.length then loop fuel (next key shuffle state hindex)
    else some state.result

/-! ## The runs -/

def runs (items : List α) : List (List α) := items.splitBy fun a b => key a == key b

theorem runs_cons (first : α) (rest : List α) :
    let sameKey := fun item => key item == key first
    runs key (first :: rest) =
      (first :: rest).takeWhile sameKey :: runs key ((first :: rest).dropWhile sameKey) := by
  intro sameKey
  have hkeys : ∀ item ∈ (first :: rest).takeWhile sameKey, key item = key first := by
    intro item hitem
    have hsame : sameKey item = true := List.mem_takeWhile_imp hitem
    exact beq_iff_eq.mp hsame
  have hne : (first :: rest).takeWhile sameKey ≠ [] := by simp [sameKey]
  have hchain : ((first :: rest).takeWhile sameKey).IsChain fun a b => (key a == key b) = true := by
    apply List.Pairwise.isChain
    apply List.pairwise_of_forall_mem_list
    intro a ha b hb
    rw [beq_iff_eq, hkeys a ha, hkeys b hb]
  conv_lhs => rw [runs, ← List.takeWhile_append_dropWhile (p := sameKey) (l := first :: rest)]
  rw [List.splitBy_append, List.splitBy_of_isChain hne hchain]
  · rfl
  · intro last hlast after hafter
    have hlast : key last = key first := hkeys last (List.mem_of_mem_getLast? hlast)
    have hafter' := List.head?_dropWhile_not sameKey (first :: rest)
    rw [hafter] at hafter'
    rw [hlast, beq_eq_false_iff_ne]
    intro hkey
    simp [sameKey, hkey] at hafter'

theorem key_eq_of_mem_runs {items part : List α} (hpart : part ∈ runs key items) {a b : α}
    (ha : a ∈ part) (hb : b ∈ part) : key a = key b := by
  have hchain : part.IsChain fun a b => key a = key b :=
    (List.isChain_of_mem_splitBy hpart).imp fun _ _ => beq_iff_eq.mp
  have : IsTrans α fun a b => key a = key b := ⟨fun _ _ _ => Eq.trans⟩
  have : Std.Symm fun a b : α => key a = key b := ⟨fun _ _ => Eq.symm⟩
  have hpairwise := List.isChain_iff_pairwise.mp hchain
  exact List.Pairwise.forall_of_forall (R := fun a b => key a = key b) (fun _ _ => rfl) hpairwise
    ha hb

theorem map_key_flatten (hperm : ∀ turn part, (shuffle turn part).Perm part) (items : List α) :
    (((runs key items).mapIdx shuffle).flatten).map key = items.map key := by
  suffices hparts : ∀ parts : List (List α), (∀ part ∈ parts, part ∈ runs key items) →
      ∀ shuffle : ℕ → List α → List α, (∀ turn part, (shuffle turn part).Perm part) →
        ((parts.mapIdx shuffle).flatten).map key = parts.flatten.map key by
    rw [hparts _ (fun _ => id) shuffle hperm, runs, List.flatten_splitBy]
  intro parts hparts
  induction parts with
  | nil => intros; rfl
  | cons part rest ih =>
    intro shuffle hperm
    rw [List.forall_mem_cons] at hparts
    have hrest := ih hparts.2 (fun turn => shuffle (turn + 1)) fun turn => hperm (turn + 1)
    have hpart : (shuffle 0 part).map key = part.map key := by
      cases part with
      | nil => rw [(hperm 0 []).eq_nil]
      | cons first others =>
        have hconst : (first :: others).map key =
            List.replicate (first :: others).length (key first) := by
          refine List.eq_replicate_iff.mpr ⟨List.length_map _, ?_⟩
          intro k hk
          obtain ⟨item, hitem, rfl⟩ := List.mem_map.mp hk
          exact key_eq_of_mem_runs key hparts.1 hitem List.mem_cons_self
        have hmap := (hperm 0 (first :: others)).map key
        rw [hconst] at hmap ⊢
        exact List.perm_replicate.mp hmap
    rw [List.mapIdx_cons, List.flatten_cons, List.flatten_cons, List.map_append, List.map_append,
      hpart, hrest]

/-! ## What the loop puts out -/

omit [DecidableEq κ] in
theorem slice_append (before part after : List α) :
    slice (before ++ part ++ after) before.length (before.length + part.length) = part := by
  rw [slice, ← List.length_append, List.take_left, List.drop_left]

theorem groupEnd_append (before : List α) (first : α) (rest : List α) (hindex) :
    groupEnd key (before ++ first :: rest) before.length hindex =
      before.length + ((first :: rest).takeWhile fun item => key item == key first).length := by
  have hget : (before ++ first :: rest).get ⟨before.length, hindex⟩ = first := by simp
  have hfind : ((first :: rest).takeWhile fun item => key item == key first).length =
      (first :: rest).findIdx fun item => key item != key first := by
    rw [List.takeWhile_eq_take_findIdx_not, List.length_take, min_eq_left List.findIdx_le_length]
    rfl
  rw [groupEnd, hget, List.drop_left, hfind, List.findIdx_eq_getD_findIdx?, List.length_append]
  cases (first :: rest).findIdx? fun item => key item != key first <;> rfl

theorem next_append (hperm : ∀ turn part, (shuffle turn part).Perm part) (before result : List α)
    (turn : ℕ) (first : α) (rest : List α) (hindex) :
    let sameKey := fun item => key item == key first
    let part := shuffle turn ((first :: rest).takeWhile sameKey)
    next key shuffle ⟨before ++ first :: rest, result, before.length, turn⟩ hindex =
      ⟨(before ++ part) ++ (first :: rest).dropWhile sameKey, result ++ part,
        (before ++ part).length, turn + 1⟩ := by
  intro sameKey part
  have hlength : part.length = ((first :: rest).takeWhile sameKey).length := (hperm _ _).length_eq
  have hsplit : before ++ first :: rest =
      before ++ (first :: rest).takeWhile sameKey ++ (first :: rest).dropWhile sameKey := by
    rw [List.append_assoc, List.takeWhile_append_dropWhile]
  have hslice : slice (before ++ first :: rest) before.length (before.length + part.length) =
      (first :: rest).takeWhile sameKey := by
    rw [hsplit, hlength, slice_append]
  have hdrop : (before ++ first :: rest).drop (before.length + part.length) =
      (first :: rest).dropWhile sameKey := by
    rw [hsplit, hlength, ← List.length_append, List.drop_left]
  have hstop := groupEnd_append key before first rest hindex
  rw [← hlength] at hstop
  simp only [next, hstop, hslice, hdrop, List.take_left]
  rw [slice_append, List.length_append]

theorem loop_eq (hperm : ∀ turn part, (shuffle turn part).Perm part) (items before result : List α)
    (turn : ℕ) {fuel : ℕ} (hfuel : items.length < fuel) :
    loop key shuffle fuel ⟨before ++ items, result, before.length, turn⟩ =
      some (result ++ ((runs key items).mapIdx fun i => shuffle (turn + i)).flatten) := by
  -- every round takes at least the item at the index off what is left
  induction fuel generalizing items before result turn with
  | zero => omega
  | succ fuel ih =>
    cases items with
    | nil => simp [loop, runs]
    | cons first rest =>
      have hindex : before.length < (before ++ first :: rest).length := by simp
      have hrest : ((first :: rest).dropWhile fun item => key item == key first).length < fuel := by
        have hdrop := List.length_dropWhile_le (fun item => key item == key first) rest
        rw [List.dropWhile_cons, beq_self_eq_true, if_pos rfl]
        rw [List.length_cons] at hfuel
        omega
      have hturn : (fun i => shuffle (turn + 1 + i)) = fun i => shuffle (turn + (i + 1)) := by
        funext i
        rw [Nat.add_right_comm, Nat.add_assoc]
      rw [loop, dif_pos hindex, next_append key shuffle hperm, ih _ _ _ _ hrest, runs_cons,
        List.mapIdx_cons, List.flatten_cons, hturn, List.append_assoc, Nat.add_zero]

end RunShuffle
