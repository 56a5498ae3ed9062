import RustDns.TextPieces

/-!
# Slices of a text

A Rust string is sliced at byte positions.  A position that is beyond the end or
inside a character makes the slice panic, which is `none` here.  `find` and
`rfind` return positions at which a character begins, and the lemmas say what the
slices at such a position are.
-/

namespace RustDns.Text

/-- `str::find`: the position at which a character stands first. -/
def find (c : Char) : Str → Option ℕ
  | [] => none
  | d :: rest => if d = c then some 0 else (find c rest).map (d.utf8Size + ·)

/-- `str::rfind`: the position at which a character stands last. -/
def rfind (c : Char) : Str → Option ℕ
  | [] => none
  | d :: rest =>
    match rfind c rest with
    | some position => some (d.utf8Size + position)
    | none => if d = c then some 0 else none

def splitAt (position : ℕ) : Str → Option (Str × Str)
  | [] => if position = 0 then some ([], []) else none
  | c :: rest =>
    if position = 0 then some ([], c :: rest)
    else if c.utf8Size ≤ position then
      (splitAt (position - c.utf8Size) rest).map fun parts => (c :: parts.1, parts.2)
    else none

/-- `&s[..stop]`. -/
def sliceTo (s : Str) (stop : ℕ) : Option Str := (splitAt stop s).map Prod.fst

/-- `&s[start..]`. -/
def sliceFrom (s : Str) (start : ℕ) : Option Str := (splitAt start s).map Prod.snd

/-- `&s[start..stop]`. -/
def slice (s : Str) (start stop : ℕ) : Option Str := (sliceTo s stop).bind (sliceFrom · start)

/-! ## Slices between the parts of a text -/

theorem len_cons (c : Char) (s : Str) : len (c :: s) = c.utf8Size + len s := by simp [len]

variable (front back : Str)

theorem splitAt_append : splitAt (len front) (front ++ back) = some (front, back) := by
  induction front with
  | nil => cases back <;> rfl
  | cons c front ih =>
    have hpos := Char.utf8Size_pos c
    rw [List.cons_append, len_cons, splitAt, if_neg (by omega), if_pos (by omega),
      Nat.add_sub_cancel_left, ih]
    rfl

theorem sliceTo_append : sliceTo (front ++ back) (len front) = some front := by
  rw [sliceTo, splitAt_append]
  rfl

theorem sliceFrom_append : sliceFrom (front ++ back) (len front) = some back := by
  rw [sliceFrom, splitAt_append]
  rfl

theorem sliceFrom_append_cons (c : Char) (back : Str) :
    sliceFrom (front ++ c :: back) (len front + c.utf8Size) = some back := by
  have hsplit := sliceFrom_append (front ++ [c]) back
  rwa [List.append_assoc, List.singleton_append, len_append, len_cons] at hsplit

theorem slice_append (middle back : Str) :
    slice (front ++ middle ++ back) (len front) (len front + len middle) = some middle := by
  rw [slice, ← len_append, sliceTo_append, Option.bind_some, sliceFrom_append]

/-! ## The positions of a character -/

variable {c : Char} {s : Str} {position : ℕ}

theorem find_eq_none : find c s = none ↔ c ∉ s := by
  induction s with
  | nil => simp [find]
  | cons d rest ih =>
    rw [find, List.mem_cons]
    split_ifs with heq
    · simp [heq]
    · simp [ih, Ne.symm heq]

theorem eq_len_of_find (hfind : find c s = some position) : position = len (splitNext c s) := by
  induction s generalizing position with
  | nil => cases hfind
  | cons d rest ih =>
    rw [find] at hfind
    split_ifs at hfind with heq
    · cases hfind
      simp [splitNext, heq, len]
    · obtain ⟨later, hlater, rfl⟩ := Option.map_eq_some_iff.mp hfind
      have hnext : splitNext c (d :: rest) = d :: splitNext c rest := by simp [splitNext, heq]
      rw [hnext, len_cons, ih hlater]

theorem splitNext_append_dropWhile (c : Char) (s : Str) :
    splitNext c s ++ s.dropWhile (· != c) = s := List.takeWhile_append_dropWhile

theorem sliceTo_of_find (hfind : find c s = some position) :
    sliceTo s position = some (splitNext c s) := by
  have hslice := sliceTo_append (splitNext c s) (s.dropWhile (· != c))
  rwa [splitNext_append_dropWhile, ← eq_len_of_find hfind] at hslice

theorem sliceFrom_of_find (hfind : find c s = some position) :
    sliceFrom s position = some (s.dropWhile (· != c)) := by
  have hslice := sliceFrom_append (splitNext c s) (s.dropWhile (· != c))
  rwa [splitNext_append_dropWhile, ← eq_len_of_find hfind] at hslice

theorem rfind_eq_none : rfind c s = none ↔ c ∉ s := by
  induction s with
  | nil => simp [rfind]
  | cons d rest ih =>
    rw [rfind, List.mem_cons]
    cases hrest : rfind c rest with
    | some position =>
      have hmem : c ∈ rest := by
        by_contra hnot
        rw [ih.mpr hnot] at hrest
        cases hrest
      simp [hmem]
    | none =>
      have hnot := ih.mp hrest
      by_cases heq : d = c
      · simp [heq]
      · simp [heq, hnot, Ne.symm heq]

theorem exists_append_of_rfind (hfind : rfind c s = some position) :
    ∃ front back, s = front ++ c :: back ∧ c ∉ back ∧ position = len front := by
  induction s generalizing position with
  | nil => cases hfind
  | cons d rest ih =>
    rw [rfind] at hfind
    cases hrest : rfind c rest with
    | some later =>
      rw [hrest] at hfind
      cases hfind
      obtain ⟨front, back, rfl, hback, rfl⟩ := ih hrest
      exact ⟨d :: front, back, rfl, hback, (len_cons d front).symm⟩
    | none =>
      rw [hrest] at hfind
      dsimp only at hfind
      split_ifs at hfind with heq
      cases hfind
      exact ⟨[], rest, by rw [heq, List.nil_append], rfind_eq_none.mp hrest, rfl⟩

end RustDns.Text
