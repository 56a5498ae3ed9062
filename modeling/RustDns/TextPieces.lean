import RustDns.Text

/-!
# More operations on strings

The parts of `str` that the validators and the health probes use beyond those of
`Text.lean`: a marker that is taken off the front as often as it stands there,
the parts around the last of a character, and how trimming at the two ends
interacts.
-/

namespace RustDns

namespace Text

/-! ## A marker at the front -/

/-- Take `start` off the front, at most `rounds` times. -/
def trimStartRounds (start : Str) : (rounds : ℕ) → Str → Str
  | 0, s => s
  | rounds + 1, s =>
    match stripPrefix start s with
    | some rest => trimStartRounds start rounds rest
    | none => s

/-- `str::trim_start_matches` with a string that is not empty.  Every round takes
off a character at least. -/
def trimStartMatches (start s : Str) : Str := trimStartRounds start s.length s

variable {start s : Str} {p : Char → Bool} {c : Char}

theorem stripPrefix_eq_none_iff : stripPrefix start s = none ↔ startsWith start s = false := by
  rw [← Bool.not_eq_true, startsWith, List.isPrefixOf_iff_prefix,
    List.prefix_iff_exists_eq_append, Option.eq_none_iff_forall_ne_some]
  simp [stripPrefix_eq_some]

theorem trimStartRounds_of_not_startsWith (hstart : startsWith start s = false) (rounds : ℕ) :
    trimStartRounds start rounds s = s := by
  cases rounds with
  | zero => rfl
  | succ rounds => rw [trimStartRounds, stripPrefix_eq_none_iff.mpr hstart]

theorem trimStartMatches_of_not_startsWith (hstart : startsWith start s = false) :
    trimStartMatches start s = s :=
  trimStartRounds_of_not_startsWith hstart _

theorem trimStartRounds_eq_of_le (hne : start ≠ []) {fuel : ℕ} :
    ∀ {more : ℕ} {s : Str}, s.length ≤ fuel → fuel ≤ more →
      trimStartRounds start more s = trimStartRounds start fuel s := by
  have hpos : 0 < start.length := List.length_pos_iff.mpr hne
  induction fuel with
  | zero =>
    intro more s hs _
    obtain rfl : s = [] := List.length_eq_zero_iff.mp (Nat.le_zero.mp hs)
    have hnone : startsWith start [] = false := by
      cases start with
      | nil => exact absurd rfl hne
      | cons c front => rfl
    rw [trimStartRounds_of_not_startsWith hnone, trimStartRounds_of_not_startsWith hnone]
  | succ fuel ih =>
    intro more s hs hmore
    obtain ⟨more, rfl⟩ : ∃ n, more = n + 1 := ⟨more - 1, by omega⟩
    rw [trimStartRounds, trimStartRounds]
    cases hstrip : stripPrefix start s with
    | none => rfl
    | some rest =>
      have hlength : s.length = start.length + rest.length := by
        rw [stripPrefix_eq_some.mp hstrip, List.length_append]
      exact ih (by omega) (by omega)

theorem trimStartMatches_append (hne : start ≠ []) (rest : Str) :
    trimStartMatches start (start ++ rest) = trimStartMatches start rest := by
  have hpos : 0 < start.length := List.length_pos_iff.mpr hne
  have hstrip : stripPrefix start (start ++ rest) = some rest := stripPrefix_eq_some.mpr rfl
  unfold trimStartMatches
  obtain ⟨rounds, hrounds⟩ : ∃ n, (start ++ rest).length = n + 1 :=
    ⟨(start ++ rest).length - 1, by rw [List.length_append]; omega⟩
  have hle : rest.length ≤ rounds := by
    rw [List.length_append] at hrounds
    omega
  rw [hrounds, trimStartRounds, hstrip]
  exact trimStartRounds_eq_of_le hne le_rfl hle

theorem exists_trimStartRounds (start : Str) (rounds : ℕ) (s : Str) :
    ∃ front, s = front ++ trimStartRounds start rounds s ∧ ∀ c ∈ front, c ∈ start := by
  induction rounds generalizing s with
  | zero => exact ⟨[], rfl, by simp⟩
  | succ rounds ih =>
    rw [trimStartRounds]
    cases hstrip : stripPrefix start s with
    | none => exact ⟨[], rfl, by simp⟩
    | some rest =>
      obtain ⟨front, hrest, hfront⟩ := ih rest
      refine ⟨start ++ front, ?_, ?_⟩
      · rw [List.append_assoc, ← hrest]
        exact stripPrefix_eq_some.mp hstrip
      · intro c hc
        exact (List.mem_append.mp hc).elim id (hfront c)

/-! ## Trimming at both ends -/

theorem rdropWhile_cons_of_neg (hc : p c = false) (s : Str) :
    (c :: s).rdropWhile p = c :: s.rdropWhile p := by
  induction s using List.reverseRecOn with
  | nil => simp [List.rdropWhile_singleton, hc]
  | append_singleton front d ih =>
    rw [← List.cons_append, List.rdropWhile_concat, List.rdropWhile_concat]
    split_ifs
    · exact ih
    · rfl

variable {q : Char → Bool} {tail back : Str}

theorem dropWhile_rdropWhile (hdisjoint : ∀ c, p c = true → q c = false) (s : Str) :
    (s.rdropWhile q).dropWhile p = (s.dropWhile p).rdropWhile q := by
  induction s with
  | nil => rfl
  | cons c rest ih =>
    by_cases hc : p c = true
    · rw [rdropWhile_cons_of_neg (hdisjoint c hc), List.dropWhile_cons_of_pos hc,
        List.dropWhile_cons_of_pos hc, ih]
    · rw [List.dropWhile_cons_of_neg hc]
      -- what is left of the end begins with the same character, if with any
      obtain ⟨tail, htail⟩ : (c :: rest).rdropWhile q <+: c :: rest := List.rdropWhile_prefix _ _
      cases hleft : (c :: rest).rdropWhile q with
      | nil => rfl
      | cons d others =>
        rw [hleft] at htail
        obtain rfl : d = c := (List.cons.inj htail).1
        exact List.dropWhile_cons_of_neg hc

/-- Trimming by `q` before and after trimming by `p` is the same as only after, if
what is left does not end in a `p`. -/
theorem rdropWhile_rdropWhile_rdropWhile (hdisjoint : ∀ c, p c = true → q c = false)
    (hlast : ∀ c ∈ ((s.rdropWhile p).rdropWhile q).getLast?, p c = false) :
    ((s.rdropWhile q).rdropWhile p).rdropWhile q = (s.rdropWhile p).rdropWhile q := by
  rcases List.eq_nil_or_concat s with rfl | ⟨front, d, rfl⟩
  · rfl
  · rw [List.concat_eq_append] at *
    by_cases hd : q d = true
    · have hp : ¬ p d = true := by
        intro hp
        rw [hdisjoint d hp] at hd
        cases hd
      rw [List.rdropWhile_concat_neg p _ _ hp, List.rdropWhile_concat_pos q _ _ hd] at hlast ⊢
      -- the last character that is left is no `p`, so nothing more is trimmed
      have hkept : (front.rdropWhile q).rdropWhile p = front.rdropWhile q := by
        rw [List.rdropWhile_eq_self_iff]
        intro hne
        simp [hlast _ (List.getLast?_eq_some_getLast hne)]
      rw [hkept, List.rdropWhile_idempotent]
    · rw [List.rdropWhile_concat_neg q _ _ hd]

theorem trimEndMatches_trim_trimEndMatches (hc : isWhitespace c = false)
    (hlast : ∀ d ∈ (trimEndMatches c (trim s)).getLast?, isWhitespace d = false) :
    trimEndMatches c (trim (trimEndMatches c s)) = trimEndMatches c (trim s) := by
  have hdisjoint : ∀ d, isWhitespace d = true → (d == c) = false := by
    intro d hd
    rw [beq_eq_false_iff_ne]
    rintro rfl
    rw [hc] at hd
    cases hd
  unfold trimEndMatches trim at *
  rw [dropWhile_rdropWhile hdisjoint]
  exact rdropWhile_rdropWhile_rdropWhile hdisjoint hlast

theorem rdropWhile_append_of_ne_nil (hs : s.rdropWhile p ≠ []) (front : Str) :
    (front ++ s).rdropWhile p = front ++ s.rdropWhile p := by
  induction s using List.reverseRecOn with
  | nil => exact absurd rfl hs
  | append_singleton rest d ih =>
    rw [← List.append_assoc, List.rdropWhile_concat, List.rdropWhile_concat]
    rw [List.rdropWhile_concat] at hs
    split_ifs at hs ⊢
    · exact ih hs
    · exact List.append_assoc _ _ _

theorem len_eq_length (hs : ∀ c ∈ s, c.toNat < 128) : len s = s.length := by
  have hsize : ∀ c ∈ s, c.utf8Size = 1 := by
    intro c hc
    rw [Char.utf8Size_eq_one_iff, UInt32.le_iff_toNat_le]
    exact Nat.le_of_lt_succ (hs c hc)
  rw [len, List.map_congr_left hsize, List.map_const', List.sum_replicate, smul_eq_mul, mul_one]

/-! ## Pieces -/

theorem length_splitOn (c : Char) (s : Str) : (s.splitOn c).length = s.count c + 1 := by
  induction s with
  | nil => rfl
  | cons d rest ih =>
    unfold List.splitOn at ih ⊢
    rw [List.splitOnP_cons_eq_if_modifyHead, List.count_cons]
    split_ifs with hd
    · rw [List.length_cons, ih]
    · rw [List.length_modifyHead, ih]

theorem two_le_length_splitOn : 2 ≤ (s.splitOn c).length ↔ c ∈ s := by
  rw [length_splitOn, Nat.succ_le_succ_iff]
  exact List.count_pos_iff

theorem splitNext_append (hs : c ∉ s) (htail : ∀ d ∈ tail.head?, d = c) :
    splitNext c (s ++ tail) = s := by
  have hfront : ∀ d ∈ s, (d != c) = true := fun d hd => bne_iff_ne.mpr fun heq => hs (heq ▸ hd)
  unfold splitNext
  rw [List.takeWhile_append_of_pos hfront]
  cases tail with
  | nil => simp
  | cons d rest => simp [htail d rfl]

theorem dropWhile_append (hs : c ∉ s) (htail : ∀ d ∈ tail.head?, d = c) :
    (s ++ tail).dropWhile (· != c) = tail := by
  have hsplit : splitNext c (s ++ tail) ++ (s ++ tail).dropWhile (· != c) = s ++ tail :=
    List.takeWhile_append_dropWhile
  rw [splitNext_append hs htail] at hsplit
  exact List.append_cancel_left hsplit

/-- The parts before and after the last `c`: what `rfind` and `rsplitn` with two
pieces give. -/
def rsplitOnce (c : Char) (s : Str) : Option (Str × Str) :=
  if c ∈ s then some ((s.rdropWhile (· != c)).dropLast, s.rtakeWhile (· != c)) else none

theorem rsplitOnce_append (front : Str) (hback : c ∉ back) :
    rsplitOnce c (front ++ c :: back) = some (front, back) := by
  have hdrop : (front ++ c :: back).rdropWhile (· != c) = front ++ [c] := by
    have hback' : ∀ d ∈ back, (d != c) = true := by
      intro d hd
      rw [bne_iff_ne]
      rintro rfl
      exact hback hd
    clear hback
    induction back using List.reverseRecOn with
    | nil => simp
    | append_singleton rest d ih =>
      have hlast : (d != c) = true := hback' d (by simp)
      rw [← List.cons_append, ← List.append_assoc, List.rdropWhile_concat, if_pos hlast]
      exact ih fun e he => hback' e (List.mem_append_left _ he)
  have htake := List.rdropWhile_append_rtakeWhile (p := (· != c)) (l := front ++ c :: back)
  rw [hdrop, List.append_assoc] at htake
  have hrest : (front ++ c :: back).rtakeWhile (· != c) = back := by
    simpa using htake
  rw [rsplitOnce, if_pos (by simp), hdrop, hrest, List.dropLast_concat]

theorem exists_append_of_mem (hs : c ∈ s) : ∃ front back, s = front ++ c :: back ∧ c ∉ back := by
  induction s with
  | nil => cases hs
  | cons d rest ih =>
    by_cases hrest : c ∈ rest
    · obtain ⟨front, back, rfl, hback⟩ := ih hrest
      exact ⟨d :: front, back, rfl, hback⟩
    · obtain rfl : c = d := (List.mem_cons.mp hs).resolve_right hrest
      exact ⟨[], rest, rfl, hrest⟩

theorem rsplitOnce_eq_some {front : Str} :
    rsplitOnce c s = some (front, back) ↔ s = front ++ c :: back ∧ c ∉ back := by
  constructor
  · intro hsplit
    have hs : c ∈ s := by
      by_contra hs
      rw [rsplitOnce, if_neg hs] at hsplit
      cases hsplit
    obtain ⟨front', back', rfl, hback⟩ := exists_append_of_mem hs
    rw [rsplitOnce_append front' hback] at hsplit
    cases hsplit
    exact ⟨rfl, hback⟩
  · rintro ⟨rfl, hback⟩
    exact rsplitOnce_append front hback

theorem rsplitOnce_eq_none : rsplitOnce c s = none ↔ c ∉ s := by
  unfold rsplitOnce
  split_ifs with hs <;> simp [hs]

/-- A text is trimmed at the end only, if it begins with a character that stays. -/
theorem trim_cons (hc : isWhitespace c = false) (rest : Str) :
    trim (c :: rest) = c :: rest.rdropWhile isWhitespace := by
  rw [trim, List.dropWhile_cons_of_neg (by simp [hc]), rdropWhile_cons_of_neg hc]

theorem trim_append (hne : start ≠ []) (hstart : start.any isWhitespace = false) (rest : Str) :
    trim (start ++ rest) = start ++ rest.rdropWhile isWhitespace := by
  obtain ⟨c, others, rfl⟩ := List.exists_cons_of_ne_nil hne
  have hkept : ∀ front : Str, (∀ c ∈ front, isWhitespace c = false) →
      (front ++ rest).rdropWhile isWhitespace = front ++ rest.rdropWhile isWhitespace := by
    intro front hfront
    induction front with
    | nil => rfl
    | cons d front ih =>
      rw [List.forall_mem_cons] at hfront
      rw [List.cons_append, rdropWhile_cons_of_neg hfront.1, ih hfront.2, List.cons_append]
  have hstart' : ∀ d ∈ c :: others, isWhitespace d = false := by simpa using hstart
  rw [List.forall_mem_cons] at hstart'
  rw [List.cons_append, trim_cons hstart'.1, hkept others hstart'.2, List.cons_append]

end Text

/-- The tables with what they say of the empty text: every character is mapped to
one character at least. -/
class UnicodeNonempty extends UnicodeAscii where
  toLowercase_eq_nil : ∀ s, toLowercase s = [] ↔ s = []

@[reducible] def UnicodeNonempty.ascii : UnicodeNonempty where
  toUnicodeAscii := UnicodeAscii.ascii
  toLowercase_eq_nil := fun _ => List.map_eq_nil_iff

end RustDns
