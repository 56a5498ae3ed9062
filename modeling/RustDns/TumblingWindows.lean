import Mathlib

/-!
# Counting in windows

Arrivals are counted in windows of a fixed width.  The first arrival starts a window, and the first
one that comes a width or more after the start of a window starts the next (`IsStart`).

A counter needs to keep two numbers for that: when its window started, and how many arrivals there
have been in it (`track`).  It has come to some number if and only if one of the windows has that
many arrivals (`reached_iff`).  Where the windows begin depends on all arrivals before, so a burst
may fall into two of them.  It does not if it comes after a pause as long as a window
(`reached_of_pause`).
-/

namespace TumblingWindows

variable (width : ℕ)

inductive IsStart (times : List ℕ) : ℕ → Prop where
  | first {start : ℕ} (hfirst : times.head? = some start) : IsStart times start
  | next {start next : ℕ} (hstart : IsStart times start)
      (hnext : times.find? (start + width ≤ ·) = some next) : IsStart times next

def arrivals (times : List ℕ) (start : ℕ) : ℕ :=
  times.countP fun time => start ≤ time && time < start + width

/-- The counter after an arrival: the number in its window, and when the window started. -/
def arrive (counter : Option (ℕ × ℕ)) (now : ℕ) : ℕ × ℕ :=
  match counter with
  | none => (1, now)
  | some (count, start) => if start + width ≤ now then (1, now) else (count + 1, start)

def track (times : List ℕ) : Option (ℕ × ℕ) :=
  times.foldl (fun counter now => some (arrive width counter now)) none

def Reached (number : ℕ) (times : List ℕ) : Prop :=
  ∃ before after, times = before ++ after ∧ (track width before).map Prod.fst = some number

variable {width}

theorem track_concat (times : List ℕ) (now : ℕ) :
    track width (times ++ [now]) = some (arrive width (track width times) now) := by
  simp [track]

/-! ## One more arrival -/

section Concat

variable {times : List ℕ} {now : ℕ}

variable {start count other : ℕ}

theorem IsStart.mem (hstart : IsStart width times start) : start ∈ times := by
  cases hstart with
  | first hfirst => exact List.mem_of_mem_head? hfirst
  | next _ hnext => exact List.mem_of_find?_eq_some hnext

theorem IsStart.append (hstart : IsStart width times start) (later : List ℕ) :
    IsStart width (times ++ later) start := by
  induction hstart with
  | first hfirst => exact .first (by rw [List.head?_append, hfirst, Option.some_or])
  | next _ hnext ih => exact .next ih (by rw [List.find?_append, hnext, Option.some_or])

/-- What the counter knows: its window is the last one, all arrivals in it are counted, and none
came after its end. -/
structure Knows (width : ℕ) (times : List ℕ) (count start : ℕ) : Prop where
  isStart : IsStart width times start
  count_eq : count = arrivals width times start
  open_ : ∀ time ∈ times, time < start + width
  last : ∀ other, IsStart width times other → other = start ∨ other + width ≤ start

theorem isStart_concat_of_lt (hknows : Knows width times count start) (hnow : now < start + width)
    (hother : IsStart width (times ++ [now]) other) : IsStart width times other := by
  induction hother with
  | first hfirst =>
    obtain ⟨first, rest, rfl⟩ := List.exists_cons_of_ne_nil
      (List.ne_nil_of_mem hknows.isStart.mem)
    exact .first hfirst
  | @next start' next _ hnext ih =>
    refine .next ih ?_
    rw [List.find?_append] at hnext
    cases hfind : times.find? (start' + width ≤ ·) with
    | some found => rwa [hfind, Option.some_or] at hnext
    | none =>
      -- Then `start'` would be the last window, which is still open.
      rw [hfind, Option.none_or] at hnext
      have hlate : start' + width ≤ now := by
        by_contra hearly
        simp [hearly] at hnext
      rcases hknows.last start' ih with rfl | hbefore
      · omega
      · have hmem := List.find?_eq_none.mp hfind start hknows.isStart.mem
        simp only [decide_eq_true_eq] at hmem
        omega

theorem isStart_concat (hwidth : 0 < width) (hlatest : ∀ time ∈ times, time ≤ now)
    (hother : IsStart width (times ++ [now]) other) : IsStart width times other ∨ other = now := by
  induction hother with
  | @first start hfirst =>
    cases times with
    | nil => exact Or.inr (Option.some.inj hfirst).symm
    | cons first rest => exact Or.inl (.first hfirst)
  | @next start next _ hnext ih =>
    rcases ih with hstart | rfl
    · rw [List.find?_append] at hnext
      cases hfind : times.find? (start + width ≤ ·) with
      | some found =>
        rw [hfind, Option.some_or] at hnext
        exact Or.inl (.next hstart (hfind.trans hnext))
      | none =>
        rw [hfind, Option.none_or] at hnext
        exact Or.inr (List.mem_singleton.mp (List.mem_of_find?_eq_some hnext))
    · -- No arrival is later than the last one.
      have hlate : start + width ≤ next := by simpa using List.find?_some hnext
      have hle : next ≤ start := by
        rcases List.mem_append.mp (List.mem_of_find?_eq_some hnext) with hmem | hmem
        · exact hlatest next hmem
        · exact (List.mem_singleton.mp hmem).le
      omega

theorem arrivals_concat (start : ℕ) :
    arrivals width (times ++ [now]) start =
      arrivals width times start + if start ≤ now ∧ now < start + width then 1 else 0 := by
  rw [arrivals, arrivals, List.countP_append]
  by_cases hin : start ≤ now ∧ now < start + width
  · simp [hin]
  · simp [hin]

theorem Knows.concat (hknows : Knows width times count start) (hwidth : 0 < width)
    (hlatest : ∀ time ∈ times, time ≤ now) :
    Knows width (times ++ [now]) (arrive width (some (count, start)) now).1
      (arrive width (some (count, start)) now).2 := by
  have hstart : start ≤ now := hlatest start hknows.isStart.mem
  unfold arrive
  dsimp only
  split_ifs with hlate
  · have hnone : times.find? (start + width ≤ ·) = none := by
      refine List.find?_eq_none.mpr fun time htime => ?_
      simpa using hknows.open_ time htime
    refine ⟨.next (hknows.isStart.append [now]) ?_, ?_, ?_, ?_⟩
    · simp [List.find?_append, hnone, hlate]
    · have hzero : arrivals width times now = 0 := by
        refine List.countP_eq_zero.mpr fun time htime => ?_
        have hopen := hknows.open_ time htime
        simp only [Bool.and_eq_true, decide_eq_true_eq, not_and]
        omega
      rw [arrivals_concat, hzero, if_pos ⟨le_rfl, by omega⟩]
    · intro time htime
      rcases List.mem_append.mp htime with hmem | hmem
      · have hle := hlatest time hmem
        omega
      · rw [List.mem_singleton.mp hmem]
        omega
    · intro other hother
      rcases isStart_concat hwidth hlatest hother with hbefore | rfl
      · rcases hknows.last other hbefore with rfl | hle
        · exact Or.inr hlate
        · exact Or.inr (by omega)
      · exact Or.inl rfl
  · rw [not_le] at hlate
    refine ⟨hknows.isStart.append [now], ?_, ?_, ?_⟩
    · rw [arrivals_concat, if_pos ⟨hstart, hlate⟩, hknows.count_eq]
    · exact List.forall_mem_append.mpr ⟨hknows.open_, List.forall_mem_singleton.mpr hlate⟩
    · exact fun other hother => hknows.last other (isStart_concat_of_lt hknows hlate hother)

end Concat

/-! ## All arrivals -/

section Sorted

variable (hwidth : 0 < width)
include hwidth

theorem knows_singleton (now : ℕ) : Knows width [now] 1 now := by
  refine ⟨.first rfl, ?_, ?_, ?_⟩
  · simp [arrivals, hwidth]
  · simp [hwidth]
  · intro other hother
    have hstart : IsStart width [] other ∨ other = now := isStart_concat hwidth (by simp) hother
    rcases hstart with hnone | rfl
    · exact absurd hnone.mem List.not_mem_nil
    · exact Or.inl rfl

variable {times : List ℕ} {number start first : ℕ}

theorem knows_track (hsorted : times.Pairwise (· ≤ ·)) (hne : times ≠ []) :
    ∃ count start, track width times = some (count, start) ∧ Knows width times count start := by
  induction times using List.reverseRecOn with
  | nil => exact absurd rfl hne
  | append_singleton times now ih =>
    obtain ⟨hbefore, -, hacross⟩ := List.pairwise_append.mp hsorted
    have hlatest : ∀ time ∈ times, time ≤ now :=
      fun time htime => hacross time htime now (List.mem_singleton_self now)
    rw [track_concat]
    by_cases hnil : times = []
    · subst hnil
      exact ⟨1, now, rfl, knows_singleton hwidth now⟩
    · obtain ⟨count, start, htrack, hknows⟩ := ih hbefore hnil
      rw [htrack]
      exact ⟨_, _, rfl, hknows.concat hwidth hlatest⟩

variable {now : ℕ} {before burst : List ℕ}

omit hwidth in
theorem reached_concat :
    Reached width number (times ++ [now]) ↔
      Reached width number times ∨ (track width (times ++ [now])).map Prod.fst = some number := by
  constructor
  · rintro ⟨before, after, hsplit, hnumber⟩
    rcases List.eq_nil_or_concat after with rfl | ⟨after, last, rfl⟩
    · rw [List.append_nil] at hsplit
      exact Or.inr (hsplit ▸ hnumber)
    · rw [List.concat_eq_append, ← List.append_assoc] at hsplit
      exact Or.inl ⟨before, after, (List.append_inj' hsplit rfl).1, hnumber⟩
  · rintro (⟨before, after, rfl, hnumber⟩ | hnumber)
    · exact ⟨before, after ++ [now], List.append_assoc _ _ _, hnumber⟩
    · exact ⟨times ++ [now], [], (List.append_nil _).symm, hnumber⟩

theorem exists_start_of_lt {count : ℕ} (hnumber : 0 < number) (hsorted : times.Pairwise (· ≤ ·))
    (htrack : track width (times ++ [now]) = some (count, start)) (hlt : number < count) :
    ∃ other, IsStart width times other ∧ number ≤ arrivals width times other := by
  rw [track_concat] at htrack
  by_cases hnil : times = []
  · subst hnil
    obtain ⟨rfl, -⟩ := Prod.mk.inj (Option.some.inj htrack)
    omega
  · obtain ⟨before, other, hbefore, hknows⟩ := knows_track hwidth hsorted hnil
    rw [hbefore, arrive] at htrack
    split_ifs at htrack
    · obtain ⟨rfl, -⟩ := Prod.mk.inj (Option.some.inj htrack)
      omega
    · obtain ⟨rfl, -⟩ := Prod.mk.inj (Option.some.inj htrack)
      exact ⟨other, hknows.isStart, hknows.count_eq ▸ Nat.lt_succ_iff.mp hlt⟩

theorem reached_iff (hnumber : 0 < number) (hsorted : times.Pairwise (· ≤ ·)) :
    Reached width number times ↔
      ∃ start, IsStart width times start ∧ number ≤ arrivals width times start := by
  induction times using List.reverseRecOn with
  | nil =>
    refine iff_of_false ?_ ?_
    · rintro ⟨before, after, hsplit, hcount⟩
      rw [(List.append_eq_nil_iff.mp hsplit.symm).1] at hcount
      cases hcount
    · rintro ⟨start, hstart, -⟩
      exact absurd hstart.mem List.not_mem_nil
  | append_singleton times now ih =>
    obtain ⟨hbefore, -, hacross⟩ := List.pairwise_append.mp hsorted
    have hlatest : ∀ time ∈ times, time ≤ now :=
      fun time htime => hacross time htime now (List.mem_singleton_self now)
    obtain ⟨count, start, htrack, hknows⟩ := knows_track hwidth hsorted (by simp)
    rw [reached_concat, ih hbefore, htrack]
    constructor
    · rintro (⟨old, hold, hcount⟩ | hcount)
      · refine ⟨old, hold.append [now], hcount.trans ?_⟩
        rw [arrivals_concat]
        exact Nat.le_add_right _ _
      · obtain rfl : count = number := Option.some.inj hcount
        exact ⟨start, hknows.isStart, hknows.count_eq.le⟩
    · rintro ⟨other, hother, hcount⟩
      rcases hknows.last other hother with rfl | hended
      · -- The last window has come to the number now, or it had before.
        rw [← hknows.count_eq] at hcount
        rcases hcount.lt_or_eq with hlt | rfl
        · exact Or.inl (exists_start_of_lt hwidth hnumber hbefore htrack hlt)
        · exact Or.inr rfl
      · -- An earlier window has no part in this arrival.
        left
        have hle : start ≤ now := by
          rcases List.mem_append.mp hknows.isStart.mem with hmem | hmem
          · exact hlatest start hmem
          · exact (List.mem_singleton.mp hmem).le
        rcases isStart_concat hwidth hlatest hother with hold | rfl
        · rw [arrivals_concat, if_neg (by omega)] at hcount
          exact ⟨other, hold, hcount⟩
        · omega

/-! ## Bursts -/

omit hwidth in
theorem length_le_countP_add {list : List ℕ} {p q : ℕ → Bool}
    (hone : ∀ time ∈ list, p time = true ∨ q time = true) :
    list.length ≤ list.countP p + list.countP q := by
  induction list with
  | nil => simp
  | cons first rest ih =>
    obtain ⟨hfirst, hrest⟩ := List.forall_mem_cons.mp hone
    have hle := ih hrest
    rw [List.length_cons, List.countP_cons, List.countP_cons]
    rcases hfirst with hfirst | hfirst
    · rw [if_pos hfirst]
      omega
    · rw [if_pos hfirst]
      omega

omit hwidth in
theorem length_le_arrivals {later : List ℕ}
    (hlater : ∀ time ∈ later, start ≤ time ∧ time < start + width) :
    later.length ≤ arrivals width (before ++ later) start := by
  have hall : ∀ time ∈ later, (start ≤ time && time < start + width) = true :=
    fun time htime => by simp [hlater time htime]
  rw [arrivals, List.countP_append, List.countP_eq_length.mpr hall]
  exact Nat.le_add_left _ _

theorem forall_mem_burst (hsorted : (first :: burst).Pairwise (· ≤ ·))
    (hburst : ∀ time ∈ burst, time < first + width) :
    ∀ time ∈ first :: burst, first ≤ time ∧ time < first + width := by
  refine List.forall_mem_cons.mpr ⟨by omega, fun time htime => ?_⟩
  exact ⟨List.rel_of_pairwise_cons hsorted htime, hburst time htime⟩

theorem reached_of_pause (hsorted : (before ++ first :: burst).Pairwise (· ≤ ·))
    (hpause : ∀ time ∈ before, time + width ≤ first)
    (hburst : ∀ time ∈ burst, time < first + width) :
    Reached width (burst.length + 1) (before ++ first :: burst) := by
  obtain ⟨hbefore, hafter, -⟩ := List.pairwise_append.mp hsorted
  have hstart : IsStart width (before ++ first :: burst) first := by
    by_cases hnil : before = []
    · subst hnil
      exact .first rfl
    · obtain ⟨count, start, -, hknows⟩ := knows_track hwidth hbefore hnil
      have hnone : before.find? (start + width ≤ ·) = none := by
        refine List.find?_eq_none.mpr fun time htime => ?_
        simpa using hknows.open_ time htime
      refine .next (hknows.isStart.append _) ?_
      simp [List.find?_append, hnone, hpause start hknows.isStart.mem]
  exact (reached_iff hwidth (Nat.succ_pos _) hsorted).mpr
    ⟨first, hstart, length_le_arrivals (forall_mem_burst hwidth hafter hburst)⟩

omit hwidth in
theorem exists_previous (hsorted : times.Pairwise (· ≤ ·)) (hfirst : first ∈ times)
    (hlt : first < start) (hstart : IsStart width times start) :
    ∃ previous, IsStart width times previous ∧ times.find? (previous + width ≤ ·) = some start := by
  cases hstart with
  | first hhead =>
    cases times with
    | nil => cases hhead
    | cons head rest =>
      obtain rfl : head = start := Option.some.inj hhead
      rcases List.mem_cons.mp hfirst with rfl | hrest
      · exact absurd hlt (lt_irrefl _)
      · exact absurd (List.rel_of_pairwise_cons hsorted hrest) (not_le.mpr hlt)
  | next hprevious hnext => exact ⟨_, hprevious, hnext⟩

omit hwidth in
/-- Between the starts of a window and of the next one, all arrivals are in the window. -/
theorem lt_or_le_of_next (hsorted : times.Pairwise (· ≤ ·)) {previous : ℕ}
    (hnext : times.find? (previous + width ≤ ·) = some start) {time : ℕ} (htime : time ∈ times) :
    time < previous + width ∨ start ≤ time := by
  obtain ⟨-, front, back, rfl, hfront⟩ := List.find?_eq_some_iff_append.mp hnext
  rcases List.mem_append.mp htime with hin | hin
  · left
    simpa using hfront time hin
  · right
    rcases List.mem_cons.mp hin with rfl | hin
    · exact le_rfl
    · exact List.rel_of_pairwise_cons (List.pairwise_append.mp hsorted).2.1 hin

/-- A burst that is twice as large falls into two windows at most, and one has enough of it. -/
theorem reached_of_dense (hnumber : 0 < number)
    (hsorted : (before ++ first :: burst).Pairwise (· ≤ ·))
    (hburst : ∀ time ∈ burst, time < first + width) (hlength : 2 * number ≤ burst.length + 2) :
    Reached width number (before ++ first :: burst) := by
  obtain ⟨-, hafter, hacross⟩ := List.pairwise_append.mp hsorted
  have hlater := forall_mem_burst hwidth hafter hburst
  obtain ⟨count, start, -, hknows⟩ := knows_track hwidth hsorted (by simp)
  have hopen : ∀ time ∈ first :: burst, time < start + width :=
    fun time htime => hknows.open_ time (List.mem_append_right _ htime)
  rw [reached_iff hwidth hnumber hsorted]
  by_cases hearly : start ≤ first
  · -- All of the burst is in the last window.
    have hcount : (first :: burst).length ≤ arrivals width (before ++ first :: burst) start :=
      length_le_arrivals fun time htime => ⟨hearly.trans (hlater time htime).1, hopen time htime⟩
    rw [List.length_cons] at hcount
    exact ⟨start, hknows.isStart, by omega⟩
  · -- What comes before the last window is in the one before it.
    rw [not_le] at hearly
    have hmem : start ∈ first :: burst := by
      rcases List.mem_append.mp hknows.isStart.mem with hmem | hmem
      · exact absurd (hacross start hmem first List.mem_cons_self) (not_le.mpr hearly)
      · exact hmem
    obtain ⟨previous, hprevious, hnext⟩ :=
      exists_previous hsorted (List.mem_append_right _ List.mem_cons_self) hearly hknows.isStart
    have hlate : previous + width ≤ start := by
      simpa using (List.find?_eq_some_iff_append.mp hnext).1
    have hbound := (hlater start hmem).2
    have hwindows : ∀ time ∈ first :: burst, (previous ≤ time && time < previous + width) = true ∨
          (start ≤ time && time < start + width) = true := by
      intro time htime
      have hfirst := (hlater time htime).1
      have hlast := hopen time htime
      simp only [Bool.and_eq_true, decide_eq_true_eq]
      rcases lt_or_le_of_next hsorted hnext (List.mem_append_right _ htime) with hin | hin
      · exact Or.inl (by omega)
      · exact Or.inr ⟨hin, hlast⟩
    have htotal : burst.length + 1 ≤ arrivals width (before ++ first :: burst) previous +
        arrivals width (before ++ first :: burst) start := by
      have hle := length_le_countP_add hwindows
      rw [List.length_cons] at hle
      rw [arrivals, arrivals, List.countP_append, List.countP_append]
      omega
    rcases le_or_gt number (arrivals width (before ++ first :: burst) previous) with hle | hgt
    · exact ⟨previous, hprevious, hle⟩
    · exact ⟨start, hknows.isStart, by omega⟩

end Sorted

end TumblingWindows
