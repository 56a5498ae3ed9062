import Mathlib

/-!
# The Gregorian calendar

Dates and times of day as their fields, and the number of seconds that they stand for.  The
years are those of the proleptic calendar, so that there is a year 0 and there are years before
it.  Fields that come first in the order of their positions stand for the smaller number
(`seconds_lt_of_fields_lt`), with one exception: the sixtieth second of a minute, which a clock
shows for a leap second, is counted as the first second of the next minute.
-/

namespace Calendar

def IsLeap (year : ℤ) : Prop := year % 4 = 0 ∧ (year % 100 ≠ 0 ∨ year % 400 = 0)

instance (year : ℤ) : Decidable (IsLeap year) := by unfold IsLeap; infer_instance

def daysInMonth (year : ℤ) (month : ℕ) : ℕ :=
  if month = 2 then (if IsLeap year then 29 else 28)
  else if month ∈ [4, 6, 9, 11] then 30
  else 31

/-- The days of the first `months` months of a year. -/
def daysOfMonths (year : ℤ) : ℕ → ℕ
  | 0 => 0
  | month + 1 => daysOfMonths year month + daysInMonth year (month + 1)

def daysOfYears (year : ℤ) : ℤ :=
  365 * year + (year + 3) / 4 - (year + 99) / 100 + (year + 399) / 400

structure Civil where
  year : ℤ
  month : ℕ
  day : ℕ
  hour : ℕ
  minute : ℕ
  second : ℕ
  month_mem : 1 ≤ month ∧ month ≤ 12
  day_mem : 1 ≤ day ∧ day ≤ daysInMonth year month
  hour_lt : hour < 24
  minute_lt : minute < 60
  second_le : second ≤ 60

namespace Civil

def dayNumber (c : Civil) : ℤ :=
  daysOfYears c.year + daysOfMonths c.year (c.month - 1) + (c.day - 1)

def seconds (c : Civil) : ℤ :=
  86400 * c.dayNumber + 3600 * c.hour + 60 * c.minute + c.second

def fields (c : Civil) : List ℤ := [c.year, c.month, c.day, c.hour, c.minute, c.second]

end Civil

/-! ### Days -/

theorem daysOfMonths_mono (year : ℤ) : Monotone (daysOfMonths year) :=
  monotone_nat_of_le_succ fun _ => Nat.le_add_right _ _

theorem daysOfMonths_twelve (year : ℤ) :
    daysOfMonths year 12 = if IsLeap year then 366 else 365 := by
  by_cases hleap : IsLeap year <;> simp [daysOfMonths, daysInMonth, hleap]

theorem daysOfYears_succ (year : ℤ) :
    daysOfYears (year + 1) = daysOfYears year + daysOfMonths year 12 := by
  rw [daysOfMonths_twelve]
  by_cases hleap : IsLeap year
  · rw [if_pos hleap]
    unfold daysOfYears
    unfold IsLeap at hleap
    omega
  · rw [if_neg hleap]
    unfold daysOfYears
    unfold IsLeap at hleap
    omega

theorem daysOfYears_mono : Monotone daysOfYears :=
  monotone_int_of_le_succ fun year => by
    rw [daysOfYears_succ]
    exact Int.le_add_of_nonneg_right (Int.natCast_nonneg _)

namespace Civil

theorem dayOfYear_lt (c : Civil) :
    daysOfMonths c.year (c.month - 1) + (c.day - 1) < daysOfMonths c.year c.month := by
  obtain ⟨month, hmonth⟩ : ∃ month, c.month = month + 1 :=
    Nat.exists_eq_add_of_le' c.month_mem.1
  have hday := c.day_mem
  rw [hmonth] at hday ⊢
  rw [daysOfMonths, Nat.add_sub_cancel]
  omega

variable {a b : Civil}

theorem dayNumber_lt_of_year_lt (h : a.year < b.year) : a.dayNumber < b.dayNumber := by
  have hwithin : daysOfMonths a.year (a.month - 1) + (a.day - 1) < daysOfMonths a.year 12 :=
    a.dayOfYear_lt.trans_le (daysOfMonths_mono _ a.month_mem.2)
  have hyears : daysOfYears a.year + daysOfMonths a.year 12 ≤ daysOfYears b.year := by
    rw [← daysOfYears_succ]
    exact daysOfYears_mono h
  have ha := a.day_mem.1
  have hb := b.day_mem.1
  unfold dayNumber
  omega

theorem dayNumber_lt_of_month_lt (hyear : a.year = b.year) (h : a.month < b.month) :
    a.dayNumber < b.dayNumber := by
  have hwithin := a.dayOfYear_lt
  have hmonths : daysOfMonths a.year a.month ≤ daysOfMonths a.year (b.month - 1) :=
    daysOfMonths_mono _ (by omega)
  have ha := a.day_mem.1
  have hb := b.day_mem.1
  unfold dayNumber
  rw [← hyear]
  omega

/-! ### Seconds -/

theorem seconds_lt_of_dayNumber_lt (ha : a.second < 60) (h : a.dayNumber < b.dayNumber) :
    a.seconds < b.seconds := by
  have hhour := a.hour_lt
  have hminute := a.minute_lt
  unfold seconds
  omega

theorem seconds_lt_of_fields_lt (ha : a.second < 60) (h : a.fields < b.fields) :
    a.seconds < b.seconds := by
  simp only [fields, List.cons_lt_cons_iff, Nat.cast_lt, Nat.cast_inj, List.not_lt_nil,
    and_false, or_false] at h
  rcases h with hyear | ⟨hyear, hmonth | ⟨hmonth, hday | ⟨hday, htime⟩⟩⟩
  · exact seconds_lt_of_dayNumber_lt ha (dayNumber_lt_of_year_lt hyear)
  · exact seconds_lt_of_dayNumber_lt ha (dayNumber_lt_of_month_lt hyear hmonth)
  · refine seconds_lt_of_dayNumber_lt ha ?_
    unfold dayNumber
    rw [hyear, hmonth]
    omega
  · have hdays : a.dayNumber = b.dayNumber := by simp only [dayNumber, hyear, hmonth, hday]
    have hminute := a.minute_lt
    unfold seconds
    rw [hdays]
    omega

theorem seconds_eq_of_fields_eq (h : a.fields = b.fields) : a.seconds = b.seconds := by
  simp only [fields, List.cons.injEq, Nat.cast_inj, and_true] at h
  obtain ⟨hyear, hmonth, hday, hhour, hminute, hsecond⟩ := h
  simp only [seconds, dayNumber, hyear, hmonth, hday, hhour, hminute, hsecond]

end Civil

end Calendar
