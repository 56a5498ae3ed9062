import RustDns.Calendar

/-!
# Timestamps in the format of RFC 3339

A timestamp is a date and a time of day, a fraction of a second with any number of digits, and
a zone: the letter Z, or an offset from UTC.  It denotes an instant, the number of seconds from
the first second of the year 0 in UTC.  A clock that runs in UTC writes its reading with as
many groups of three fraction digits as it needs, and the offset `+00:00` (`Utc.toRfc3339`).

The texts are compared character by character (`Utc.toRfc3339_lt_text_iff`).  That is the order
of the instants if both are readings of the clock (`Utc.toRfc3339_lt_iff`), but not in general.
-/

namespace Rfc3339

open Calendar

/-! ### Decimal digits -/

def digitChar (d : Fin 10) : Char := Nat.digitChar d

/-- The last `width` digits of a number. -/
def digits : ℕ → ℕ → List (Fin 10)
  | 0, _ => []
  | width + 1, n => digits width (n / 10) ++ [Fin.ofNat 10 n]

def decimal (width n : ℕ) : List Char := (digits width n).map digitChar

def fractionValue : List (Fin 10) → ℚ
  | [] => 0
  | d :: ds => (d.val + fractionValue ds) / 10

def fractionText : List (Fin 10) → List Char
  | [] => []
  | d :: ds => '.' :: (d :: ds).map digitChar

theorem digitChar_lt_iff : ∀ a b : Fin 10, digitChar a < digitChar b ↔ a < b := by decide

theorem digitChar_inj : ∀ a b : Fin 10, digitChar a = digitChar b ↔ a = b := by decide

theorem digitChar_mem : ∀ d : Fin 10, '-' < digitChar d ∧ digitChar d < 'Z' := by decide

variable {width n : ℕ} {a b : Civil} {zone : Zone} {as bs : List (Fin 10)}

/-- Texts that start with numbers of the same width are compared by the numbers first. -/
theorem decimal_append_lt_iff {m : ℕ} (hm : m < 10 ^ width) (hn : n < 10 ^ width)
    (r s : List Char) : decimal width m ++ r < decimal width n ++ s ↔ m < n ∨ m = n ∧ r < s := by
  induction width generalizing m n r s with
  | zero =>
    have hm : m = 0 := by omega
    have hn : n = 0 := by omega
    simp [decimal, digits, hm, hn]
  | succ width ih =>
    have hm : m / 10 < 10 ^ width := by rw [Nat.pow_succ] at hm; omega
    have hn : n / 10 < 10 ^ width := by rw [Nat.pow_succ] at hn; omega
    have hlast : Fin.ofNat 10 m < Fin.ofNat 10 n ↔ m % 10 < n % 10 := Iff.rfl
    have hsame : Fin.ofNat 10 m = Fin.ofNat 10 n ↔ m % 10 = n % 10 := Fin.ext_iff
    have hsplit := ih hm hn (digitChar (Fin.ofNat 10 m) :: r) (digitChar (Fin.ofNat 10 n) :: s)
    rw [List.cons_lt_cons_iff, digitChar_lt_iff, digitChar_inj, hlast, hsame] at hsplit
    simp only [decimal, digits, List.map_append, List.map_cons, List.map_nil,
      List.append_assoc, List.singleton_append]
    refine hsplit.trans ?_
    constructor
    · rintro (h | ⟨h, h' | ⟨h', hrest⟩⟩)
      · exact Or.inl (by omega)
      · exact Or.inl (by omega)
      · exact Or.inr ⟨by omega, hrest⟩
    · rintro (h | ⟨rfl, hrest⟩)
      · by_cases hdiv : m / 10 = n / 10
        · exact Or.inr ⟨hdiv, Or.inl (by omega)⟩
        · exact Or.inl (by omega)
      · exact Or.inr ⟨rfl, Or.inr ⟨rfl, hrest⟩⟩

theorem fractionValue_nonneg (ds : List (Fin 10)) : 0 ≤ fractionValue ds := by
  induction ds with
  | nil => exact le_rfl
  | cons d ds ih =>
    rw [fractionValue]
    positivity

theorem fractionValue_lt_one (ds : List (Fin 10)) : fractionValue ds < 1 := by
  induction ds with
  | nil => exact zero_lt_one
  | cons d ds ih =>
    have hd : (d.val : ℚ) ≤ 9 := by exact_mod_cast Nat.le_of_lt_succ d.isLt
    rw [fractionValue]
    linarith

/-! ### Zones -/

/-- The zone of a timestamp; `west` is the sign of the offset. -/
inductive Zone
  | utc (lower : Bool)
  | offset (west : Bool) (hour : Fin 24) (minute : Fin 60)
deriving DecidableEq

namespace Zone

def text : Zone → List Char
  | utc lower => [if lower then 'z' else 'Z']
  | offset west hour minute =>
    (if west then '-' else '+') :: decimal 2 hour ++ ':' :: decimal 2 minute

def seconds : Zone → ℤ
  | utc _ => 0
  | offset west hour minute =>
    (if west then -1 else 1) * (3600 * (hour.val : ℤ) + 60 * (minute.val : ℤ))

def isLetter : Zone → Bool
  | utc _ => true
  | offset .. => false

def zero : Zone := offset false 0 0

end Zone

/-! ### Timestamps and clock readings -/

/-- A timestamp; `lower` is the case of the letter between date and time. -/
structure Timestamp extends Civil where
  lower : Bool
  fraction : List (Fin 10)
  zone : Zone
  year_mem : 0 ≤ year ∧ year ≤ 9999

structure Utc extends Civil where
  nanos : ℕ
  second_lt : second < 60
  nanos_lt : nanos < 10 ^ 9

def yearText (year : ℤ) : List Char :=
  if 0 ≤ year ∧ year ≤ 9999 then decimal 4 year.toNat
  else (if year < 0 then '-' else '+') ::
    (List.replicate (4 - (Nat.toDigits 10 year.natAbs).length) '0' ++
      Nat.toDigits 10 year.natAbs)

def markChar (lower : Bool) : Char := if lower then 't' else 'T'

def civilText (c : Civil) (lower : Bool) : List Char :=
  yearText c.year ++ '-' :: (decimal 2 c.month ++ '-' :: (decimal 2 c.day ++ markChar lower ::
    (decimal 2 c.hour ++ ':' :: (decimal 2 c.minute ++ ':' :: decimal 2 c.second))))

def writtenFields (c : Civil) (lower : Bool) : List ℤ :=
  [c.year, c.month, c.day, lower.toNat, c.hour, c.minute, c.second]

namespace Timestamp

def text (t : Timestamp) : List Char :=
  civilText t.toCivil t.lower ++ (fractionText t.fraction ++ t.zone.text)

def instant (t : Timestamp) : ℚ :=
  t.toCivil.seconds + fractionValue t.fraction - t.zone.seconds

end Timestamp

namespace Utc

def fraction (u : Utc) : List (Fin 10) :=
  if u.nanos = 0 then []
  else if u.nanos % 10 ^ 6 = 0 then digits 3 (u.nanos / 10 ^ 6)
  else if u.nanos % 10 ^ 3 = 0 then digits 6 (u.nanos / 10 ^ 3)
  else digits 9 u.nanos

def toRfc3339 (u : Utc) : List Char :=
  civilText u.toCivil false ++ (fractionText u.fraction ++ Zone.zero.text)

def instant (u : Utc) : ℚ := u.toCivil.seconds + u.nanos / 10 ^ 9

/-- Whether the year is written without a sign. -/
def PlainYear (u : Utc) : Prop := 0 ≤ u.year ∧ u.year ≤ 9999

end Utc

/-! ### The order of the texts -/

/-- What follows the seconds comes first in a clock reading: a smaller digit, or the end of
the digits where the timestamp has a digit; a letter for the zone comes after every digit. -/
def tailBefore (zone : Zone) : List (Fin 10) → List (Fin 10) → Bool
  | [], [] => zone ≠ Zone.zero
  | [], _ :: _ => true
  | _ :: _, [] => zone.isLetter
  | a :: as, b :: bs => a < b || a = b && tailBefore zone as bs

theorem zero_text_lt_iff (zone : Zone) : Zone.zero.text < zone.text ↔ zone ≠ Zone.zero := by
  cases zone with
  | utc lower => cases lower <;> decide
  | offset west hour minute =>
    cases west with
    | true => simp [Zone.text, Zone.zero, List.cons_lt_cons_iff]
    | false => revert hour minute; decide

theorem zero_text_lt_digits (zone : Zone) (d : Fin 10) (ds : List (Fin 10)) :
    Zone.zero.text < (d :: ds).map digitChar ++ zone.text := by
  have hplus : ∀ d : Fin 10, '+' < digitChar d := by decide
  simp [Zone.text, Zone.zero, List.cons_lt_cons_iff, hplus]

theorem cons_lt_zone_text_iff {c : Char} (hc : '-' < c ∧ c < 'Z') (r : List Char) (zone : Zone) :
    c :: r < zone.text ↔ zone.isLetter = true := by
  cases zone with
  | utc lower =>
    have hletter : c < if lower then 'z' else 'Z' := by
      cases lower with
      | false => exact hc.2
      | true => exact hc.2.trans (by decide)
    simp [Zone.text, Zone.isLetter, List.cons_lt_cons_iff, hletter]
  | offset west hour minute =>
    have hsign : (if west then '-' else '+') < c := by
      cases west with
      | false => exact lt_trans (by decide) hc.1
      | true => exact hc.1
    simp [Zone.text, Zone.isLetter, List.cons_lt_cons_iff, hsign.ne', hsign.not_gt]

theorem digits_append_lt_iff (zone : Zone) (as bs : List (Fin 10)) :
    as.map digitChar ++ Zone.zero.text < bs.map digitChar ++ zone.text ↔
      tailBefore zone as bs = true := by
  induction as generalizing bs with
  | nil =>
    cases bs with
    | nil => simpa [tailBefore] using zero_text_lt_iff zone
    | cons b bs => simpa [tailBefore] using zero_text_lt_digits zone b bs
  | cons a as ih =>
    cases bs with
    | nil => simpa [tailBefore] using cons_lt_zone_text_iff (digitChar_mem a) _ zone
    | cons b bs =>
      simp [tailBefore, List.cons_lt_cons_iff, digitChar_lt_iff, digitChar_inj, ← ih]

theorem tail_lt_iff (zone : Zone) (as bs : List (Fin 10)) :
    fractionText as ++ Zone.zero.text < fractionText bs ++ zone.text ↔
      tailBefore zone as bs = true := by
  rw [← digits_append_lt_iff]
  cases as with
  | nil =>
    cases bs with
    | nil => rfl
    | cons b bs =>
      have hplus : Zone.zero.text < fractionText (b :: bs) ++ zone.text := by
        simp [Zone.text, Zone.zero, fractionText, List.cons_lt_cons_iff]
      exact iff_of_true hplus (zero_text_lt_digits zone b bs)
  | cons a as =>
    cases bs with
    | nil =>
      -- the point and the first digit are on the same side of every zone
      have hpoint := cons_lt_zone_text_iff (c := '.') (by decide)
        ((a :: as).map digitChar ++ Zone.zero.text) zone
      exact hpoint.trans (cons_lt_zone_text_iff (digitChar_mem a) _ zone).symm
    | cons b bs => simp [fractionText, List.cons_lt_cons_iff]

theorem daysInMonth_le (year : ℤ) (month : ℕ) : daysInMonth year month ≤ 31 := by
  unfold daysInMonth
  split_ifs <;> omega

/-- Texts whose order is that of the fields that they write, whatever follows them. -/
def OrderedBy (a b : List Char) (x y : List ℤ) : Prop :=
  ∀ r s : List Char, a ++ r < b ++ s ↔ x < y ∨ x = y ∧ r < s

namespace OrderedBy

theorem nil : OrderedBy [] [] [] [] := by
  intro r s
  simp

variable {a b : List Char} {x y : List ℤ}

theorem separator (c : Char) (h : OrderedBy a b x y) : OrderedBy (c :: a) (c :: b) x y := by
  intro r s
  rw [List.cons_append, List.cons_append, List.cons_lt_cons_iff]
  simpa using h r s

theorem decimal {width m n : ℕ} (hm : m < 10 ^ width) (hn : n < 10 ^ width)
    (h : OrderedBy a b x y) :
    OrderedBy (Rfc3339.decimal width m ++ a) (Rfc3339.decimal width n ++ b) (m :: x) (n :: y) := by
  intro r s
  rw [List.append_assoc, List.append_assoc, decimal_append_lt_iff hm hn, h r s,
    List.cons_lt_cons_iff, List.cons.injEq, Nat.cast_lt, Nat.cast_inj]
  tauto

theorem mark (lower : Bool) (h : OrderedBy a b x y) :
    OrderedBy (markChar false :: a) (markChar lower :: b)
      (false.toNat :: x) (lower.toNat :: y) := by
  intro r s
  have hmark : markChar false < markChar lower ↔ (false.toNat : ℤ) < lower.toNat := by
    cases lower <;> decide
  have hsame : markChar false = markChar lower ↔ (false.toNat : ℤ) = lower.toNat := by
    cases lower <;> decide
  rw [List.cons_append, List.cons_append, List.cons_lt_cons_iff, h r s, List.cons_lt_cons_iff,
    List.cons.injEq, hmark, hsame]
  tauto

end OrderedBy

theorem orderedBy_civilText (ha : 0 ≤ a.year ∧ a.year ≤ 9999) (hb : 0 ≤ b.year ∧ b.year ≤ 9999)
    (lower : Bool) :
    OrderedBy (civilText a false) (civilText b lower)
      (writtenFields a false) (writtenFields b lower) := by
  have hyear : ∀ c : Civil, 0 ≤ c.year ∧ c.year ≤ 9999 → c.year.toNat < 10 ^ 4 := by omega
  have hmonth : ∀ c : Civil, c.month < 10 ^ 2 := fun c => c.month_mem.2.trans_lt (by decide)
  have hday : ∀ c : Civil, c.day < 10 ^ 2 := fun c =>
    (c.day_mem.2.trans (daysInMonth_le _ _)).trans_lt (by decide)
  have hhour : ∀ c : Civil, c.hour < 10 ^ 2 := fun c => c.hour_lt.trans (by decide)
  have hminute : ∀ c : Civil, c.minute < 10 ^ 2 := fun c => c.minute_lt.trans (by decide)
  have hsecond : ∀ c : Civil, c.second < 10 ^ 2 := fun c => c.second_le.trans_lt (by decide)
  have htime := (OrderedBy.nil.decimal (hsecond a) (hsecond b)).separator ':'
    |>.decimal (hminute a) (hminute b) |>.separator ':' |>.decimal (hhour a) (hhour b)
  have hdate := (htime.mark lower).decimal (hday a) (hday b) |>.separator '-'
    |>.decimal (hmonth a) (hmonth b) |>.separator '-'
    |>.decimal (hyear a ha) (hyear b hb)
  rw [Int.toNat_of_nonneg ha.1, Int.toNat_of_nonneg hb.1] at hdate
  simpa [civilText, writtenFields, yearText, if_pos ha, if_pos hb] using hdate

theorem civilText_lt_of_signed (ha : ¬ (0 ≤ a.year ∧ a.year ≤ 9999))
    (hb : 0 ≤ b.year ∧ b.year ≤ 9999) (lower : Bool) (r s : List Char) :
    civilText a false ++ r < civilText b lower ++ s := by
  have hsign : ∀ d : Fin 10, (if a.year < 0 then '-' else '+') < digitChar d := by
    intro d
    split_ifs
    · exact (digitChar_mem d).1
    · exact lt_trans (by decide) (digitChar_mem d).1
  obtain ⟨d, ds, hdigits⟩ : ∃ d ds, digits 4 b.year.toNat = d :: ds :=
    List.exists_cons_of_ne_nil (by simp [digits])
  simp only [civilText, yearText, if_neg ha, if_pos hb, decimal, hdigits, List.map_cons,
    List.cons_append, List.cons_lt_cons_iff]
  exact Or.inl (hsign d)

namespace Utc

def Before (now : Utc) (t : Timestamp) : Prop :=
  ¬ now.PlainYear ∨ writtenFields now.toCivil false < writtenFields t.toCivil t.lower ∨
    writtenFields now.toCivil false = writtenFields t.toCivil t.lower ∧
      tailBefore t.zone now.fraction t.fraction = true

theorem toRfc3339_lt_text_iff (now : Utc) (t : Timestamp) :
    now.toRfc3339 < t.text ↔ now.Before t := by
  unfold Before toRfc3339 Timestamp.text
  by_cases hyear : now.PlainYear
  · rw [orderedBy_civilText hyear t.year_mem t.lower, tail_lt_iff]
    simp [hyear]
  · simp [hyear, civilText_lt_of_signed hyear t.year_mem t.lower]

end Utc

/-! ### The order of the instants -/

theorem seconds_lt_of_writtenFields_lt (ha : a.second < 60)
    (h : writtenFields a false < writtenFields b false) : a.seconds < b.seconds := by
  refine Civil.seconds_lt_of_fields_lt ha ?_
  simpa [writtenFields, Civil.fields, List.cons_lt_cons_iff] using h

theorem seconds_eq_of_writtenFields_eq {lower : Bool}
    (h : writtenFields a false = writtenFields b lower) : a.seconds = b.seconds := by
  apply Civil.seconds_eq_of_fields_eq
  simp only [writtenFields, Civil.fields, List.cons.injEq] at h ⊢
  tauto

theorem add_fractionValue_lt {s t : ℤ} (h : s < t) (as bs : List (Fin 10)) :
    (s : ℚ) + fractionValue as < t + fractionValue bs := by
  have hseconds : (s : ℚ) + 1 ≤ t := by exact_mod_cast h
  have ha := fractionValue_lt_one as
  have hb := fractionValue_nonneg bs
  linarith

theorem fractionValue_cons_le {a b : Fin 10} (h : a < b) (as bs : List (Fin 10)) :
    fractionValue (a :: as) ≤ fractionValue (b :: bs) := by
  have hdigit : (a.val : ℚ) + 1 ≤ b.val := by exact_mod_cast h
  have ha := fractionValue_lt_one as
  have hb := fractionValue_nonneg bs
  rw [fractionValue, fractionValue]
  linarith

theorem fractionValue_le_of_not_tailBefore (h : tailBefore zone as bs = false) :
    fractionValue bs ≤ fractionValue as := by
  induction as generalizing bs with
  | nil =>
    cases bs with
    | nil => exact le_rfl
    | cons b bs => simp [tailBefore] at h
  | cons a as ih =>
    cases bs with
    | nil => exact fractionValue_nonneg _
    | cons b bs =>
      simp only [tailBefore, Bool.or_eq_false_iff, Bool.and_eq_false_imp,
        decide_eq_false_iff_not, decide_eq_true_eq, not_lt] at h
      rcases h.1.lt_or_eq with hlt | rfl
      · exact fractionValue_cons_le hlt bs as
      · have hrest := ih (h.2 rfl)
        rw [fractionValue, fractionValue]
        linarith

theorem fractionValue_le_of_tailBefore (hzone : zone.isLetter = false)
    (h : tailBefore zone as bs = true) : fractionValue as ≤ fractionValue bs := by
  induction as generalizing bs with
  | nil => exact fractionValue_nonneg _
  | cons a as ih =>
    cases bs with
    | nil => simp [tailBefore, hzone] at h
    | cons b bs =>
      simp only [tailBefore, Bool.or_eq_true, Bool.and_eq_true, decide_eq_true_eq] at h
      rcases h with hlt | ⟨rfl, hrest⟩
      · exact fractionValue_cons_le hlt as bs
      · have hrest := ih hrest
        rw [fractionValue, fractionValue]
        linarith

theorem tailBefore_zero_self (as : List (Fin 10)) : tailBefore Zone.zero as as = false := by
  induction as with
  | nil => rfl
  | cons a as ih => simp [tailBefore, ih]

theorem fractionValue_concat (ds : List (Fin 10)) (d : Fin 10) :
    fractionValue (ds ++ [d]) = fractionValue ds + d.val / 10 ^ (ds.length + 1) := by
  induction ds with
  | nil => simp [fractionValue]
  | cons e ds ih =>
    rw [List.cons_append, fractionValue, ih, fractionValue, List.length_cons]
    field_simp
    ring

theorem length_digits (width n : ℕ) : (digits width n).length = width := by
  induction width generalizing n with
  | zero => rfl
  | succ width ih => simp [digits, ih]

theorem fractionValue_digits (h : n < 10 ^ width) :
    fractionValue (digits width n) = n / 10 ^ width := by
  induction width generalizing n with
  | zero =>
    have hn : n = 0 := by omega
    simp [digits, fractionValue, hn]
  | succ width ih =>
    have hn : n / 10 < 10 ^ width := by rw [Nat.pow_succ] at h; omega
    have hsplit : (n : ℚ) = 10 * (n / 10 : ℕ) + (n % 10 : ℕ) := by
      exact_mod_cast (Nat.div_add_mod n 10).symm
    rw [digits, fractionValue_concat, ih hn, length_digits, Fin.val_ofNat, hsplit]
    field_simp
    ring

theorem fractionValue_digits_div {zeros : ℕ} (h : n < 10 ^ (zeros + width))
    (hzeros : n % 10 ^ zeros = 0) :
    fractionValue (digits width (n / 10 ^ zeros)) = n / 10 ^ (zeros + width) := by
  obtain ⟨m, rfl⟩ := Nat.dvd_of_mod_eq_zero hzeros
  have hm : m < 10 ^ width := by
    rw [pow_add] at h
    exact lt_of_mul_lt_mul_left h (Nat.zero_le _)
  rw [Nat.mul_div_cancel_left _ (by positivity), fractionValue_digits hm, pow_add]
  push_cast
  field_simp

namespace Utc

theorem fractionValue_fraction (u : Utc) : fractionValue u.fraction = u.nanos / 10 ^ 9 := by
  unfold fraction
  split_ifs with hzero hmillis hmicros
  · simp [hzero, fractionValue]
  · exact fractionValue_digits_div u.nanos_lt hmillis
  · exact fractionValue_digits_div u.nanos_lt hmicros
  · exact fractionValue_digits u.nanos_lt

theorem instant_eq (u : Utc) : u.instant = u.toCivil.seconds + fractionValue u.fraction := by
  rw [fractionValue_fraction, instant]

def toTimestamp (u : Utc) (h : u.PlainYear) : Timestamp :=
  { u.toCivil with lower := false, fraction := u.fraction, zone := Zone.zero, year_mem := h }

theorem text_toTimestamp (u : Utc) (h : u.PlainYear) : (u.toTimestamp h).text = u.toRfc3339 := rfl

theorem tailBefore_fraction_iff (a b : Utc) :
    tailBefore Zone.zero a.fraction b.fraction = true ↔
      fractionValue a.fraction < fractionValue b.fraction := by
  constructor
  · intro h
    refine lt_of_le_of_ne (fractionValue_le_of_tailBefore rfl h) fun heq => ?_
    have hnanos : a.nanos = b.nanos := by
      rw [fractionValue_fraction, fractionValue_fraction, div_left_inj' (by positivity)] at heq
      exact_mod_cast heq
    have hsame : a.fraction = b.fraction := by simp only [fraction, hnanos]
    rw [hsame, tailBefore_zero_self] at h
    exact Bool.false_ne_true h
  · intro h
    by_contra hnot
    exact absurd h (fractionValue_le_of_not_tailBefore (Bool.eq_false_of_not_eq_true hnot)).not_gt

theorem toRfc3339_lt_iff {a b : Utc} (ha : a.PlainYear) (hb : b.PlainYear) :
    a.toRfc3339 < b.toRfc3339 ↔ a.instant < b.instant := by
  have hbefore : a.toRfc3339 < b.toRfc3339 ↔
      writtenFields a.toCivil false < writtenFields b.toCivil false ∨
        writtenFields a.toCivil false = writtenFields b.toCivil false ∧
          tailBefore Zone.zero a.fraction b.fraction = true := by
    rw [← text_toTimestamp b hb, toRfc3339_lt_text_iff, Before, not_not_intro ha |> eq_false,
      false_or]
    rfl
  rw [hbefore, a.instant_eq, b.instant_eq]
  rcases lt_trichotomy (writtenFields a.toCivil false) (writtenFields b.toCivil false)
    with hlt | heq | hgt
  · have hseconds := seconds_lt_of_writtenFields_lt a.second_lt hlt
    exact iff_of_true (Or.inl hlt) (add_fractionValue_lt hseconds _ _)
  · rw [seconds_eq_of_writtenFields_eq heq, add_lt_add_iff_left, ← tailBefore_fraction_iff]
    simp [heq]
  · have hseconds := seconds_lt_of_writtenFields_lt b.second_lt hgt
    refine iff_of_false ?_ (add_fractionValue_lt hseconds _ _).not_gt
    rintro (hlt | ⟨heq, -⟩)
    · exact hgt.not_gt hlt
    · exact hgt.ne' heq

end Utc

end Rfc3339
