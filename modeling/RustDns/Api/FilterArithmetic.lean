import RustDns.Api.QueryLogAdvanced
import RustDns.Calendar

/-!
# The arithmetic of filters

A filter multiplies in three places: milliseconds become nanoseconds, months become
days, and units of time become seconds.  The first two products are of the type
`i64` and wrap around in a release build, as does `i64::abs` of the smallest number;
the third is made by `chrono`, which panics if the product is too large or the time
before the present is not in its calendar.

A filter is `Safe` if none of this happens and the values that it binds are the
exact ones.  `safe_iff` says for which filters that is so.
-/

namespace RustDns.Api.QueryLogAdvanced

open Text

/-! ## Times and durations of `chrono` -/

/-- The first nanosecond of the calendar, at the start of the year -262143.  Times are
counted from the start of the year 0. -/
def firstInstant : ℤ := Calendar.daysOfYears (-262143) * 86400 * 10 ^ 9

def endInstant : ℤ := Calendar.daysOfYears 262143 * 86400 * 10 ^ 9

/-- `DateTime<Utc>`. -/
structure DateTime where
  nanos : ℤ
  first_le : firstInstant ≤ nanos
  lt_end : nanos < endInstant

/-- `DateTime::checked_sub_signed` for a number of seconds. -/
def DateTime.checkedSub (time : DateTime) (secs : ℤ) : Option DateTime :=
  if h : firstInstant ≤ time.nanos - secs * 10 ^ 9 ∧ time.nanos - secs * 10 ^ 9 < endInstant then
    some ⟨_, h.1, h.2⟩
  else none

/-- The seconds of `TimeDelta::MAX`, which is `i64::MAX` milliseconds. -/
def maxSeconds : ℤ := (2 ^ 63 - 1) / 1000

/-- `TimeDelta::try_hours`, `try_days` and `try_weeks`: the seconds of `count` units of
`secs` seconds. -/
def tryUnits (count : Int64) (secs : ℤ) : Option ℤ :=
  (toI64 (count.toInt * secs)).bind fun total =>
    if |total.toInt| ≤ maxSeconds then some total.toInt else none

/-- The seconds of the duration that `parse_relative_time` subtracts.  The days of a
month are multiplied before `chrono` sees them. -/
def TimeUnit.duration (num : Int64) : TimeUnit → Option ℤ
  | .hours => tryUnits num 3600
  | .days => tryUnits num 86400
  | .weeks => tryUnits num 604800
  | .months => tryUnits (num * 30) 86400

/-- The clock at a time, with `DateTime::to_rfc3339` as `render`.  `i64::abs` wraps
around as `Int64.ofNat` does. -/
def chronoClock (render : DateTime → Str) (now : DateTime) : Clock where
  now := render now
  before unit n := ((unit.duration (Int64.ofNat n)).bind now.checkedSub).map render

/-! ## Exact filters -/

def TimeUnit.seconds : TimeUnit → ℤ
  | .hours => 3600
  | .days => 86400
  | .weeks => 7 * 86400
  | .months => 30 * 86400

def isNumberChar (c : Char) : Bool := c.isDigit || c = '-'

/-- A relative time: a number and, at the end of what follows it, the letter of a
unit. -/
inductive Names : Str → ℤ → TimeUnit → Prop
  | intro {number rest : Str} {num : ℤ} {letter : Char} {unit : TimeUnit}
      (hnumber : Decimal.parseInt number = some num)
      (hrest : ∀ c ∈ rest.head?, isNumberChar c = false)
      (hlast : rest.getLast? = some letter) (hunit : timeUnit letter = some unit) :
      Names (number ++ rest) num unit

/-- An operation of the type `i64` that leaves its range. -/
inductive Wraps (filter : Filter) : Prop
  | elapsed {comparison : Comparison} {v : Int64}
      (hkind : filter.kind = some (.elapsedMs comparison)) (hvalue : filter.value.asI64 = some v)
      (hwraps : toI64 (v.toInt * 1000000) = none)
  | abs {text : Str} {num : Int64} {unit : TimeUnit} (hkind : filter.kind = some .timeRelative)
      (hvalue : filter.value = .string text) (hnames : Names text num.toInt unit)
      (hwraps : toI64 num.toInt.natAbs = none)
  | days {text : Str} {num : Int64} (hkind : filter.kind = some .timeRelative)
      (hvalue : filter.value = .string text) (hnames : Names text num.toInt .months)
      (hwraps : toI64 (num.toInt.natAbs * 30) = none)

def Refused (result : Except Refusal QueryBuilder) : Prop := ∃ message, result = invalid message

def Binds (builder : QueryBuilder) (values : List Json.Value)
    (result : Except Refusal QueryBuilder) : Prop :=
  ∃ condition, result = .ok ⟨builder.conditions ++ [condition], builder.bindings ++ values⟩

/-- A filter that is added without a panic, without wrapping around and with the exact
values. -/
structure Safe (render : DateTime → Str) (now : DateTime) (filter : Filter) : Prop where
  no_panic : ∀ builder : QueryBuilder,
    builder.addFilter (chronoClock render now) filter ≠ .error .panics
  no_wrap : ¬ Wraps filter
  elapsed : ∀ (builder : QueryBuilder) (comparison : Comparison) (v : Int64),
    filter.kind = some (.elapsedMs comparison) → filter.value.asI64 = some v →
      Refused (builder.addFilter (chronoClock render now) filter) ∨
        Binds builder [.number (Decimal.showInt (v.toInt * 1000000))]
          (builder.addFilter (chronoClock render now) filter)
  relative : ∀ (builder : QueryBuilder) (number : Str) (num : ℤ) (letter : Char) (unit : TimeUnit),
    filter.kind = some .timeRelative → filter.value = .string (number ++ [letter]) →
      Decimal.parseInt number = some num → timeUnit letter = some unit →
        Refused (builder.addFilter (chronoClock render now) filter) ∨
          ∃ start : DateTime, now.nanos - start.nanos = num.natAbs * unit.seconds * 10 ^ 9 ∧
            Binds builder [.string (render start), .string (render now)]
              (builder.addFilter (chronoClock render now) filter)

/-- The filters whose numbers are small enough: `9223372036854` milliseconds have less
than `2 ^ 63` nanoseconds, and a relative time must not lead out of the calendar.  A
number that is no `i64` is refused. -/
structure InRange (now : DateTime) (filter : Filter) : Prop where
  elapsed : ∀ (comparison : Comparison) (v : Int64),
    filter.kind = some (.elapsedMs comparison) → filter.value.asI64 = some v →
      v.toInt.natAbs ≤ 9223372036854
  relative : ∀ (text : Str) (num : Int64) (unit : TimeUnit),
    filter.kind = some .timeRelative → filter.value = .string text →
      Names text num.toInt unit →
        firstInstant ≤ now.nanos - num.toInt.natAbs * unit.seconds * 10 ^ 9

/-! ## Products -/

variable {n secs num : ℤ} {count : Int64} {unit : TimeUnit}

theorem toI64_eq_some {value : Int64} (h : toI64 n = some value) : value.toInt = n := by
  unfold toI64 at h
  split_ifs at h with hrange
  cases h
  exact Int64.toInt_ofInt_of_le (by omega) (by omega)

theorem toI64_eq_none : toI64 n = none ↔ n < -2 ^ 63 ∨ 2 ^ 63 ≤ n := by
  unfold toI64
  split_ifs with hrange
  · simp only [false_iff]
    omega
  · simp only [true_iff]
    omega

theorem toInt_mul_of_fits {a b : Int64} (hlower : -2 ^ 63 ≤ a.toInt * b.toInt)
    (hupper : a.toInt * b.toInt < 2 ^ 63) : (a * b).toInt = a.toInt * b.toInt := by
  rw [Int64.toInt_mul]
  exact Int.bmod_eq_of_le (by omega) (by omega)

theorem eq_mul_of_tryUnits {total : ℤ} (h : tryUnits count secs = some total) :
    total = count.toInt * secs := by
  obtain ⟨product, hproduct, htotal⟩ := Option.bind_eq_some_iff.mp h
  split_ifs at htotal
  rw [← Option.some.inj htotal, toI64_eq_some hproduct]

theorem tryUnits_of_le (h : |count.toInt * secs| ≤ maxSeconds) :
    tryUnits count secs = some (count.toInt * secs) := by
  have hbound : maxSeconds < 2 ^ 63 := by decide
  have hproduct : toI64 (count.toInt * secs) ≠ none := by
    rw [Ne, toI64_eq_none]
    have := abs_le.mp h
    omega
  obtain ⟨product, hproduct⟩ := Option.ne_none_iff_exists'.mp hproduct
  rw [tryUnits, hproduct, Option.bind_some, toI64_eq_some hproduct, if_pos h]

/-! ## Durations -/

namespace TimeUnit

/-- Neither `i64::abs` nor the product with 30 wraps around. -/
def Fits (n : ℕ) (unit : TimeUnit) : Prop := n < 2 ^ 63 ∧ (unit = .months → n * 30 < 2 ^ 63)

variable {n : ℕ} {unit : TimeUnit}

theorem toInt_ofNat_mul_thirty (hn : n < 2 ^ 63) (hdays : n * 30 < 2 ^ 63) :
    (Int64.ofNat n * 30).toInt = n * 30 := by
  have hcount : (Int64.ofNat n).toInt = n := Int64.toInt_ofNat_of_lt hn
  have hthirty : (30 : Int64).toInt = 30 := rfl
  rw [toInt_mul_of_fits] <;> rw [hcount, hthirty] <;> omega

theorem eq_of_duration {secs : ℤ} (hfits : unit.Fits n)
    (h : unit.duration (Int64.ofNat n) = some secs) : secs = n * unit.seconds := by
  have hcount : (Int64.ofNat n).toInt = n := Int64.toInt_ofNat_of_lt hfits.1
  cases unit with
  | months =>
    rw [eq_mul_of_tryUnits h, toInt_ofNat_mul_thirty hfits.1 (hfits.2 rfl), seconds, mul_assoc]
  | hours | days | weeks => rw [eq_mul_of_tryUnits h, hcount]; rfl

theorem duration_eq_of_le (h : n * unit.seconds ≤ maxSeconds) :
    unit.Fits n ∧ unit.duration (Int64.ofNat n) = some (n * unit.seconds) := by
  have hmax : maxSeconds = 9223372036854775 := by decide
  have hfits : unit.Fits n := by
    cases unit <;> simp only [seconds] at h <;> exact ⟨by omega, fun _ => by omega⟩
  have hcount : (Int64.ofNat n).toInt = n := Int64.toInt_ofNat_of_lt hfits.1
  have hnonneg : 0 ≤ n * unit.seconds := by cases unit <;> simp only [seconds] <;> omega
  rw [← abs_of_nonneg hnonneg] at h
  refine ⟨hfits, ?_⟩
  cases unit with
  | months =>
    have hdays := toInt_ofNat_mul_thirty hfits.1 (hfits.2 rfl)
    have hproduct : (Int64.ofNat n * 30).toInt * 86400 = n * months.seconds := by
      rw [hdays, seconds, mul_assoc]
    rw [← hproduct] at h ⊢
    exact tryUnits_of_le h
  | hours | days | weeks =>
    rw [← hcount] at h ⊢
    exact tryUnits_of_le h

end TimeUnit

section Before

variable (render : DateTime → Str) (now : DateTime) {n : ℕ} {unit : TimeUnit}

theorem le_maxSeconds (h : firstInstant ≤ now.nanos - n * unit.seconds * 10 ^ 9) :
    n * unit.seconds ≤ maxSeconds := by
  have hend := now.lt_end
  have hcalendar : endInstant - firstInstant ≤ maxSeconds * 10 ^ 9 := by decide
  have hle : n * unit.seconds * 10 ^ 9 ≤ maxSeconds * 10 ^ 9 := by omega
  exact le_of_mul_le_mul_right hle (by decide)

theorem exists_start (h : firstInstant ≤ now.nanos - n * unit.seconds * 10 ^ 9) :
    ∃ start : DateTime, now.nanos - start.nanos = n * unit.seconds * 10 ^ 9 ∧
      (chronoClock render now).before unit n = some (render start) := by
  obtain ⟨-, hduration⟩ := TimeUnit.duration_eq_of_le (le_maxSeconds now h)
  have hnonneg : 0 ≤ n * unit.seconds := by cases unit <;> simp only [TimeUnit.seconds] <;> omega
  have hend := now.lt_end
  have hrange : firstInstant ≤ now.nanos - n * unit.seconds * 10 ^ 9 ∧
      now.nanos - n * unit.seconds * 10 ^ 9 < endInstant := ⟨h, by omega⟩
  refine ⟨⟨_, hrange.1, hrange.2⟩, by simp, ?_⟩
  change ((unit.duration (Int64.ofNat n)).bind now.checkedSub).map render = _
  rw [hduration, Option.bind_some, DateTime.checkedSub, dif_pos hrange]
  rfl

theorem le_of_before {start : Str} (hfits : unit.Fits n)
    (h : (chronoClock render now).before unit n = some start) :
    firstInstant ≤ now.nanos - n * unit.seconds * 10 ^ 9 := by
  obtain ⟨time, htime, -⟩ := Option.map_eq_some_iff.mp h
  obtain ⟨secs, hsecs, hsub⟩ := Option.bind_eq_some_iff.mp htime
  rw [DateTime.checkedSub] at hsub
  split_ifs at hsub with hrange
  rw [TimeUnit.eq_of_duration hfits hsecs] at hrange
  exact hrange.1

end Before

/-! ## Relative times -/

theorem isNumberChar_of_parseInt {number : Str} (hnumber : Decimal.parseInt number = some num) :
    ∀ c ∈ number, isNumberChar c = true := by
  have hdigits : ∀ {text : Str} {n : ℕ}, Decimal.parseNat text = some n →
      ∀ c ∈ text, isNumberChar c = true := by
    intro text n hparse c hc
    unfold Decimal.parseNat at hparse
    split_ifs at hparse with htext
    rw [isNumberChar, List.all_eq_true.mp htext.2 c hc]
    rfl
  unfold Decimal.parseInt at hnumber
  split_ifs at hnumber with hminus
  · obtain ⟨value, hint, -⟩ := Option.map_eq_some_iff.mp hnumber
    obtain ⟨n, hparse, -⟩ := Option.bind_eq_some_iff.mp hint
    obtain ⟨rest, rfl⟩ := List.head?_eq_some_iff.mp hminus
    intro c hc
    rcases List.mem_cons.mp hc with rfl | hrest
    · rfl
    · exact hdigits hparse c hrest
  · obtain ⟨n, hparse, -⟩ := Option.map_eq_some_iff.mp hnumber
    exact hdigits hparse

theorem isNumberChar_of_timeUnit {letter : Char} (hunit : timeUnit letter = some unit) :
    isNumberChar letter = false := by
  unfold timeUnit at hunit
  split_ifs at hunit with h1 h2 h3 h4
  all_goals
    subst letter
    rfl

/-- The number is what stands before the first other character, and the unit is the
last character. -/
theorem names_iff {text : Str} :
    Names text num unit ↔ Decimal.parseInt (text.takeWhile isNumberChar) = some num ∧
      ∃ letter, text.getLast? = some letter ∧ timeUnit letter = some unit := by
  constructor
  · rintro ⟨hnumber, hrest, hlast, hunit⟩
    rename_i number rest letter
    have hstop : rest.takeWhile isNumberChar = [] := by
      cases rest with
      | nil => rfl
      | cons c tail => simp [hrest c rfl]
    have hne : rest ≠ [] := by
      rintro rfl
      cases hlast
    rw [List.takeWhile_append_of_pos (isNumberChar_of_parseInt hnumber), hstop, List.append_nil,
      List.getLast?_append_of_ne_nil _ hne]
    exact ⟨hnumber, letter, hlast, hunit⟩
  · rintro ⟨hnumber, letter, hlast, hunit⟩
    have hsplit : text.takeWhile isNumberChar ++ text.dropWhile isNumberChar = text :=
      List.takeWhile_append_dropWhile
    have hne : text.dropWhile isNumberChar ≠ [] := by
      intro hnil
      have hmem : letter ∈ text.takeWhile isNumberChar := by
        rw [hnil, List.append_nil] at hsplit
        rw [hsplit]
        exact List.mem_of_getLast? hlast
      have htrue := List.mem_takeWhile_imp hmem
      rw [isNumberChar_of_timeUnit hunit] at htrue
      cases htrue
    have hrest : ∀ c ∈ (text.dropWhile isNumberChar).head?, isNumberChar c = false := by
      intro c hc
      have hhead := List.head?_dropWhile_not isNumberChar text
      rwa [show (text.dropWhile isNumberChar).head? = some c from hc] at hhead
    rw [← hsplit, List.getLast?_append_of_ne_nil _ hne] at hlast
    have hnames := Names.intro hnumber hrest hlast hunit
    rwa [hsplit] at hnames

section Parse

variable (clock : Clock) {text : Str}

theorem parseRelativeTime_of_names {num : Int64} {unit : TimeUnit}
    (hnames : Names text num.toInt unit) :
    parseRelativeTime clock text =
      match clock.before unit num.toInt.natAbs with
      | none => .error .panics
      | some start => .ok (start, clock.now) := by
  obtain ⟨hnumber, letter, hlast, hunit⟩ := names_iff.mp hnames
  have hread : (Decimal.parseInt (text.takeWhile fun c => c.isDigit || c = '-')).bind toI64 =
      some num := by
    change (Decimal.parseInt (text.takeWhile isNumberChar)).bind toI64 = some num
    rw [hnumber, Option.bind_some, toI64_toInt]
  rw [parseRelativeTime, hread]
  dsimp only
  rw [hlast]
  cases hstart : clock.before unit num.toInt.natAbs with
  | none => simp only [hunit, hstart]
  | some start => simp only [hunit, hstart]

theorem parseRelativeTime_of_not_names
    (hnames : ∀ (num : Int64) (unit : TimeUnit), ¬ Names text num.toInt unit) :
    ∃ message, parseRelativeTime clock text = invalid message := by
  unfold parseRelativeTime
  split
  · exact ⟨_, rfl⟩
  · next num hread =>
    split
    · exact ⟨_, rfl⟩
    · next letter hlast =>
      split
      · exact ⟨_, rfl⟩
      · next unit hunit =>
        obtain ⟨n, hnumber, hnum⟩ := Option.bind_eq_some_iff.mp hread
        rw [← toI64_eq_some hnum] at hnumber
        exact absurd (names_iff.mpr ⟨hnumber, letter, hlast, hunit⟩) (hnames num unit)

end Parse

/-! ## Filters -/

section Filters

variable {render : DateTime → Str} {now : DateTime} {filter : Filter}

theorem addFilter_eq {kind : FilterKind} (hkind : filter.kind = some kind) (clock : Clock)
    (builder : QueryBuilder) :
    builder.addFilter clock filter =
      (kind.attach clock filter.value).map fun attached =>
        ⟨builder.conditions ++ [attached.1], builder.bindings ++ attached.2⟩ := by
  rw [QueryBuilder.addFilter, hkind]
  dsimp only
  cases kind.attach clock filter.value <;> rfl

theorem attach_timeRelative (clock : Clock) (text : Str) :
    FilterKind.timeRelative.attach clock (.string text) =
      (parseRelativeTime clock text).map fun interval =>
        (str "time BETWEEN ? AND ?", [.string interval.1, .string interval.2]) := by
  rw [FilterKind.attach]
  dsimp only [Json.Value.asStr]
  cases parseRelativeTime clock text <;> rfl

theorem attach_eq_panics {clock : Clock} {value : Json.Value} {kind : FilterKind}
    (h : kind.attach clock value = .error .panics) :
    kind = .timeRelative ∧ ∃ text, value = .string text ∧
      parseRelativeTime clock text = .error .panics := by
  cases kind with
  | timeRelative =>
    refine ⟨rfl, ?_⟩
    cases value with
    | string text =>
      refine ⟨text, rfl, ?_⟩
      rw [attach_timeRelative] at h
      cases hparse : parseRelativeTime clock text with
      | error refusal =>
        rw [hparse] at h
        cases h
        rfl
      | ok interval =>
        rw [hparse] at h
        cases h
    | _ => cases h
  | timeBetween | isIn | elapsedMs | elapsedNs =>
    dsimp only [FilterKind.attach] at h
    split at h <;> cases h
  | timeCompare | like | isEq | reasonEq | reasonLike => cases h

section Relative

variable {text : Str} (hkind : filter.kind = some .timeRelative)
  (hvalue : filter.value = .string text)

include hkind hvalue

theorem addFilter_timeRelative (clock : Clock) (builder : QueryBuilder) :
    builder.addFilter clock filter =
      (parseRelativeTime clock text).map fun interval =>
        ⟨builder.conditions ++ [str "time BETWEEN ? AND ?"],
          builder.bindings ++ [.string interval.1, .string interval.2]⟩ := by
  rw [addFilter_eq hkind, hvalue, attach_timeRelative]
  cases parseRelativeTime clock text <;> rfl

variable {num : Int64} {unit : TimeUnit}

theorem binds_relative (hnames : Names text num.toInt unit)
    (hrange : firstInstant ≤ now.nanos - num.toInt.natAbs * unit.seconds * 10 ^ 9)
    (builder : QueryBuilder) :
    ∃ start : DateTime, now.nanos - start.nanos = num.toInt.natAbs * unit.seconds * 10 ^ 9 ∧
      Binds builder [.string (render start), .string (render now)]
        (builder.addFilter (chronoClock render now) filter) := by
  obtain ⟨start, hlength, hbefore⟩ := exists_start render now hrange
  refine ⟨start, hlength, str "time BETWEEN ? AND ?", ?_⟩
  rw [addFilter_timeRelative hkind hvalue, parseRelativeTime_of_names _ hnames, hbefore]
  rfl

theorem refused_relative (hnames : ∀ (num : Int64) (unit : TimeUnit), ¬ Names text num.toInt unit)
    (clock : Clock) (builder : QueryBuilder) : Refused (builder.addFilter clock filter) := by
  obtain ⟨message, hparse⟩ := parseRelativeTime_of_not_names clock hnames
  refine ⟨message, ?_⟩
  rw [addFilter_timeRelative hkind hvalue, hparse]
  rfl

theorem Safe.le_of_names (hsafe : Safe render now filter) (hnames : Names text num.toInt unit) :
    firstInstant ≤ now.nanos - num.toInt.natAbs * unit.seconds * 10 ^ 9 := by
  have hfits : unit.Fits num.toInt.natAbs := by
    constructor
    · by_contra hlarge
      refine hsafe.no_wrap (.abs hkind hvalue hnames (toI64_eq_none.mpr (.inr ?_)))
      omega
    · rintro rfl
      by_contra hlarge
      refine hsafe.no_wrap (.days hkind hvalue hnames (toI64_eq_none.mpr (.inr ?_)))
      omega
  cases hbefore : (chronoClock render now).before unit num.toInt.natAbs with
  | none =>
    refine absurd ?_ (hsafe.no_panic {})
    rw [addFilter_timeRelative hkind hvalue, parseRelativeTime_of_names _ hnames, hbefore]
    rfl
  | some start => exact le_of_before render now hfits hbefore

end Relative

theorem InRange.no_wrap (hrange : InRange now filter) : ¬ Wraps filter := by
  have hfits : ∀ {text : Str} {num : Int64} {unit : TimeUnit},
      filter.kind = some .timeRelative → filter.value = .string text →
        Names text num.toInt unit → unit.Fits num.toInt.natAbs := by
    intro text num unit hkind hvalue hnames
    have hle := hrange.relative text num unit hkind hvalue hnames
    exact (TimeUnit.duration_eq_of_le (le_maxSeconds now hle)).1
  rintro (⟨hkind, hvalue, hwraps⟩ | ⟨hkind, hvalue, hnames, hwraps⟩ |
    ⟨hkind, hvalue, hnames, hwraps⟩)
  · have hle := hrange.elapsed _ _ hkind hvalue
    rw [toI64_eq_none] at hwraps
    omega
  · have hlt := (hfits hkind hvalue hnames).1
    rw [toI64_eq_none] at hwraps
    omega
  · have hlt := (hfits hkind hvalue hnames).2 rfl
    rw [toI64_eq_none] at hwraps
    omega

theorem InRange.no_panic (hrange : InRange now filter) (builder : QueryBuilder) :
    builder.addFilter (chronoClock render now) filter ≠ .error .panics := by
  cases hkind : filter.kind with
  | none =>
    rw [QueryBuilder.addFilter, hkind]
    exact fun h => by cases h
  | some kind =>
    intro hpanics
    rw [addFilter_eq hkind] at hpanics
    have hattach : kind.attach (chronoClock render now) filter.value = .error .panics := by
      cases hattach : kind.attach (chronoClock render now) filter.value with
      | error refusal =>
        rw [hattach] at hpanics
        cases hpanics
        rfl
      | ok attached =>
        rw [hattach] at hpanics
        cases hpanics
    obtain ⟨rfl, text, hvalue, hparse⟩ := attach_eq_panics hattach
    by_cases hnames : ∃ (num : Int64) (unit : TimeUnit), Names text num.toInt unit
    · obtain ⟨num, unit, hnames⟩ := hnames
      have hle := hrange.relative text num unit hkind hvalue hnames
      obtain ⟨start, -, hbefore⟩ := exists_start render now hle
      rw [parseRelativeTime_of_names _ hnames, hbefore] at hparse
      cases hparse
    · obtain ⟨message, hrefused⟩ := parseRelativeTime_of_not_names (chronoClock render now)
        fun num unit h => hnames ⟨num, unit, h⟩
      rw [hrefused] at hparse
      cases hparse

theorem InRange.binds_elapsed (hrange : InRange now filter) {comparison : Comparison} {v : Int64}
    (hkind : filter.kind = some (.elapsedMs comparison)) (hvalue : filter.value.asI64 = some v)
    (clock : Clock) (builder : QueryBuilder) :
    Binds builder [.number (Decimal.showInt (v.toInt * 1000000))]
      (builder.addFilter clock filter) := by
  have hle := hrange.elapsed comparison v hkind hvalue
  have hmillion : (1000000 : Int64).toInt = 1000000 := rfl
  have hproduct : (v * 1000000).toInt = v.toInt * 1000000 := by
    rw [toInt_mul_of_fits] <;> rw [hmillion] <;> omega
  refine ⟨str "elapsed_ns " ++ comparison.sql ++ str " ?", ?_⟩
  rw [addFilter_eq hkind, FilterKind.attach, hvalue]
  dsimp only
  rw [Json.Value.ofI64, hproduct]
  rfl

end Filters

/-- **Which filters are safe**: those whose milliseconds are at most 9223372036854 in
either direction, and whose relative time does not lead before the year -262143. -/
theorem safe_iff (render : DateTime → Str) (now : DateTime) (filter : Filter) :
    Safe render now filter ↔ InRange now filter := by
  constructor
  · intro hsafe
    refine ⟨fun comparison v hkind hvalue => ?_, fun text num unit hkind hvalue hnames =>
      hsafe.le_of_names hkind hvalue hnames⟩
    by_contra hlarge
    refine hsafe.no_wrap (.elapsed hkind hvalue (toI64_eq_none.mpr ?_))
    omega
  · intro hrange
    refine ⟨hrange.no_panic, hrange.no_wrap, fun builder comparison v hkind hvalue =>
      .inr (hrange.binds_elapsed hkind hvalue _ builder), ?_⟩
    intro builder number num letter unit hkind hvalue hnumber hunit
    have hletter : ∀ c ∈ [letter].head?, isNumberChar c = false := by
      rintro c ⟨⟩
      exact isNumberChar_of_timeUnit hunit
    have hnames : Names (number ++ [letter]) num unit := .intro hnumber hletter rfl hunit
    cases hnum : toI64 num with
    | some value =>
      obtain rfl := toI64_eq_some hnum
      exact .inr (binds_relative hkind hvalue hnames
        (hrange.relative _ _ _ hkind hvalue hnames) builder)
    | none =>
      refine .inl (refused_relative hkind hvalue (fun other unit' hother => ?_) _ builder)
      have hsame := (names_iff.mp hnames).1.symm.trans (names_iff.mp hother).1
      rw [Option.some.inj hsame, toI64_toInt] at hnum
      cases hnum

/-! ### Filters that are not safe -/

section Unsafe

def newYear2026 : DateTime :=
  ⟨Calendar.daysOfYears 2026 * 86400 * 10 ^ 9, by decide, by decide⟩

def newYearClock : Clock := chronoClock (fun time => Decimal.showInt time.nanos) newYear2026

def slowQueries : Filter := ⟨str "elapsed_ms", str "gt", .number (str "9223372036855")⟩

def manyMonths : Filter := ⟨str "time", str "relative", .string (str "614891469123651721M")⟩

def manyHours : Filter := ⟨str "time", str "relative", .string (str "8766000000h")⟩

theorem wraps_slowQueries : Wraps slowQueries :=
  @Wraps.elapsed slowQueries .gt 9223372036855 rfl (by decide +kernel) (by decide)

theorem wraps_manyMonths : Wraps manyMonths :=
  @Wraps.days manyMonths _ 614891469123651721 rfl rfl
    (names_iff.mpr ⟨by decide +kernel, 'M', rfl, rfl⟩) (by decide)

/-- Two of the filters wrap around, and the third panics. -/
theorem not_safe_slowQueries :
    ¬ Safe (fun time => Decimal.showInt time.nanos) newYear2026 slowQueries ∧
      ¬ Safe (fun time => Decimal.showInt time.nanos) newYear2026 manyMonths ∧
        ¬ Safe (fun time => Decimal.showInt time.nanos) newYear2026 manyHours := by
  refine ⟨fun hsafe => hsafe.no_wrap wraps_slowQueries,
    fun hsafe => hsafe.no_wrap wraps_manyMonths, fun hsafe => hsafe.no_panic {} ?_⟩
  change QueryBuilder.addFilter newYearClock {} manyHours = .error .panics
  rfl

end Unsafe

end RustDns.Api.QueryLogAdvanced
