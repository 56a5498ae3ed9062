import RustDns.Rfc3339
import RustDns.Dns.Filter

/-!
# Temporary rules and their instant

A custom rule may have a time at which it expires.  The handler that creates the rule stores
`expires_at` as the request has it, in whatever zone and with whatever fraction, and `reload`
compares it, as a text, with the clock reading in UTC.  `get_expiring_rules` casts the same
column to a time with a zone.

A rule is loaded until its instant, and not from then on, except in the cases of `Misjudged`
(`mem_liveRows_instant_iff`).  They lie within the offset of the stored time, and one second,
of the instant (`Misjudged.abs_sub_lt`), and there are none for a time that was written as the
back end writes its own (`mem_liveRows_toRfc3339_iff`).
-/

namespace RustDns

open Rfc3339

/-- `DateTime::to_rfc3339` of the `chrono` crate. -/
class ChronoCrate where
  toRfc3339 : Utc → Str
  toRfc3339_eq : ∀ now, toRfc3339 now = now.toRfc3339

@[reducible] def ChronoCrate.rfc3339 : ChronoCrate := ⟨Utc.toRfc3339, fun _ => rfl⟩

namespace Reload

open ChronoCrate

variable {db : Database} {row : CustomRule} {now : Utc} {expires : Timestamp}

theorem mem_liveRows_iff {now : Str} {expires : Str} (hrow : row ∈ db.customRules.rows)
    (henabled : row.isEnabled = true) (hexpires : row.expiresAt = some expires) :
    row ∈ liveRows now db ↔ now < expires := by
  simp [liveRows, isLive, hrow, henabled, hexpires]

/-- A rule whose time was written as the back end writes its clock readings is loaded until
that time. -/
theorem mem_liveRows_toRfc3339_iff [ChronoCrate] {expires : Utc}
    (hrow : row ∈ db.customRules.rows) (henabled : row.isEnabled = true)
    (hexpires : row.expiresAt = some (toRfc3339 expires)) (hnow : now.PlainYear)
    (hyear : expires.PlainYear) :
    row ∈ liveRows (toRfc3339 now) db ↔ now.instant < expires.instant := by
  rw [mem_liveRows_iff hrow henabled hexpires, toRfc3339_eq, toRfc3339_eq,
    Utc.toRfc3339_lt_iff hnow hyear]

/-- The cases in which the texts of a clock reading and of a time are not in the order of the
instants. -/
inductive Misjudged (now : Utc) (expires : Timestamp) : Prop
  /-- A year with a sign comes first, although the time is past. -/
  | signedYear (hyear : ¬ now.PlainYear) (hpast : expires.instant ≤ now.instant)
  /-- The fields of the time are those of a later one, although the time is past. -/
  | outlives (hfields : writtenFields now.toCivil false <
        writtenFields expires.toCivil expires.lower)
      (hpast : expires.instant ≤ now.instant)
  /-- The fields of the time are those of an earlier one, although the time is to come. -/
  | missed (hyear : now.PlainYear)
      (hfields : writtenFields expires.toCivil expires.lower < writtenFields now.toCivil false)
      (hfuture : now.instant < expires.instant)
  /-- The fields are the same, and the rest of the clock reading comes first, although the
  time is past. -/
  | outlivesInSecond (hfields : writtenFields now.toCivil false =
        writtenFields expires.toCivil expires.lower)
      (htail : tailBefore expires.zone now.fraction expires.fraction = true)
      (hpast : expires.instant ≤ now.instant)
  /-- The fields are the same, and the rest of the clock reading does not come first, although
  the time is to come. -/
  | missedInSecond (hfields : writtenFields now.toCivil false =
        writtenFields expires.toCivil expires.lower)
      (htail : tailBefore expires.zone now.fraction expires.fraction = false)
      (hfuture : now.instant < expires.instant)

theorem plainYear_of_writtenFields_eq
    (h : writtenFields now.toCivil false = writtenFields expires.toCivil expires.lower) :
    now.PlainYear := by
  have hyear : now.year = expires.year := (List.cons.inj h).1
  unfold Utc.PlainYear
  rw [hyear]
  exact expires.year_mem

theorem misjudged_iff (now : Utc) (expires : Timestamp) :
    Misjudged now expires ↔ (now.Before expires ∧ expires.instant ≤ now.instant ∨
        ¬ now.Before expires ∧ now.instant < expires.instant) := by
  constructor
  · rintro (⟨hyear, hpast⟩ | ⟨hfields, hpast⟩ | ⟨hyear, hfields, hfuture⟩ |
      ⟨hfields, htail, hpast⟩ | ⟨hfields, htail, hfuture⟩)
    · exact Or.inl ⟨Or.inl hyear, hpast⟩
    · exact Or.inl ⟨Or.inr (Or.inl hfields), hpast⟩
    · refine Or.inr ⟨?_, hfuture⟩
      rintro (hsigned | hlt | ⟨heq, -⟩)
      · exact hsigned hyear
      · exact hfields.not_gt hlt
      · exact hfields.ne' heq
    · exact Or.inl ⟨Or.inr (Or.inr ⟨hfields, htail⟩), hpast⟩
    · refine Or.inr ⟨?_, hfuture⟩
      rintro (hsigned | hlt | ⟨-, htrue⟩)
      · exact hsigned (plainYear_of_writtenFields_eq hfields)
      · exact hlt.ne hfields
      · exact Bool.false_ne_true (htail.symm.trans htrue)
  · rintro (⟨hyear | hlt | ⟨heq, htail⟩, hpast⟩ | ⟨hbefore, hfuture⟩)
    · exact .signedYear hyear hpast
    · exact .outlives hlt hpast
    · exact .outlivesInSecond heq htail hpast
    · simp only [Utc.Before, not_or, not_and, not_not] at hbefore
      obtain ⟨hyear, hnlt, htail⟩ := hbefore
      rcases (not_lt.mp hnlt).lt_or_eq with hgt | heq
      · exact .missed hyear hgt hfuture
      · exact .missedInSecond heq.symm (Bool.eq_false_of_not_eq_true (htail heq.symm)) hfuture

/-- The instants are closer than the offset and a second, in a time with a capital letter
between date and time that is not a leap second. -/
theorem Misjudged.abs_sub_lt (h : Misjudged now expires) (hyear : now.PlainYear)
    (hlower : expires.lower = false) (hsecond : expires.second < 60) :
    |now.instant - expires.instant| < |(expires.zone.seconds : ℚ)| + 1 := by
  have hwritten : expires.instant + expires.zone.seconds =
      expires.toCivil.seconds + fractionValue expires.fraction := by
    rw [Timestamp.instant]
    ring
  have hnow := now.instant_eq
  have heast := le_abs_self (expires.zone.seconds : ℚ)
  have hwest := neg_le_abs (expires.zone.seconds : ℚ)
  -- without the offset the fields are in the order of the instants
  have hsame : writtenFields now.toCivil false = writtenFields expires.toCivil expires.lower →
      |now.instant - expires.instant| < |(expires.zone.seconds : ℚ)| + 1 := by
    intro hfields
    have hseconds : (now.toCivil.seconds : ℚ) = expires.toCivil.seconds := by
      rw [seconds_eq_of_writtenFields_eq hfields]
    have hnow0 := fractionValue_nonneg now.fraction
    have hnow1 := fractionValue_lt_one now.fraction
    have hexpires0 := fractionValue_nonneg expires.fraction
    have hexpires1 := fractionValue_lt_one expires.fraction
    rw [abs_lt]
    constructor <;> linarith
  rw [hlower] at hsame
  rcases h with ⟨hsigned, -⟩ | ⟨hfields, hpast⟩ | ⟨-, hfields, hfuture⟩ | ⟨hfields, -, -⟩ |
    ⟨hfields, -, -⟩
  · exact absurd hyear hsigned
  · rw [hlower] at hfields
    have hlt := add_fractionValue_lt (seconds_lt_of_writtenFields_lt now.second_lt hfields)
      now.fraction expires.fraction
    rw [abs_of_nonneg (sub_nonneg.mpr hpast)]
    linarith
  · rw [hlower] at hfields
    have hlt := add_fractionValue_lt (seconds_lt_of_writtenFields_lt hsecond hfields)
      expires.fraction now.fraction
    rw [abs_of_neg (sub_neg.mpr hfuture)]
    linarith
  · exact hsame (hlower ▸ hfields)
  · exact hsame (hlower ▸ hfields)

/-- A rule with a time is loaded exactly until its instant, unless the texts misjudge it. -/
theorem mem_liveRows_instant_iff [ChronoCrate] (now : Utc) (expires : Timestamp) (db : Database)
    (row : CustomRule) (hrow : row ∈ db.customRules.rows) (henabled : row.isEnabled = true)
    (hexpires : row.expiresAt = some expires.text) :
    (row ∈ liveRows (toRfc3339 now) db ↔ now.instant < expires.instant) ↔
      ¬ Misjudged now expires := by
  rw [mem_liveRows_iff hrow henabled hexpires, toRfc3339_eq, Utc.toRfc3339_lt_text_iff,
    misjudged_iff, ← not_lt]
  by_cases hbefore : now.Before expires <;> by_cases hlater : now.instant < expires.instant <;>
    simp [hbefore, hlater]

def newYear (hour : Fin 24) : Calendar.Civil where
  year := 2026
  month := 1
  day := 1
  hour := hour
  minute := 0
  second := 0
  month_mem := by decide
  day_mem := by decide
  hour_lt := hour.isLt
  minute_lt := Nat.zero_lt_succ _
  second_le := Nat.zero_le _

/-- A full hour of that day as the clocks show it in a zone that is some hours ahead. -/
def eastOfUtc (ahead hour : Fin 24) : Timestamp :=
  { newYear hour with
    lower := false
    fraction := []
    zone := .offset false ahead ⟨0, Nat.zero_lt_succ _⟩
    year_mem := show (0 : ℤ) ≤ 2026 ∧ (2026 : ℤ) ≤ 9999 by decide }

def atHour (hour : Fin 24) : Utc :=
  { newYear hour with
    nanos := 0
    second_lt := Nat.zero_lt_succ _
    nanos_lt := Nat.zero_lt_succ _ }

def temporaryRule (expires : Timestamp) : CustomRule :=
  ⟨str "r1", str "||ads.example^", none, true, str "admin", str "2026-01-01T08:00:00+00:00",
    some expires.text⟩

def temporaryDb (expires : Timestamp) : Database :=
  { Database.empty with customRules := ⟨[temporaryRule expires], List.nodup_singleton _⟩ }

section Example

attribute [local instance] ChronoCrate.rfc3339

/-- A rule that expires at noon is still loaded an hour later, if noon is written in a zone that
is eight hours ahead. -/
theorem mem_liveRows_eastOfUtc :
    ¬ (temporaryRule (eastOfUtc 8 20) ∈
        liveRows (toRfc3339 (atHour 13)) (temporaryDb (eastOfUtc 8 20)) ↔
      (atHour 13).instant < (eastOfUtc 8 20).instant) := by
  decide +kernel

/-- An hour before noon it is loaded, as it should be. -/
theorem not_misjudged_eastOfUtc :
    temporaryRule (eastOfUtc 8 20) ∈
        liveRows (toRfc3339 (atHour 11)) (temporaryDb (eastOfUtc 8 20)) ∧
      ¬ Misjudged (atHour 11) (eastOfUtc 8 20) := by
  have hloaded : temporaryRule (eastOfUtc 8 20) ∈
      liveRows (toRfc3339 (atHour 11)) (temporaryDb (eastOfUtc 8 20)) := by decide +kernel
  have hlater : (atHour 11).instant < (eastOfUtc 8 20).instant := by decide +kernel
  refine ⟨hloaded, ?_⟩
  exact (mem_liveRows_instant_iff (atHour 11) (eastOfUtc 8 20) (temporaryDb (eastOfUtc 8 20))
    (temporaryRule (eastOfUtc 8 20)) List.mem_cons_self rfl rfl).mp (iff_of_true hloaded hlater)

theorem abs_sub_lt_eastOfUtc :
    |(atHour 13).instant - (eastOfUtc 8 20).instant| < |((eastOfUtc 8 20).zone.seconds : ℚ)| + 1 :=
  Misjudged.abs_sub_lt (.outlives (by decide +kernel) (by decide +kernel))
    (show (0 : ℤ) ≤ 2026 ∧ (2026 : ℤ) ≤ 9999 by decide) rfl (by decide)

theorem mem_liveRows_atHour :
    let row := { temporaryRule (eastOfUtc 0 12) with expiresAt := some (toRfc3339 (atHour 12)) }
    row ∈ liveRows (toRfc3339 (atHour 11))
        { Database.empty with customRules := ⟨[row], List.nodup_singleton _⟩ } ↔
      (atHour 11).instant < (atHour 12).instant :=
  mem_liveRows_toRfc3339_iff List.mem_cons_self rfl rfl
    (show (0 : ℤ) ≤ 2026 ∧ (2026 : ℤ) ≤ 9999 by decide)
    (show (0 : ℤ) ≤ 2026 ∧ (2026 : ℤ) ≤ 9999 by decide)

end Example

end Reload

end RustDns
