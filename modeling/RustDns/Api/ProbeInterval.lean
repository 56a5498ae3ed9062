import RustDns.Rfc3339
import RustDns.Api.Upstreams

/-!
# The interval between two probes

The health task of the API wakes up every thirty seconds and goes through the upstreams.  An
upstream has an interval of its own, and is to be probed again only when so many seconds have passed
since `last_health_check_at`.

The task writes that column as RFC 3339, but it is a `TIMESTAMP`: PostgreSQL gives it back as
`2026-01-31 12:00:00.5`, without an offset (`not_hasOffset_columnText`).  `parse_from_rfc3339` asks
for one, and a text that is not read counts as due (`spaced_iff`).
-/

namespace RustDns.Api.ProbeInterval

open Rfc3339

/-! ## The texts of a time -/

def HasOffset (s : Str) : Prop := ∃ zone : Zone, zone.text <:+ s

/-- The part of `chrono` that the task uses. -/
class ChronoCrate where
  /-- `DateTime::parse_from_rfc3339(s).ok()`, as the instant. -/
  parseFromRfc3339 : Str → Option ℚ
  /-- A text without an offset is refused. -/
  hasOffset_of_parse : ∀ {s instant}, parseFromRfc3339 s = some instant → HasOffset s

@[reducible] def ChronoCrate.readings (known : List Utc) : ChronoCrate where
  parseFromRfc3339 := fun s => (known.find? (·.toRfc3339 == s)).map Utc.instant
  hasOffset_of_parse := by
    intro s instant hparse
    obtain ⟨reading, hfind, -⟩ := Option.map_eq_some_iff.mp hparse
    have htext : reading.toRfc3339 = s := by simpa using List.find?_some hfind
    refine ⟨Zone.zero, ?_⟩
    rw [← htext, Utc.toRfc3339, ← List.append_assoc]
    exact List.suffix_append _ _

/-- The time of day of a `TIMESTAMP`, with its fraction and the era. -/
def timeText (t : Utc) : Str :=
  decimal 2 t.hour ++ ':' :: (decimal 2 t.minute ++ ':' :: (decimal 2 t.second ++
    (fractionText ((digits 6 (t.nanos / 1000)).rdropWhile (·.val == 0)) ++
      if 0 < t.year then [] else str " BC")))

/-- The year of a `TIMESTAMP`, without its era. -/
def yearDigits (year : ℤ) : Str :=
  let n := (if 0 < year then year else 1 - year).toNat
  if n < 10000 then decimal 4 n else Nat.toDigits 10 n

/-- The text of a `TIMESTAMP`. -/
def columnText (t : Utc) : Str :=
  yearDigits t.year ++ '-' :: (decimal 2 t.month ++ '-' :: (decimal 2 t.day ++ ' ' :: timeText t))

def offsetStarts : Str := ['+', '-', 'Z', 'z']

theorem digitChar_not_mem (d : Fin 10) : digitChar d ∉ offsetStarts := by
  revert d
  decide

theorem disjoint_decimal (width n : ℕ) : (decimal width n).Disjoint offsetStarts := by
  intro c hc
  obtain ⟨d, -, rfl⟩ := List.mem_map.mp hc
  exact digitChar_not_mem d

theorem disjoint_fractionText (ds : List (Fin 10)) : (fractionText ds).Disjoint offsetStarts := by
  cases ds with
  | nil => exact List.disjoint_nil_left _
  | cons d ds =>
    rw [fractionText, List.disjoint_cons_left]
    refine ⟨by decide, fun c hc => ?_⟩
    obtain ⟨d, -, rfl⟩ := List.mem_map.mp hc
    exact digitChar_not_mem d

theorem disjoint_timeText (t : Utc) : (timeText t).Disjoint offsetStarts := by
  have hera : (if 0 < t.year then [] else str " BC").Disjoint offsetStarts := by
    split_ifs
    · exact List.disjoint_nil_left _
    · simp [str, offsetStarts]
  have hcolon : ':' ∉ offsetStarts := by decide
  simp only [timeText, List.disjoint_append_left, List.disjoint_cons_left]
  exact ⟨disjoint_decimal _ _, hcolon, disjoint_decimal _ _, hcolon, disjoint_decimal _ _,
    disjoint_fractionText _, hera⟩

theorem exists_zone_text_eq (zone : Zone) : ∃ c ∈ offsetStarts, ∃ rest, zone.text = c :: rest := by
  cases zone with
  | utc lower =>
    cases lower with
    | false => exact ⟨'Z', by decide, [], rfl⟩
    | true => exact ⟨'z', by decide, [], rfl⟩
  | offset west hour minute =>
    cases west with
    | false => exact ⟨'+', by decide, _, rfl⟩
    | true => exact ⟨'-', by decide, _, rfl⟩

theorem length_timeText (t : Utc) : 6 ≤ (timeText t).length := by
  simp [timeText, decimal, length_digits]
  omega

theorem length_zone_text (zone : Zone) : zone.text.length ≤ 6 := by
  cases zone with
  | utc lower => simp [Zone.text]
  | offset west hour minute => simp [Zone.text, decimal, length_digits]

/-- **The column comes back without an offset.**  It would have to be in the time of day. -/
theorem not_hasOffset_columnText (t : Utc) : ¬ HasOffset (columnText t) := by
  rintro ⟨zone, hsuffix⟩
  have htime : timeText t <:+ columnText t := by
    have hdate : columnText t = (yearDigits t.year ++ '-' :: (decimal 2 t.month ++
        '-' :: (decimal 2 t.day ++ [' ']))) ++ timeText t := by
      simp [columnText]
    exact ⟨_, hdate.symm⟩
  have hzone : zone.text <:+ timeText t :=
    List.suffix_of_suffix_length_le hsuffix htime
      ((length_zone_text zone).trans (length_timeText t))
  obtain ⟨c, hc, rest, htext⟩ := exists_zone_text_eq zone
  have hmem : c ∈ zone.text := htext ▸ List.mem_cons_self
  exact disjoint_timeText t (hzone.mem hmem) hc

/-! ## The task -/

def numSeconds (duration : ℚ) : ℤ := if 0 ≤ duration then ⌊duration⌋ else ⌈duration⌉

/-- The rows of `dns_upstreams`, the column `last_health_check_at` by the id of the row, and the
task. -/
structure State where
  upstreams : Table DnsUpstream.id
  lastHealthCheckAt : Str → Option Utc
  /-- The rows that the task has read and not come to yet, with the text of the column. -/
  pending : List (DnsUpstream × Option Str)
  /-- When the last probe of an upstream by the task has started. -/
  lastStart : Str → Option Utc

structure Visit where
  /-- `Utc::now()` of the test whether the row is due. -/
  now : Utc
  start : Utc
  success : Bool
  /-- `Utc::now()` after the probe. -/
  finish : Utc
  /-- Whether the row is updated.  An error is only logged. -/
  updated : Bool

inductive Event where
  /-- The task wakes up, and reads the rows in some order. -/
  | tick (rows : List DnsUpstream)
  /-- It comes to the next row. -/
  | visit (visit : Visit)
  /-- The other tasks have changed the table, or the column. -/
  | others (upstreams : Table DnsUpstream.id) (lastHealthCheckAt : Str → Option Utc)

structure StartedProbe where
  id : Str
  intervalSecs : ℤ
  start : Utc

section Task

variable [SerdeJson] [ChronoCrate] (toColumn : Utc → Utc)

def isDue (lastCheckAt : Option Str) (now : Utc) (intervalSecs : ℤ) : Bool :=
  ((lastCheckAt.bind ChronoCrate.parseFromRfc3339).map fun last =>
    decide (intervalSecs ≤ numSeconds (now.instant - last))).getD true

def selected (upstreams : Table DnsUpstream.id) : List DnsUpstream :=
  upstreams.rows.filter fun row => row.isActive && row.healthCheckEnabled

/-- The statement at the end of a probe.  The column gets what the time zone of the session makes of
the time, rounded. -/
def update (state : State) (id : Str) (visit : Visit) : State :=
  if visit.updated then
    { state with
      upstreams := state.upstreams.updateWhere (·.id == id)
        (fun row => { row with healthStatus := Upstreams.statusText visit.success }) fun _ => rfl
      lastHealthCheckAt :=
        Function.update state.lastHealthCheckAt id (some (toColumn visit.finish)) }
  else state

def handleRow (state : State) (row : DnsUpstream) (lastCheckAt : Option Str) (visit : Visit) :
    State × Option StartedProbe :=
  if !isDue lastCheckAt visit.now row.healthCheckInterval then (state, none)
  else
    match SerdeJson.stringVec row.addresses with
    | some (_ :: _) =>
      ({ update toColumn state row.id visit with
          lastStart := Function.update state.lastStart row.id (some visit.start) },
        some ⟨row.id, row.healthCheckInterval, visit.start⟩)
    | _ => (state, none)

def step (state : State) : Event → State × Option StartedProbe
  | .tick rows =>
    if state.pending = [] ∧ rows.Perm (selected state.upstreams) then
      ({ state with
          pending := rows.map fun row =>
            (row, (state.lastHealthCheckAt row.id).map columnText) }, none)
    else (state, none)
  | .visit visit =>
    match state.pending with
    | [] => (state, none)
    | (row, lastCheckAt) :: rest =>
      handleRow toColumn { state with pending := rest } row lastCheckAt visit
  | .others upstreams lastHealthCheckAt => ({ state with upstreams, lastHealthCheckAt }, none)

/-! ## Always due -/

omit [SerdeJson] in
theorem isDue_columnText (column : Option Utc) (now : Utc) (intervalSecs : ℤ) :
    isDue (column.map columnText) now intervalSecs = true := by
  have hnone : (column.map columnText).bind ChronoCrate.parseFromRfc3339 = none := by
    cases column with
    | none => rfl
    | some t =>
      rw [Option.map_some, Option.bind_some, Option.eq_none_iff_forall_ne_some]
      intro instant hparse
      exact not_hasOffset_columnText t (ChronoCrate.hasOffset_of_parse hparse)
  rw [isDue, hnone]
  rfl

def State.ReadsColumn (state : State) : Prop :=
  ∀ entry ∈ state.pending, ∃ column : Option Utc, entry.2 = column.map columnText

variable {toColumn}

omit [SerdeJson] [ChronoCrate] in
theorem pending_update (state : State) (id : Str) (visit : Visit) :
    (update toColumn state id visit).pending = state.pending := by
  unfold update
  split_ifs <;> rfl

theorem pending_handleRow (state : State) (row : DnsUpstream) (lastCheckAt : Option Str)
    (visit : Visit) :
    (handleRow toColumn state row lastCheckAt visit).1.pending = state.pending := by
  unfold handleRow
  split_ifs
  · rfl
  · split
    · exact pending_update state row.id visit
    · rfl

variable {state : State}

theorem readsColumn_step (hreads : state.ReadsColumn) (event : Event) :
    (step toColumn state event).1.ReadsColumn := by
  cases event with
  | tick rows =>
    rw [step]
    split_ifs
    · intro entry hentry
      obtain ⟨row, -, rfl⟩ := List.mem_map.mp hentry
      exact ⟨_, rfl⟩
    · exact hreads
  | visit visit =>
    rw [step]
    split
    · exact hreads
    · next row lastCheckAt rest hpending =>
        intro entry hentry
        rw [pending_handleRow] at hentry
        exact hreads entry (hpending ▸ List.mem_cons_of_mem _ hentry)
  | others upstreams lastHealthCheckAt => exact hreads

theorem snd_handleRow {row : DnsUpstream} {lastCheckAt : Option Str} {visit : Visit}
    (hdue : isDue lastCheckAt visit.now row.healthCheckInterval = true) {probe : StartedProbe} :
    probe ∈ (handleRow toColumn state row lastCheckAt visit).2 ↔
      (∃ first others, SerdeJson.stringVec row.addresses = some (first :: others)) ∧
        probe = ⟨row.id, row.healthCheckInterval, visit.start⟩ := by
  unfold handleRow
  rw [hdue]
  rcases haddresses : SerdeJson.stringVec row.addresses with _ | _ | ⟨first, others⟩
  · simp
  · simp
  · simp [eq_comm]

/-! ## Two probes of one upstream -/

def Apart (intervalSecs : ℤ) (before start : Utc) : Prop :=
  (intervalSecs : ℚ) ≤ start.instant - before.instant

/-- A probe starts no sooner than an interval after the start of the last probe of its upstream. -/
def Spaced (state : State) (probe : Option StartedProbe) : Prop :=
  ∀ started ∈ probe, ∀ before ∈ state.lastStart started.id,
    Apart started.intervalSecs before started.start

instance (intervalSecs : ℤ) (before start : Utc) : Decidable (Apart intervalSecs before start) :=
  inferInstanceAs (Decidable ((intervalSecs : ℚ) ≤ start.instant - before.instant))

/-- When the task comes to a row that it can probe, an interval has passed since the start of the
last probe. -/
def ComesSeldom (state : State) : Event → Prop
  | .visit visit => ∀ row lastCheckAt rest, state.pending = (row, lastCheckAt) :: rest →
      (∃ first others, SerdeJson.stringVec row.addresses = some (first :: others)) →
        ∀ before ∈ state.lastStart row.id, Apart row.healthCheckInterval before visit.start
  | _ => True

theorem spaced_step_iff (hreads : state.ReadsColumn) (event : Event) :
    Spaced state (step toColumn state event).2 ↔ ComesSeldom state event := by
  cases event with
  | tick rows =>
    have hnone : (step toColumn state (.tick rows)).2 = none := by
      rw [step]
      split_ifs <;> rfl
    rw [hnone]
    exact iff_of_true (fun _ h => nomatch h) trivial
  | visit visit =>
    cases hpending : state.pending with
    | nil =>
      have hnone : (step toColumn state (.visit visit)).2 = none := by
        rw [step, hpending]
      rw [hnone]
      refine iff_of_true (fun _ h => nomatch h) fun row lastCheckAt rest hcons => ?_
      exact nomatch hpending.symm.trans hcons
    | cons entry rest =>
      obtain ⟨row, lastCheckAt⟩ := entry
      obtain ⟨column, rfl⟩ : ∃ column : Option Utc, lastCheckAt = column.map columnText :=
        hreads (row, lastCheckAt) (hpending ▸ List.mem_cons_self)
      have hdue := isDue_columnText column visit.now row.healthCheckInterval
      have hstep : (step toColumn state (.visit visit)).2 =
          (handleRow toColumn { state with pending := rest } row (column.map columnText)
            visit).2 := by
        rw [step, hpending]
      rw [hstep]
      constructor
      · intro hspaced row' lastCheckAt' rest' hcons haddresses before hbefore
        obtain ⟨heq, -⟩ := List.cons.inj (hpending.symm.trans hcons)
        obtain ⟨rfl, -⟩ := Prod.mk.inj heq
        exact hspaced _ ((snd_handleRow hdue).mpr ⟨haddresses, rfl⟩) before hbefore
      · intro hseldom started hstarted before hbefore
        obtain ⟨haddresses, rfl⟩ := (snd_handleRow hdue).mp hstarted
        exact hseldom row _ rest hpending haddresses before hbefore
  | others upstreams lastHealthCheckAt => exact iff_of_true (fun _ h => nomatch h) trivial

def begin (upstreams : Table DnsUpstream.id) (lastHealthCheckAt : Str → Option Utc) : State :=
  ⟨upstreams, lastHealthCheckAt, [], fun _ => none⟩

/-- **When the intervals are kept.**  In any run, the probes of every upstream are an interval apart
if and only if the task comes to no upstream sooner than an interval after its last probe. -/
theorem spaced_iff (toColumn : Utc → Utc) (upstreams : Table DnsUpstream.id)
    (lastHealthCheckAt : Str → Option Utc) (events : List Event) :
    (∀ point ∈ Machine.trace (step toColumn) (begin upstreams lastHealthCheckAt) events,
        Spaced point.1 (step toColumn point.1 point.2).2) ↔
      ∀ point ∈ Machine.trace (step toColumn) (begin upstreams lastHealthCheckAt) events,
        ComesSeldom point.1 point.2 := by
  have hinit : (begin upstreams lastHealthCheckAt).ReadsColumn :=
    fun entry hentry => absurd hentry List.not_mem_nil
  have hreads := (Machine.forall_trace (step toColumn) State.ReadsColumn (fun _ _ => True)
    (fun _ event hreads _ => readsColumn_step hreads event) hinit events fun _ _ => trivial).2
  exact forall₂_congr fun point hpoint => spaced_step_iff (hreads point hpoint) point.2

end Task

/-! ## Two ticks -/

section Example

theorem january_mem : 1 ≤ (1 : ℕ) ∧ (1 : ℕ) ≤ 12 := by decide

def pastNoon (seconds : ℕ) : Utc where
  year := 2026
  month := 1
  day := 31
  hour := 12
  minute := seconds / 60 % 60
  second := seconds % 60
  nanos := 5 * 10 ^ 8
  month_mem := january_mem
  day_mem := by decide
  hour_lt := by decide
  minute_lt := Nat.mod_lt _ (Nat.zero_lt_succ _)
  second_le := (Nat.mod_lt _ (Nat.zero_lt_succ _)).le
  second_lt := Nat.mod_lt _ (Nat.zero_lt_succ _)
  nanos_lt := by norm_num

@[reducible] def tickChrono : ChronoCrate := .readings [pastNoon 0, pastNoon 30]

attribute [local instance] SerdeJson.plain tickChrono

def minutely : DnsUpstream :=
  ⟨str "u1", str "Quad9", str "[\"9.9.9.9\"]", 1, true, true, true, 60, 5, 3, str "healthy"⟩

def visitAt (time : Utc) : Visit := ⟨time, time, true, time, true⟩

def untilSecondVisit : List Event :=
  [.tick [minutely], .visit (visitAt (pastNoon 0)), .tick [minutely]]

/-- The upstream is probed in two ticks that are thirty seconds apart. -/
theorem not_spaced_twoTicks :
    ¬ ∀ point ∈ Machine.trace (step id)
        (begin ⟨[minutely], List.nodup_singleton _⟩ fun _ => none)
        (untilSecondVisit ++ [.visit (visitAt (pastNoon 30))]),
      Spaced point.1 (step id point.1 point.2).2 := by
  intro hspaced
  have hsecond := hspaced _ (Machine.mem_trace_append (step id) _ untilSecondVisit _ [])
  have hapart := hsecond ⟨str "u1", 60, pastNoon 30⟩ rfl (pastNoon 0) rfl
  revert hapart
  decide +kernel

end Example

end RustDns.Api.ProbeInterval
