import RustDns.TumblingWindows
import RustDns.Db.QueryLogWriter

/-!
# Alerts for many blocked queries

The writer of the query log counts the blocked queries of each client, and raises an alert with the
fiftieth.  A count is kept with the time of its first query, and starts again with a query that
comes more than 60 whole seconds after it, so in windows of 61 seconds (`alertWindow`).

In a tick the writer forgets counts that are two minutes old, which makes no difference
(`alerts_eq_alerts_keeping`).  A burst of fifty queries within a minute may fall into two windows
and is missed then (`alerted_iff`), but not after a pause (`alerted_of_pause`), and a burst of 99
queries never is (`alerted_of_dense`).
-/

namespace RustDns.QueryLogWriter

open Text TumblingWindows

/-! ## What happens to the counts -/

def alertWindow : ℕ := 61 * 10 ^ 9

theorem countBlocked_eq_arrive (counter : Option (ℕ × ℕ)) (now : ℕ) :
    countBlocked now (counter.getD (0, now)) = arrive alertWindow counter now := by
  cases counter with
  | none => simp [countBlocked, arrive, seconds]
  | some counter =>
    obtain ⟨count, start⟩ := counter
    have hlate : 60 < seconds (now - start) ↔ start + alertWindow ≤ now := by
      unfold seconds alertWindow
      omega
    simp only [countBlocked, arrive, Option.getD_some, hlate]

section Detect

variable {entry : QueryLogEntry} {now : ℕ} {alertEnv : AlertEnv} {writer : Writer}

def alertFor (entry : QueryLogEntry) (alertEnv : AlertEnv) : Alert :=
  ⟨alertEnv.id, entry.clientIp, alertMessage entry.clientIp, alertEnv.createdAt⟩

/-- What the detection does with a blocked query.  A count that starts again is not fifty. -/
theorem detect_eq_of_blocked (hblocked : entry.status = str "blocked") :
    detect entry now alertEnv writer =
      let counted := arrive alertWindow (writer.blockCounts.lookup entry.clientIp) now
      { writer with
        blockCounts := (entry.clientIp, counted) ::
          writer.blockCounts.filter (·.1 ≠ entry.clientIp)
        alerts := if counted.1 = 50 then writer.alerts ++ [alertFor entry alertEnv]
          else writer.alerts } := by
  have hcount := countBlocked_eq_arrive (writer.blockCounts.lookup entry.clientIp) now
  unfold detect
  rw [if_pos hblocked]
  dsimp only
  rw [hcount]
  by_cases hreset : 60 < seconds
      (now - ((writer.blockCounts.lookup entry.clientIp).getD (0, now)).2)
  · have hone : (arrive alertWindow (writer.blockCounts.lookup entry.clientIp) now).1 = 1 := by
      rw [← hcount, countBlocked, if_pos hreset]
    simp [hreset, hone]
  · simp [hreset, alertFor]

theorem detect_eq_self (hblocked : entry.status ≠ str "blocked") :
    detect entry now alertEnv writer = writer := if_neg hblocked

end Detect

/-! ## Counts of clients -/

section Counts

variable {counts : List (Str × ℕ × ℕ)}

theorem lookup_cons_of_ne {first : Str × ℕ × ℕ} {client : Str} (hne : client ≠ first.1) :
    (first :: counts).lookup client = counts.lookup client := by
  rw [List.lookup_cons, beq_false_of_ne hne]

theorem lookup_set (counts : List (Str × ℕ × ℕ)) (client other : Str) (counted : ℕ × ℕ) :
    ((client, counted) :: counts.filter (·.1 ≠ client)).lookup other =
      if other = client then some counted else counts.lookup other := by
  by_cases hother : other = client
  · simp [hother]
  · rw [if_neg hother, lookup_cons_of_ne hother]
    induction counts with
    | nil => rfl
    | cons first rest ih =>
      by_cases hfirst : first.1 = client
      · have hne : other ≠ first.1 := fun heq => hother (heq.trans hfirst)
        rw [List.filter_cons_of_neg (by simpa using hfirst), ih, lookup_cons_of_ne hne]
      · rw [List.filter_cons_of_pos (by simpa using hfirst), List.lookup_cons, List.lookup_cons, ih]

theorem lookup_filter (hnodup : (counts.map Prod.fst).Nodup) (kept : ℕ × ℕ → Bool) (client : Str) :
    (counts.filter (kept ·.2)).lookup client = (counts.lookup client).filter kept := by
  induction counts with
  | nil => rfl
  | cons first rest ih =>
    obtain ⟨other, counter⟩ := first
    obtain ⟨hfirst, hrest⟩ := List.nodup_cons.mp hnodup
    rw [List.filter_cons]
    by_cases hclient : client = other
    · subst hclient
      have hnone : rest.lookup client = none := by
        rw [List.lookup_eq_none_iff]
        intro pair hpair
        rw [bne_iff_ne]
        rintro rfl
        exact hfirst (List.mem_map.mpr ⟨pair, hpair, rfl⟩)
      rw [List.lookup_cons_self, Option.filter_some]
      split_ifs
      · exact List.lookup_cons_self
      · rw [ih hrest, hnone, Option.filter_none]
    · rw [lookup_cons_of_ne hclient, ← ih hrest]
      split_ifs
      · exact lookup_cons_of_ne hclient
      · rfl

theorem nodup_set (hnodup : (counts.map Prod.fst).Nodup) (client : Str) (counted : ℕ × ℕ) :
    (((client, counted) :: counts.filter (·.1 ≠ client)).map Prod.fst).Nodup := by
  rw [List.map_cons, List.nodup_cons]
  refine ⟨?_, hnodup.sublist (List.filter_sublist.map Prod.fst)⟩
  simp

end Counts

/-! ## The writer that forgets nothing -/

/-- One round of the loop in `run`, without the pruning in a tick. -/
def stepKeeping (writer : Writer) : Event → Writer × Unit
  | .received entry now alertEnv faults => step writer (.received entry now alertEnv faults)
  | .tick _ faults => (if writer.closed then writer else flushRest faults writer, ())
  | .closed faults => step writer (.closed faults)

def Event.time : Event → Option ℕ
  | .received _ now _ _ => some now
  | .tick now _ => some now
  | .closed _ => none

/-- The clock does not go back. -/
def IsMonotone (events : List Event) : Prop := (events.filterMap Event.time).Pairwise (· ≤ ·)

instance (events : List Event) : Decidable (IsMonotone events) :=
  inferInstanceAs (Decidable (List.Pairwise _ _))

structure Lags (clock : ℕ) (pruned full : List (Str × ℕ × ℕ)) : Prop where
  nodup : (pruned.map Prod.fst).Nodup
  lookup : ∀ client, pruned.lookup client = full.lookup client ∨
    pruned.lookup client = none ∧ ∃ counter, full.lookup client = some counter ∧
      counter.2 + 120 * 10 ^ 9 ≤ clock

namespace Lags

variable {clock now : ℕ} {pruned full : List (Str × ℕ × ℕ)} (hlags : Lags clock pruned full)
include hlags

theorem later (hnow : clock ≤ now) : Lags now pruned full where
  nodup := hlags.nodup
  lookup client := (hlags.lookup client).imp_right fun ⟨hnone, counter, hcounter, hold⟩ =>
    ⟨hnone, counter, hcounter, hold.trans hnow⟩

theorem arrive_eq (hnow : clock ≤ now) (client : Str) :
    arrive alertWindow (pruned.lookup client) now =
      arrive alertWindow (full.lookup client) now := by
  rcases hlags.lookup client with hsame | ⟨hnone, ⟨count, start⟩, hcounter, hold⟩
  · rw [hsame]
  · have hlate : start + alertWindow ≤ now := by
      unfold alertWindow
      dsimp only at hold
      omega
    rw [hnone, hcounter, arrive, arrive, if_pos hlate]

theorem set (client : Str) (counted : ℕ × ℕ) :
    Lags clock ((client, counted) :: pruned.filter (·.1 ≠ client))
      ((client, counted) :: full.filter (·.1 ≠ client)) where
  nodup := nodup_set hlags.nodup client counted
  lookup other := by
    rw [lookup_set, lookup_set]
    by_cases hother : other = client
    · simp [hother]
    · rw [if_neg hother, if_neg hother]
      exact hlags.lookup other

theorem prune :
    Lags clock (pruned.filter fun count => seconds (clock - count.2.2) < 120) full where
  nodup := hlags.nodup.sublist (List.filter_sublist.map Prod.fst)
  lookup client := by
    have hfilter := lookup_filter hlags.nodup
      (fun counter => seconds (clock - counter.2) < 120) client
    rw [hfilter]
    rcases hlags.lookup client with hsame | ⟨hnone, hold⟩
    · rw [hsame]
      cases hcounter : full.lookup client with
      | none => exact Or.inl rfl
      | some counter =>
        by_cases hyoung : seconds (clock - counter.2) < 120
        · left
          simp [hyoung]
        · right
          refine ⟨by simpa using hyoung, counter, rfl, ?_⟩
          unfold seconds at hyoung
          omega
    · rw [hnone]
      exact Or.inr ⟨rfl, hold⟩

end Lags

section Simulation

variable {clock : ℕ} {pruned : List (Str × ℕ × ℕ)} {writer : Writer}

theorem detect_lags (hlags : Lags clock pruned writer.blockCounts) {now : ℕ} (hnow : clock ≤ now)
    (entry : QueryLogEntry) (alertEnv : AlertEnv) :
    ∃ pruned', detect entry now alertEnv { writer with blockCounts := pruned } =
        { detect entry now alertEnv writer with blockCounts := pruned' } ∧
      Lags now pruned' (detect entry now alertEnv writer).blockCounts := by
  by_cases hblocked : entry.status = str "blocked"
  · rw [detect_eq_of_blocked hblocked, detect_eq_of_blocked hblocked]
    dsimp only
    rw [hlags.arrive_eq hnow]
    exact ⟨_, rfl, (hlags.later hnow).set _ _⟩
  · rw [detect_eq_self hblocked, detect_eq_self hblocked]
    exact ⟨pruned, rfl, hlags.later hnow⟩

def collect (faults : Faults) (entry : QueryLogEntry) (writer : Writer) : Writer :=
  let writer := { writer with batch := writer.batch ++ [entry] }
  if batchSize ≤ writer.batch.length then flush faults writer else writer

theorem step_received (hopen : writer.closed = false) (entry : QueryLogEntry) (now : ℕ)
    (alertEnv : AlertEnv) (faults : Faults) :
    (step writer (.received entry now alertEnv faults)).1 =
      collect faults entry (detect entry now alertEnv writer) := by
  simp only [step, hopen, if_neg Bool.false_ne_true, collect]

variable (faults : Faults) (entry : QueryLogEntry)

theorem collect_blockCounts (writer : Writer) (counts : List (Str × ℕ × ℕ)) :
    collect faults entry { writer with blockCounts := counts } =
      { collect faults entry writer with blockCounts := counts } := by
  unfold collect
  dsimp only
  split_ifs
  · rfl
  · rfl

theorem blockCounts_collect (writer : Writer) :
    (collect faults entry writer).blockCounts = writer.blockCounts := by
  unfold collect
  dsimp only
  split_ifs
  · rfl
  · rfl

theorem flushRest_blockCounts (writer : Writer) (counts : List (Str × ℕ × ℕ)) :
    flushRest faults { writer with blockCounts := counts } =
      { flushRest faults writer with blockCounts := counts } := by
  unfold flushRest
  split_ifs
  · rfl
  · rfl

theorem blockCounts_flushRest (writer : Writer) :
    (flushRest faults writer).blockCounts = writer.blockCounts := by
  unfold flushRest
  split_ifs
  · rfl
  · rfl

theorem step_lags (hlags : Lags clock pruned writer.blockCounts) {event : Event}
    (htime : ∀ now ∈ event.time, clock ≤ now) :
    ∃ pruned', (step { writer with blockCounts := pruned } event).1 =
        { (stepKeeping writer event).1 with blockCounts := pruned' } ∧
      Lags (event.time.getD clock) pruned' (stepKeeping writer event).1.blockCounts := by
  have hlater : Lags (event.time.getD clock) pruned writer.blockCounts := by
    refine hlags.later ?_
    cases hevent : event.time with
    | none => exact le_rfl
    | some now => exact htime now hevent
  by_cases hclosed : writer.closed = true
  · have hkeeping : (stepKeeping writer event).1 = writer := by
      cases event <;> simp [stepKeeping, step, hclosed]
    rw [hkeeping]
    exact ⟨pruned, by simp [step, hclosed], hlater⟩
  · have hopen : writer.closed = false := eq_false_of_ne_true hclosed
    cases event with
    | received entry now alertEnv faults =>
      obtain ⟨pruned', hdetect, hlags'⟩ := detect_lags hlags (htime now rfl) entry alertEnv
      have hpruned : ({ writer with blockCounts := pruned } : Writer).closed = false := hopen
      refine ⟨pruned', ?_, ?_⟩
      · rw [stepKeeping, step_received hopen, step_received hpruned, hdetect]
        exact collect_blockCounts faults entry _ pruned'
      · rw [stepKeeping, step_received hopen, blockCounts_collect]
        exact hlags'
    | tick now faults =>
      rw [stepKeeping, step, if_neg hclosed, if_neg hclosed, flushRest_blockCounts]
      refine ⟨_, rfl, ?_⟩
      rw [blockCounts_flushRest]
      exact hlater.prune
    | closed faults =>
      rw [stepKeeping, step, step, if_neg hclosed, if_neg hclosed, flushRest_blockCounts]
      refine ⟨pruned, rfl, ?_⟩
      dsimp only
      rw [blockCounts_flushRest]
      exact hlater

theorem run_lags (hlags : Lags clock pruned writer.blockCounts) {events : List Event}
    (hclock : IsMonotone events) (hlate : ∀ now ∈ events.filterMap Event.time, clock ≤ now) :
    ∃ pruned', Machine.run step { writer with blockCounts := pruned } events =
      { Machine.run stepKeeping writer events with blockCounts := pruned' } := by
  induction events generalizing clock pruned writer with
  | nil => exact ⟨pruned, rfl⟩
  | cons event rest ih =>
    unfold IsMonotone at hclock
    have htime : ∀ now ∈ event.time, clock ≤ now := fun now hnow =>
      hlate now (List.mem_filterMap.mpr ⟨event, List.mem_cons_self, hnow⟩)
    have hrest : ∀ now ∈ rest.filterMap Event.time, clock ≤ now := fun now hnow => by
      obtain ⟨other, hother, heq⟩ := List.mem_filterMap.mp hnow
      exact hlate now (List.mem_filterMap.mpr ⟨other, List.mem_cons_of_mem _ hother, heq⟩)
    obtain ⟨pruned', hstep, hlags'⟩ := step_lags hlags htime
    cases hevent : event.time with
    | none =>
      rw [hevent] at hlags'
      rw [List.filterMap_cons_none hevent] at hclock
      obtain ⟨pruned'', hrun⟩ := ih hlags' hclock hrest
      rw [← hstep] at hrun
      exact ⟨pruned'', hrun⟩
    | some now =>
      rw [hevent] at hlags'
      rw [List.filterMap_cons_some hevent, List.pairwise_cons] at hclock
      obtain ⟨pruned'', hrun⟩ := ih hlags' hclock.2 hclock.1
      rw [← hstep] at hrun
      exact ⟨pruned'', hrun⟩

theorem alerts_run_eq {events : List Event} (hclock : IsMonotone events) :
    (Machine.run step {} events).alerts = (Machine.run stepKeeping {} events).alerts := by
  have hinit : Lags 0 [] ({} : Writer).blockCounts := ⟨List.nodup_nil, fun _ => Or.inl rfl⟩
  obtain ⟨pruned, hrun⟩ := run_lags hinit hclock fun now _ => Nat.zero_le now
  rw [hrun]

theorem IsMonotone.left {before after : List Event} (hclock : IsMonotone (before ++ after)) :
    IsMonotone before := by
  unfold IsMonotone at hclock
  rw [List.filterMap_append] at hclock
  exact (List.pairwise_append.mp hclock).1

end Simulation

/-- **Pruning is not seen.**  At every moment of a run the writer has raised the alerts of the
writer that forgets nothing. -/
theorem alerts_eq_alerts_keeping {events : List Event} (hclock : IsMonotone events) :
    ∀ before after, events = before ++ after →
      (Machine.run step {} before).alerts = (Machine.run stepKeeping {} before).alerts := by
  rintro before after rfl
  exact alerts_run_eq hclock.left

/-! ## Windows -/

def Event.blockedAt (client : Str) : Event → Option ℕ
  | .received entry now _ _ =>
    if entry.status = str "blocked" ∧ entry.clientIp = client then some now else none
  | .tick _ _ | .closed _ => none

/-- The blocked queries of a client, up to the end of the channel. -/
def blockedTimes (client : Str) (events : List Event) : List ℕ :=
  (events.takeWhile Event.isOpen).filterMap (Event.blockedAt client)

def Alerted (client : Str) (writer : Writer) : Prop :=
  ∃ alert ∈ writer.alerts, alert.clientId = client

instance (client : Str) (writer : Writer) : Decidable (Alerted client writer) :=
  inferInstanceAs (Decidable (∃ _ ∈ _, _))

structure Watches (client : Str) (events : List Event) (writer : Writer) : Prop where
  closed : writer.closed = ! events.all Event.isOpen
  lookup : writer.blockCounts.lookup client = track alertWindow (blockedTimes client events)
  alerted : Alerted client writer ↔ Reached alertWindow 50 (blockedTimes client events)

section Watches

variable {client : Str} {events : List Event} {writer : Writer}

theorem blockedTimes_concat_of_closed (hclosed : events.all Event.isOpen = false) (event : Event) :
    blockedTimes client (events ++ [event]) = blockedTimes client events := by
  have hnot : (events.takeWhile Event.isOpen).length ≠ events.length := by
    intro hlength
    have hself := (List.takeWhile_prefix Event.isOpen).eq_of_length hlength
    rw [List.takeWhile_eq_self_iff] at hself
    simp [List.all_eq_true.mpr hself] at hclosed
  rw [blockedTimes, List.takeWhile_append, if_neg hnot, blockedTimes]

theorem blockedTimes_concat_of_open (hopen : events.all Event.isOpen = true) (event : Event) :
    blockedTimes client (events ++ [event]) =
      blockedTimes client events ++ (event.blockedAt client).toList := by
  have hself : events.takeWhile Event.isOpen = events :=
    List.takeWhile_eq_self_iff.mpr (List.all_eq_true.mp hopen)
  rw [blockedTimes, List.takeWhile_append, hself, if_pos rfl, blockedTimes, hself,
    List.filterMap_append]
  congr 1
  cases event with
  | received entry now alertEnv faults =>
    have hheard : [Event.received entry now alertEnv faults].takeWhile Event.isOpen =
        [.received entry now alertEnv faults] := rfl
    rw [hheard, List.filterMap_cons]
    cases Event.blockedAt client (.received entry now alertEnv faults) with
    | none => rfl
    | some time => rfl
  | tick now faults => rfl
  | closed faults => rfl

theorem Watches.of_eq (hwatches : Watches client events writer) {event : Event} {after : Writer}
    (htimes : blockedTimes client (events ++ [event]) = blockedTimes client events)
    (hclosed : after.closed = ! (events ++ [event]).all Event.isOpen)
    (hcounts : after.blockCounts = writer.blockCounts) (halerts : after.alerts = writer.alerts) :
    Watches client (events ++ [event]) after where
  closed := hclosed
  lookup := by rw [htimes, hcounts, hwatches.lookup]
  alerted := by rw [htimes, ← hwatches.alerted, Alerted, Alerted, halerts]

variable (faults : Faults) (entry : QueryLogEntry)

theorem collect_closed (writer : Writer) :
    (collect faults entry writer).closed = writer.closed := by
  unfold collect
  dsimp only
  split_ifs
  · rfl
  · rfl

theorem collect_alerts (writer : Writer) :
    (collect faults entry writer).alerts = writer.alerts := by
  unfold collect
  dsimp only
  split_ifs
  · rfl
  · rfl

theorem flushRest_alerts (writer : Writer) : (flushRest faults writer).alerts = writer.alerts := by
  unfold flushRest
  split_ifs
  · rfl
  · rfl

theorem Watches.received (hwatches : Watches client events writer)
    (hopen : events.all Event.isOpen = true) (entry : QueryLogEntry) (now : ℕ)
    (alertEnv : AlertEnv) (faults : Faults) :
    Watches client (events ++ [.received entry now alertEnv faults])
      (collect faults entry (detect entry now alertEnv writer)) := by
  have htimes : blockedTimes client (events ++ [.received entry now alertEnv faults]) =
      blockedTimes client events ++
        ((Event.received entry now alertEnv faults).blockedAt client).toList :=
    blockedTimes_concat_of_open hopen (.received entry now alertEnv faults)
  have hclosed : writer.closed =
      ! (events ++ [Event.received entry now alertEnv faults]).all Event.isOpen := by
    rw [hwatches.closed, List.all_append]
    simp [Event.isOpen]
  by_cases hblocked : entry.status = str "blocked"
  · rw [detect_eq_of_blocked hblocked]
    by_cases hclient : entry.clientIp = client
    · subst hclient
      rw [Event.blockedAt, if_pos ⟨hblocked, rfl⟩, Option.toList_some] at htimes
      refine ⟨?_, ?_, ?_⟩
      · rw [collect_closed]
        exact hclosed
      · rw [blockCounts_collect, htimes, track_concat, lookup_set, if_pos rfl, hwatches.lookup]
      · rw [htimes, reached_concat, track_concat, Option.map_some, Option.some_inj,
          ← hwatches.alerted, ← hwatches.lookup, Alerted, collect_alerts]
        dsimp only
        split_ifs with hfifty
        · simp [hfifty, alertFor]
        · simp [hfifty, Alerted]
    · rw [Event.blockedAt, if_neg fun h => hclient h.2, Option.toList_none,
        List.append_nil] at htimes
      refine ⟨?_, ?_, ?_⟩
      · rw [collect_closed]
        exact hclosed
      · rw [blockCounts_collect, htimes, lookup_set, if_neg (Ne.symm hclient), hwatches.lookup]
      · rw [htimes, ← hwatches.alerted, Alerted, collect_alerts]
        dsimp only
        split_ifs
        · simp [Alerted, alertFor, hclient]
        · rfl
  · rw [detect_eq_self hblocked]
    rw [Event.blockedAt, if_neg fun h => hblocked h.1, Option.toList_none,
      List.append_nil] at htimes
    refine hwatches.of_eq htimes ?_ (blockCounts_collect _ _ _) (collect_alerts _ _ _)
    rw [collect_closed]
    exact hclosed

theorem Watches.step (hwatches : Watches client events writer) (event : Event) :
    Watches client (events ++ [event]) (stepKeeping writer event).1 := by
  cases hopen : events.all Event.isOpen with
  | false =>
    have hclosed : writer.closed = true := by rw [hwatches.closed, hopen, Bool.not_false]
    have hself : (stepKeeping writer event).1 = writer := by
      cases event <;> simp [stepKeeping, QueryLogWriter.step, hclosed]
    rw [hself]
    refine hwatches.of_eq (blockedTimes_concat_of_closed hopen event) ?_ rfl rfl
    rw [List.all_append, hopen, hclosed]
    rfl
  | true =>
    have hclosed : writer.closed = false := by rw [hwatches.closed, hopen, Bool.not_true]
    have hnot : ¬ writer.closed = true := by simp [hclosed]
    cases event with
    | received entry now alertEnv faults =>
      rw [stepKeeping, step_received hclosed]
      exact hwatches.received hopen entry now alertEnv faults
    | tick now faults =>
      rw [stepKeeping, if_neg hnot]
      refine hwatches.of_eq ?_ ?_ (blockCounts_flushRest _ _) (flushRest_alerts _ _)
      · rw [blockedTimes_concat_of_open hopen, Event.blockedAt, Option.toList_none, List.append_nil]
      · rw [closed_flushRest, hclosed, List.all_append, hopen]
        rfl
    | closed faults =>
      rw [stepKeeping, QueryLogWriter.step, if_neg hnot]
      refine hwatches.of_eq ?_ ?_ (blockCounts_flushRest _ _) (flushRest_alerts _ _)
      · rw [blockedTimes_concat_of_open hopen, Event.blockedAt, Option.toList_none, List.append_nil]
      · rw [List.all_append, hopen]
        rfl

theorem watches_run (client : Str) (events : List Event) :
    Watches client events (Machine.run stepKeeping {} events) := by
  induction events using List.reverseRecOn with
  | nil =>
    refine ⟨rfl, rfl, iff_of_false ?_ ?_⟩
    · rintro ⟨alert, halert, -⟩
      exact absurd halert List.not_mem_nil
    · rintro ⟨before, after, hsplit, hcount⟩
      rw [(List.append_eq_nil_iff.mp hsplit.symm).1] at hcount
      cases hcount
  | append_singleton events event ih =>
    have hlast : Machine.run stepKeeping {} (events ++ [event]) =
        (stepKeeping (Machine.run stepKeeping {} events) event).1 := List.foldl_concat _ _ _ _
    rw [hlast]
    exact ih.step event

theorem pairwise_blockedTimes (hclock : IsMonotone events) (client : Str) :
    (blockedTimes client events).Pairwise (· ≤ ·) := by
  refine List.Pairwise.sublist ?_ hclock
  have htime : ∀ event : Event, ∀ now ∈ event.blockedAt client, event.time = some now := by
    intro event now hnow
    cases event with
    | received entry time alertEnv faults =>
      rw [Event.blockedAt] at hnow
      split_ifs at hnow
      · exact hnow
      · cases hnow
    | tick time faults => cases hnow
    | closed faults => cases hnow
  refine List.Sublist.trans ?_ ((List.takeWhile_sublist Event.isOpen).filterMap Event.time)
  rw [blockedTimes]
  generalize events.takeWhile Event.isOpen = heard
  induction heard with
  | nil => exact List.Sublist.refl _
  | cons event rest ih =>
    cases hblocked : event.blockedAt client with
    | none =>
      rw [List.filterMap_cons_none hblocked]
      exact ih.trans ((List.sublist_cons_self event rest).filterMap Event.time)
    | some now =>
      rw [List.filterMap_cons_some hblocked, List.filterMap_cons_some (htime event now hblocked)]
      exact ih.cons_cons now

end Watches

variable {events : List Event} {client : Str} {before burst : List ℕ} {first : ℕ}

/-- The writer has raised an alert if and only if the count of the client has come to fifty. -/
theorem alerted_iff_reached (hclock : IsMonotone events) (client : Str) :
    Alerted client (Machine.run step {} events) ↔
      Reached alertWindow 50 (blockedTimes client events) := by
  rw [← (watches_run client events).alerted, Alerted, Alerted, alerts_run_eq hclock]

/-! ## Bursts -/

def HasBurst (client : Str) (events : List Event) : Prop :=
  ∃ burst : List ℕ, burst.Sublist (blockedTimes client events) ∧ burst.length = 50 ∧
    ∀ time ∈ burst, ∀ other ∈ burst, other ≤ time + 60 * 10 ^ 9

/-- One of the windows of the client has fifty blocked queries. -/
def HasFullWindow (client : Str) (events : List Event) : Prop :=
  ∃ start, IsStart alertWindow (blockedTimes client events) start ∧
    50 ≤ arrivals alertWindow (blockedTimes client events) start

/-- **Which bursts are noticed.**  For every burst of a client there is an alert, with its last
query at the latest, if and only if a window of the client has fifty queries by then. -/
theorem alerted_iff {events : List Event} (hclock : IsMonotone events) (client : Str) :
    (∀ before after, events = before ++ after → HasBurst client before →
        Alerted client (Machine.run step {} before)) ↔
      ∀ before after, events = before ++ after → HasBurst client before →
        HasFullWindow client before := by
  refine forall₄_congr fun before after hevents _ => ?_
  have hbefore : IsMonotone before := IsMonotone.left (hevents ▸ hclock)
  rw [alerted_iff_reached hbefore]
  exact reached_iff (by decide) (by decide) (pairwise_blockedTimes hbefore client)

/-- Fifty blocked queries within a window after a pause raise an alert. -/
theorem alerted_of_pause (hclock : IsMonotone events)
    (htimes : blockedTimes client events = before ++ first :: burst)
    (hpause : ∀ time ∈ before, time + alertWindow ≤ first)
    (hburst : ∀ time ∈ burst, time < first + alertWindow) (hlength : burst.length = 49) :
    Alerted client (Machine.run step {} events) := by
  rw [alerted_iff_reached hclock, htimes]
  have hreached := reached_of_pause (by decide)
    (htimes ▸ pairwise_blockedTimes hclock client) hpause hburst
  rwa [hlength] at hreached

/-- So do 99 of them after anything else. -/
theorem alerted_of_dense (hclock : IsMonotone events)
    (htimes : blockedTimes client events = before ++ first :: burst)
    (hburst : ∀ time ∈ burst, time < first + alertWindow) (hlength : burst.length = 98) :
    Alerted client (Machine.run step {} events) := by
  rw [alerted_iff_reached hclock, htimes]
  exact reached_of_dense (by decide) (by decide) (htimes ▸ pairwise_blockedTimes hclock client)
    hburst (by omega)

/-! ### A burst in two windows -/

section TwoWindows

/-- A blocked query, so many seconds after the start. -/
def blockedAfter (second : ℕ) : Event :=
  .received { entryFor "ads.example.com" with status := str "blocked" } (second * 10 ^ 9)
    ⟨[], []⟩ {}

def splitBurst : List Event :=
  blockedAfter 0 :: (List.replicate 48 (blockedAfter 59) ++ List.replicate 49 (blockedAfter 62))

/-- There are 97 queries within three seconds, and no alert. -/
theorem not_alerted_splitBurst :
    IsMonotone splitBurst ∧ HasBurst (str "10.0.0.7") splitBurst ∧
      ¬ Alerted (str "10.0.0.7") (Machine.run step {} splitBurst) := by
  have htimes : blockedTimes (str "10.0.0.7") splitBurst =
      0 :: (List.replicate 48 (59 * 10 ^ 9) ++ List.replicate 49 (62 * 10 ^ 9)) := by
    decide +kernel
  refine ⟨by decide +kernel, ?_, by decide +kernel⟩
  refine ⟨List.replicate 48 (59 * 10 ^ 9) ++ List.replicate 2 (62 * 10 ^ 9), ?_, rfl, ?_⟩
  · rw [htimes]
    have hlast : (List.replicate 2 (62 * 10 ^ 9)).Sublist (List.replicate 49 (62 * 10 ^ 9)) :=
      (List.replicate_sublist_replicate _).mpr (by omega)
    exact ((List.Sublist.refl _).append hlast).cons 0
  · simp only [List.mem_append, List.mem_replicate]
    omega

/-- After two minutes the count is forgotten. -/
theorem alerts_eq_alerts_keeping_idle :
    (Machine.run step {} (splitBurst ++ [.tick (200 * 10 ^ 9) {}, blockedAfter 201])).alerts =
      (Machine.run stepKeeping {}
        (splitBurst ++ [.tick (200 * 10 ^ 9) {}, blockedAfter 201])).alerts :=
  alerts_eq_alerts_keeping (by decide +kernel) _ [] (List.append_nil _).symm

/-- Fifty queries at once. -/
theorem alerted_iff_atOnce :
    IsMonotone (List.replicate 50 (blockedAfter 0)) ∧
      ∀ before after, List.replicate 50 (blockedAfter 0) = before ++ after →
        HasBurst (str "10.0.0.7") before →
          Alerted (str "10.0.0.7") (Machine.run step {} before) := by
  have hclock : IsMonotone (List.replicate 50 (blockedAfter 0)) := by
    decide +kernel
  refine ⟨hclock, (alerted_iff hclock _).mpr ?_⟩
  rintro before after hsplit ⟨burst, hsublist, hlength, -⟩
  -- Fifty queries are all of them.
  have hle : burst.length ≤ before.length := hsublist.length_le.trans
    ((List.length_filterMap_le _ _).trans (List.takeWhile_sublist _).length_le)
  have hnil : after = [] := by
    have hlengths := congrArg List.length hsplit
    rw [List.length_replicate, List.length_append] at hlengths
    exact List.length_eq_zero_iff.mp (by omega)
  rw [hnil, List.append_nil] at hsplit
  rw [← hsplit]
  exact ⟨0, .first (by decide +kernel), by decide +kernel⟩

/-- After the burst that was missed and a pause, fifty queries are noticed. -/
theorem alerted_of_pause_afterSplit :
    Alerted (str "10.0.0.7")
      (Machine.run step {} (splitBurst ++ List.replicate 50 (blockedAfter 200))) :=
  alerted_of_pause (by decide +kernel)
    (by decide +kernel : blockedTimes _ _ = blockedTimes (str "10.0.0.7") splitBurst ++
      200 * 10 ^ 9 :: List.replicate 49 (200 * 10 ^ 9)) (by decide +kernel)
    (by simp [alertWindow]) rfl

/-- Right after it, 99 are. -/
theorem alerted_of_dense_afterSplit :
    Alerted (str "10.0.0.7")
      (Machine.run step {} (splitBurst ++ List.replicate 99 (blockedAfter 63))) :=
  alerted_of_dense (by decide +kernel)
    (by decide +kernel : blockedTimes _ _ = blockedTimes (str "10.0.0.7") splitBurst ++
      63 * 10 ^ 9 :: List.replicate 98 (63 * 10 ^ 9))
    (by simp [alertWindow]) rfl

end TwoWindows

end RustDns.QueryLogWriter
