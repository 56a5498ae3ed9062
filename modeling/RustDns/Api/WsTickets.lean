import RustDns.Tasks
import RustDns.Api.Auth

/-!
# Tickets for WebSocket connections

`ws::issue_ticket` gives an authenticated client a ticket, and `ws::query_log_ws` upgrades a
connection that presents one.  A ticket is taken out of the map when it is presented, and is
good for 30 seconds.

Requests of both kinds may overlap at any point.  The lazy eviction of `issue_ticket` goes
through the map in parts, so others may come in between.  The task that `serve` starts to
clean up works on a clone of the map, and cloning a `DashMap` copies it: the map that the
requests use is not touched by it.

The clock never goes back: a step says how much time has passed before it.
-/

namespace RustDns.Api.WsTickets

open Text

/-- `WS_TICKET_TTL`, in nanoseconds. -/
def ticketTtl : ℕ := 30 * 10 ^ 9

def cleanupAge : ℕ := 120 * 10 ^ 9

/-- A request that `AuthUser::from_request_parts` has accepted. -/
structure AuthUser [Jwt] where
  authorization : Option Str
  clock : Str
  tokenBlacklist : List Str
  claims : Claims
  verified : bearerClaims clock authorization = some claims
  notLoggedOut : claims.jti ∉ tokenBlacklist

def AuthUser.fromRequestParts [Jwt] (clock : Str) (tokenBlacklist : List Str)
    (authorization : Option Str) : Option AuthUser :=
  match hverified : bearerClaims clock authorization with
  | none => none
  | some claims =>
    if hlisted : claims.jti ∈ tokenBlacklist then none
    else some ⟨authorization, clock, tokenBlacklist, claims, hverified, hlisted⟩

/-- The guard accepts a request if and only if `authUser` does, with the same claims. -/
theorem AuthUser.map_claims_fromRequestParts [Jwt] [Unicode] [RegexCrate] (env : Env)
    (authorization : Option Str) (state : AppState) :
    (fromRequestParts env.now state.tokenBlacklist authorization).map AuthUser.claims =
      acceptedClaims env authorization state := by
  unfold fromRequestParts acceptedClaims
  split
  next hverified => simp [hverified]
  next claims hverified =>
    by_cases hlisted : claims.jti ∈ state.tokenBlacklist <;>
      simp [hverified, hlisted, Option.filter]

/-- A ticket with the time at which it was issued, and the request that it was issued to. -/
structure Issue [Jwt] where
  ticket : Str
  issuedAt : ℕ
  user : AuthUser

inductive Entry [Jwt] where
  | issued (issue : Issue)
  | upgraded (ticket : Str) (time : ℕ)

/-- What the requests share: the clock, `ws_tickets` and its clone.  The code keeps no log;
here it has what has happened, newest first. -/
structure Shared [Jwt] where
  now : ℕ
  wsTickets : Str → Option ℕ
  cleanupTickets : Str → Option ℕ
  log : List Entry

/-- What a step draws from outside: the time since the last one, the wall clock, the tokens
that were logged out, a result of `Uuid::new_v4`, the part of the map that an eviction goes
through in this step, and whether there is more to go through. -/
structure Input where
  elapsed : ℕ := 0
  clock : Str := []
  tokenBlacklist : List Str := []
  uuid : Str := []
  visits : Str → Bool := fun _ => true
  more : Bool := false

inductive Request where
  | issueTicket (authorization : Option Str)
  | queryLogWs (ticket : Str)
  | cleanup

inductive Task [Jwt] where
  /-- `issue_ticket` before it is authenticated, before or within the eviction, before the
  ticket is made, and before it is inserted. -/
  | authenticate (authorization : Option Str)
  | evict (user : AuthUser)
  | newTicket (user : AuthUser)
  | insert (ticket : Str) (issuedAt : ℕ)
  /-- `query_log_ws` before the ticket is removed, and before its age is looked at. -/
  | remove (ticket : Str)
  | validate (ticket : Str) (issuedAt : ℕ)
  /-- A tick of the cleanup. -/
  | cleanup

section Model

variable [Jwt]

def Request.begin : Request → Task
  | issueTicket authorization => .authenticate authorization
  | queryLogWs ticket => .remove ticket
  | cleanup => .cleanup

/-- `DashMap::retain` on the part of a map that is gone through. -/
def retain (tickets : Str → Option ℕ) (visits : Str → Bool) (keep : ℕ → Bool) : Str → Option ℕ :=
  fun ticket => (tickets ticket).filter fun issuedAt => ! visits ticket || keep issuedAt

def actNow (shared : Shared) (task : Task) (input : Input) : Shared × Option Task :=
  match task with
  | .authenticate authorization =>
    (shared, (AuthUser.fromRequestParts input.clock input.tokenBlacklist authorization).map
      .evict)
  | .evict user =>
    ({ shared with
        wsTickets := retain shared.wsTickets input.visits
          fun issuedAt => shared.now - issuedAt < ticketTtl },
      some (if input.more then .evict user else .newTicket user))
  | .newTicket user =>
    ({ shared with log := .issued ⟨input.uuid, shared.now, user⟩ :: shared.log },
      some (.insert input.uuid shared.now))
  | .insert ticket issuedAt =>
    ({ shared with wsTickets := Function.update shared.wsTickets ticket (some issuedAt) }, none)
  | .remove ticket =>
    ({ shared with wsTickets := Function.update shared.wsTickets ticket none },
      (shared.wsTickets ticket).map (.validate ticket))
  | .validate ticket issuedAt =>
    if shared.now - issuedAt < ticketTtl then
      ({ shared with log := .upgraded ticket shared.now :: shared.log }, none)
    else (shared, none)
  | .cleanup =>
    ({ shared with
        cleanupTickets := retain shared.cleanupTickets input.visits
          fun issuedAt => shared.now < issuedAt + cleanupAge },
      if input.more then some .cleanup else none)

def act (shared : Shared) (task : Task) (input : Input) : Shared × Option Task :=
  actNow { shared with now := shared.now + input.elapsed } task input

abbrev step : Tasks.State Shared Task → Tasks.Event Request Input →
    Tasks.State Shared Task × Unit :=
  Tasks.step Request.begin act

def start (now : ℕ) : Tasks.State Shared Task :=
  ⟨⟨now, fun _ => none, fun _ => none, []⟩, []⟩

def issuedTickets (log : List Entry) : List Str :=
  log.filterMap fun
    | .issued issue => some issue.ticket
    | .upgraded _ _ => none

/-- A new ticket is not one that was issued before: `Uuid::new_v4` does not repeat. -/
def Fresh (shared : Shared) (_others : List Task) (task : Task) (input : Input) : Prop :=
  match task with
  | .newTicket _ => input.uuid ∉ issuedTickets shared.log
  | _ => True

instance decidableFresh (shared : Shared) (others : List Task) (input : Input) :
    (task : Task) → Decidable (Fresh shared others task input)
  | .newTicket _ => inferInstanceAs (Decidable (input.uuid ∉ issuedTickets shared.log))
  | .authenticate _ | .evict _ | .insert _ _ | .remove _ | .validate _ _ | .cleanup =>
    .isTrue trivial

/-- Every connection that was upgraded presented a ticket that had been issued to an
authenticated request at most 30 seconds before, and that no connection had presented
before it. -/
inductive Sound : List Entry → Prop where
  | nil : Sound []
  | issued {older : List Entry} (issue : Issue) (holder : Sound older) :
      Sound (.issued issue :: older)
  | upgraded {older : List Entry} {ticket : Str} {time : ℕ}
      (hissued : ∃ issue, .issued issue ∈ older ∧ issue.ticket = ticket ∧
        issue.issuedAt ≤ time ∧ time ≤ issue.issuedAt + ticketTtl)
      (hfirst : ∀ earlier, .upgraded ticket earlier ∉ older) (holder : Sound older) :
      Sound (.upgraded ticket time :: older)

end Model

/-! ## Where a ticket is -/

section Places

variable [Jwt] {shared after : Shared} {tasks others : List Task} {task : Task}
  {next : Option Task} {ticket : Str} {issuedAt : ℕ}

def holdsTicket (ticket : Str) : Task → Bool
  | .insert other _ | .validate other _ => other = ticket
  | _ => false

def spends (ticket : Str) : Entry → Bool
  | .upgraded other _ => other = ticket
  | .issued _ => false

def places (shared : Shared) (tasks : List Task) (ticket : Str) : ℕ :=
  (shared.wsTickets ticket).isSome.toNat + tasks.countP (holdsTicket ticket) +
    shared.log.countP (spends ticket)

theorem places_eq (shared : Shared) (next : Option Task) (others : List Task) (ticket : Str) :
    places shared (next.toList ++ others) ticket = (shared.wsTickets ticket).isSome.toNat +
        (next.toList.countP (holdsTicket ticket) + others.countP (holdsTicket ticket)) +
        shared.log.countP (spends ticket) := by
  rw [places, List.countP_append]

def Issued (shared : Shared) (ticket : Str) (issuedAt : ℕ) : Prop :=
  issuedAt ≤ shared.now ∧
    ∃ issue, .issued issue ∈ shared.log ∧ issue.ticket = ticket ∧ issue.issuedAt = issuedAt

theorem Issued.mono (hissued : Issued shared ticket issuedAt) (hnow : shared.now ≤ after.now)
    (hlog : shared.log ⊆ after.log) : Issued after ticket issuedAt := by
  obtain ⟨htime, issue, hissue, hticket, hat⟩ := hissued
  exact ⟨htime.trans hnow, issue, hlog hissue, hticket, hat⟩

def Holds (shared : Shared) : Task → Prop
  | .insert ticket issuedAt | .validate ticket issuedAt => Issued shared ticket issuedAt
  | _ => True

theorem Holds.mono (hholds : Holds shared task) (hnow : shared.now ≤ after.now)
    (hlog : shared.log ⊆ after.log) : Holds after task := by
  cases task with
  | insert ticket issuedAt => exact Issued.mono hholds hnow hlog
  | validate ticket issuedAt => exact Issued.mono hholds hnow hlog
  | authenticate _ | evict _ | newTicket _ | remove _ | cleanup => trivial

/-! ## Runs -/

/-- What holds in every state of a run: what is in the map or in the hands of a task was
issued, and every ticket is in one place at most, or in none if it was not issued. -/
structure Invariant (shared : Shared) (tasks : List Task) : Prop where
  tickets : ∀ ticket, ∀ issuedAt ∈ shared.wsTickets ticket, Issued shared ticket issuedAt
  holds : ∀ task ∈ tasks, Holds shared task
  once : ∀ ticket, places shared tasks ticket ≤ 1
  nowhere : ∀ ticket, ticket ∉ issuedTickets shared.log → places shared tasks ticket = 0
  sound : Sound shared.log

theorem places_perm {tasks' : List Task} (hperm : tasks.Perm tasks') :
    places shared tasks' = places shared tasks := by
  funext ticket
  rw [places, places, hperm.countP_eq]

theorem Invariant.perm {tasks' : List Task} (hperm : tasks.Perm tasks')
    (hinvariant : Invariant shared tasks) : Invariant shared tasks' where
  tickets := hinvariant.tickets
  holds task htask := hinvariant.holds task (hperm.symm.subset htask)
  once := places_perm hperm ▸ hinvariant.once
  nowhere := places_perm hperm ▸ hinvariant.nowhere
  sound := hinvariant.sound

theorem Invariant.begin (request : Request) (hinvariant : Invariant shared tasks) :
    Invariant shared (request.begin :: tasks) := by
  have hplaces : places shared (request.begin :: tasks) = places shared tasks := by
    funext ticket
    cases request <;> rfl
  exact
    { tickets := hinvariant.tickets
      holds := List.forall_mem_cons.mpr ⟨by cases request <;> trivial, hinvariant.holds⟩
      once := hplaces ▸ hinvariant.once
      nowhere := hplaces ▸ hinvariant.nowhere
      sound := hinvariant.sound }

theorem Invariant.elapse (hinvariant : Invariant shared tasks) (elapsed : ℕ) :
    Invariant { shared with now := shared.now + elapsed } tasks where
  tickets ticket issuedAt hat := (hinvariant.tickets ticket issuedAt hat).mono
    (Nat.le_add_right _ _) (List.Subset.refl _)
  holds task htask := (hinvariant.holds task htask).mono (Nat.le_add_right _ _)
    (List.Subset.refl _)
  once := hinvariant.once
  nowhere := hinvariant.nowhere
  sound := hinvariant.sound

theorem Invariant.holds_others (hinvariant : Invariant shared (task :: others))
    (hnow : shared.now ≤ after.now) (hlog : shared.log ⊆ after.log) :
    ∀ other ∈ others, Holds after other := fun other hother =>
  (hinvariant.holds other (List.mem_cons_of_mem _ hother)).mono hnow hlog

theorem Invariant.move (hinvariant : Invariant shared (task :: others))
    (hnow : after.now = shared.now) (hlog : after.log = shared.log)
    (htickets : ∀ ticket, ∀ issuedAt ∈ after.wsTickets ticket, Issued shared ticket issuedAt)
    (hnext : ∀ task ∈ next, Holds shared task)
    (hplaces : ∀ ticket, places after (next.toList ++ others) ticket ≤
      places shared (task :: others) ticket) : Invariant after (next.toList ++ others) where
  tickets ticket issuedAt hat := (htickets ticket issuedAt hat).mono hnow.ge (hlog ▸ fun _ h => h)
  holds := Tasks.forall_next
    (fun task htask => (hnext task htask).mono hnow.ge (hlog ▸ fun _ h => h))
    (hinvariant.holds_others hnow.ge (hlog ▸ fun _ h => h))
  once ticket := (hplaces ticket).trans (hinvariant.once ticket)
  nowhere ticket hticket := by
    rw [hlog] at hticket
    exact Nat.le_zero.mp ((hplaces ticket).trans (hinvariant.nowhere ticket hticket).le)
  sound := hlog ▸ hinvariant.sound

omit [Jwt] in
theorem mem_retain {tickets : Str → Option ℕ} {visits : Str → Bool} {keep : ℕ → Bool}
    (hat : issuedAt ∈ retain tickets visits keep ticket) : issuedAt ∈ tickets ticket :=
  (Option.mem_filter_iff.mp hat).1

omit [Jwt] in
theorem isSome_retain_le (tickets : Str → Option ℕ) (visits : Str → Bool) (keep : ℕ → Bool)
    (ticket : Str) :
    (retain tickets visits keep ticket).isSome.toNat ≤ (tickets ticket).isSome.toNat := by
  unfold retain
  cases tickets ticket with
  | none => exact le_rfl
  | some issuedAt => exact Bool.toNat_le _

theorem Invariant.newTicket {user : AuthUser} {uuid : Str}
    (hinvariant : Invariant shared (.newTicket user :: others))
    (hfresh : uuid ∉ issuedTickets shared.log) :
    Invariant { shared with log := .issued ⟨uuid, shared.now, user⟩ :: shared.log }
      ((some (Task.insert uuid shared.now)).toList ++ others) := by
  have hlog : shared.log ⊆ .issued ⟨uuid, shared.now, user⟩ :: shared.log :=
    List.subset_cons_self _ _
  have hplaces : ∀ ticket, places { shared with log := .issued ⟨uuid, shared.now, user⟩ ::
      shared.log } ((some (Task.insert uuid shared.now)).toList ++ others) ticket =
      places shared (.newTicket user :: others) ticket + (decide (uuid = ticket)).toNat := by
    intro ticket
    rw [places_eq]
    by_cases hticket : uuid = ticket
    · simp [places, holdsTicket, spends, hticket]
      omega
    · simp [places, holdsTicket, spends, hticket]
  refine ⟨fun ticket issuedAt hat => ?_, ?_, fun ticket => ?_, fun ticket hticket => ?_,
    .issued _ hinvariant.sound⟩
  · exact (hinvariant.tickets ticket issuedAt hat).mono le_rfl hlog
  · exact Tasks.forall_next
      (Tasks.forall_some ⟨le_rfl, _, List.mem_cons_self, rfl, rfl⟩)
      (hinvariant.holds_others le_rfl hlog)
  · rw [hplaces]
    by_cases hticket : uuid = ticket
    · subst hticket
      rw [hinvariant.nowhere uuid hfresh]
      exact (Nat.zero_add _).le.trans (Bool.toNat_le _)
    · simpa [hticket] using hinvariant.once ticket
  · rw [issuedTickets, List.filterMap_cons] at hticket
    obtain ⟨hne, hold⟩ := not_or.mp (List.mem_cons.not.mp hticket)
    rw [hplaces, hinvariant.nowhere ticket hold]
    simp [Ne.symm hne]

theorem Invariant.upgrade (hinvariant : Invariant shared (.validate ticket issuedAt :: others))
    (hage : shared.now - issuedAt < ticketTtl) :
    Invariant { shared with log := .upgraded ticket shared.now :: shared.log }
      ((none : Option Task).toList ++ others) := by
  have hlog : shared.log ⊆ .upgraded ticket shared.now :: shared.log :=
    List.subset_cons_self _ _
  have hplaces : ∀ other, places { shared with log := .upgraded ticket shared.now ::
      shared.log } ((none : Option Task).toList ++ others) other =
      places shared (.validate ticket issuedAt :: others) other := by
    intro other
    rw [places_eq]
    by_cases hother : ticket = other
    · simp [places, holdsTicket, spends, hother]
      omega
    · simp [places, holdsTicket, spends, hother]
  -- the ticket is in the hands of this task, so it was not spent
  have hunspent : shared.log.countP (spends ticket) = 0 := by
    have honce := hinvariant.once ticket
    have hhand : (Task.validate ticket issuedAt :: others).countP (holdsTicket ticket) =
        others.countP (holdsTicket ticket) + 1 :=
      List.countP_cons_of_pos (decide_eq_true rfl)
    rw [places, hhand] at honce
    omega
  obtain ⟨htime, issue, hissue, hticket, hat⟩ : Issued shared ticket issuedAt :=
    hinvariant.holds _ List.mem_cons_self
  refine ⟨fun ticket issuedAt hat => ?_, ?_, fun other => ?_, fun other hother => ?_,
    .upgraded ⟨issue, hissue, hticket, by omega, by omega⟩ (fun earlier hearlier => ?_)
      hinvariant.sound⟩
  · exact (hinvariant.tickets ticket issuedAt hat).mono le_rfl hlog
  · exact Tasks.forall_next Tasks.forall_none (hinvariant.holds_others le_rfl hlog)
  · exact (hplaces other).trans_le (hinvariant.once other)
  · exact (hplaces other).trans (hinvariant.nowhere other hother)
  · exact List.countP_eq_zero.mp hunspent _ hearlier (decide_eq_true rfl)

theorem invariant_actNow {input : Input} (hinvariant : Invariant shared (task :: others))
    (hfresh : Fresh shared others task input) :
    Invariant (actNow shared task input).1 ((actNow shared task input).2.toList ++ others) := by
  have hholds : Holds shared task := hinvariant.holds task List.mem_cons_self
  cases task with
  | authenticate authorization =>
    refine hinvariant.move rfl rfl hinvariant.tickets (fun next hnext => ?_) fun ticket => ?_
    · obtain ⟨user, -, rfl⟩ := Option.map_eq_some_iff.mp hnext
      trivial
    · rw [places_eq]
      cases AuthUser.fromRequestParts input.clock input.tokenBlacklist authorization <;>
        simp [actNow, places, holdsTicket]
  | evict user =>
    refine hinvariant.move rfl rfl (fun ticket issuedAt hat => ?_) (Tasks.forall_some ?_)
      fun ticket => ?_
    · exact hinvariant.tickets ticket issuedAt (mem_retain hat)
    · split_ifs <;> trivial
    · have hretain := isSome_retain_le shared.wsTickets input.visits
        (fun issuedAt => shared.now - issuedAt < ticketTtl) ticket
      rw [places_eq]
      cases hmore : input.more <;> simp [actNow, places, holdsTicket, hmore] <;> exact hretain
  | newTicket user => exact hinvariant.newTicket hfresh
  | insert ticket issuedAt =>
    refine hinvariant.move rfl rfl (fun other otherAt hat => ?_) Tasks.forall_none
      fun other => ?_
    · by_cases hother : other = ticket
      · subst hother
        obtain rfl : issuedAt = otherAt := by simpa [actNow] using hat
        exact hholds
      · exact hinvariant.tickets other otherAt (by simpa [actNow, hother] using hat)
    · rw [places_eq]
      by_cases hother : other = ticket
      · subst hother
        simp [actNow, places, holdsTicket]
        omega
      · simp [actNow, places, holdsTicket, hother, Ne.symm hother]
  | remove ticket =>
    refine hinvariant.move rfl rfl (fun other otherAt hat => ?_) (fun next hnext => ?_)
      fun other => ?_
    · by_cases hother : other = ticket
      · subst hother
        simp [actNow] at hat
      · exact hinvariant.tickets other otherAt (by simpa [actNow, hother] using hat)
    · obtain ⟨issuedAt, hat, rfl⟩ := Option.map_eq_some_iff.mp hnext
      exact hinvariant.tickets ticket issuedAt hat
    · rw [places_eq]
      by_cases hother : other = ticket
      · subst hother
        cases hat : shared.wsTickets other <;> simp [actNow, places, holdsTicket, hat]
      · cases hat : shared.wsTickets ticket <;>
          simp [actNow, places, holdsTicket, hother, Ne.symm hother, hat]
  | validate ticket issuedAt =>
    simp only [actNow]
    split_ifs with hage
    · exact hinvariant.upgrade hage
    · refine hinvariant.move rfl rfl hinvariant.tickets Tasks.forall_none fun other => ?_
      simp [places, List.countP_cons]
  | cleanup =>
    refine hinvariant.move rfl rfl hinvariant.tickets (fun next hnext => ?_) fun ticket => ?_
    · simp only [actNow] at hnext
      split_ifs at hnext
      · obtain rfl := Option.mem_some_iff.mp hnext
        trivial
      · cases hnext
    · rw [places_eq]
      cases hmore : input.more <;> simp [actNow, places, holdsTicket, hmore]

theorem invariant_act (shared : Shared) (others : List Task) (task : Task) (input : Input)
    (hinvariant : Invariant shared (task :: others)) (hfresh : Fresh shared others task input) :
    Invariant (act shared task input).1 ((act shared task input).2.toList ++ others) := by
  refine invariant_actNow (hinvariant.elapse input.elapsed) ?_
  cases task with
  | newTicket user => exact hfresh
  | authenticate _ | evict _ | insert _ _ | remove _ | validate _ _ | cleanup => trivial

/-- **Tickets are good once, and for 30 seconds.**  However the requests and the cleanup
overlap, every connection that is upgraded presented a ticket that was issued earlier to an
authenticated request, at most 30 seconds before, and that no other connection was upgraded
with. -/
theorem sound_of_fresh (now : ℕ) (events : List (Tasks.Event Request Input))
    (hfresh : ∀ point ∈ Machine.trace step (start now) events,
      Tasks.AtAdvance Fresh point.1 point.2) :
    Sound (Machine.run step (start now) events).shared.log := by
  have hstart : Invariant (start now).shared (start now).tasks :=
    { tickets := fun _ _ hat => by cases hat
      holds := fun _ htask => absurd htask List.not_mem_nil
      once := fun _ => Nat.zero_le _
      nowhere := fun _ _ => rfl
      sound := .nil }
  obtain ⟨hend, -⟩ := Tasks.invariant_run Invariant (fun _ _ _ hperm => Invariant.perm hperm)
    (fun _ _ request => Invariant.begin request) invariant_act hstart events hfresh
  exact hend.sound

end Places

/-! ### One ticket and two connections -/

section Example

@[reducible] def tokenJwt : Jwt where
  verify _ token :=
    if token = str "token" then
      some ⟨str "u1", str "viewer", str "read_only", 1767312000, 1767225600, str "t1"⟩
    else none

attribute [local instance] tokenJwt

def goesOn (index : ℕ) : Tasks.Event Request Input :=
  .advance index { elapsed := 10 ^ 9, uuid := str "6f9619ff-8b86-4d01-b42d-00cf4fc964ff" }

def twoConnections : List (Tasks.Event Request Input) :=
  .start (.issueTicket (some (str "Bearer token"))) :: .start .cleanup ::
    [goesOn 0, goesOn 0, goesOn 1, goesOn 0, goesOn 0,
      .start (.queryLogWs (str "6f9619ff-8b86-4d01-b42d-00cf4fc964ff")),
      .start (.queryLogWs (str "6f9619ff-8b86-4d01-b42d-00cf4fc964ff")),
      goesOn 1, goesOn 0, goesOn 0]

theorem sound_twoConnections :
    Sound (Machine.run step (start 0) twoConnections).shared.log :=
  sound_of_fresh 0 twoConnections (by decide +kernel)

end Example

end RustDns.Api.WsTickets
