import RustDns.Api.Login

/-!
# Logins one after the other

`Login.lean` follows requests that overlap.  Here each attempt is over before the next one begins,
it takes no time, and the database answers.  Then the limit is exact.

What the limit is about is a *window* of an address: it starts with a failed attempt that is made
while no window is open, and it closes with the next login that succeeds, or when more than
15 minutes have passed.  `lastWindow` reads the windows off the history of the attempts.  The code
keeps a count and a time in one entry per address.  After every sequence of attempts the entry is
the last window (`loginAttempts_runAttempts`), so an attempt is rejected if and only if
a window is open that has five failures (`login_rejected_iff`).
-/

namespace RustDns.Api.Login

/-- How an attempt ends. -/
inductive Outcome where
  | rejected
  | failed
  | loggedIn
deriving DecidableEq

/-- An attempt: the request, the time since the last attempt, and the users at that time. -/
structure Attempt where
  request : LoginRequest
  elapsed : ℕ
  users : Table User.id

/-! ## The handler in one piece -/

section Login

variable [PasswordHash]

/-- `auth::login` from the query on, for a request that passed the limit check. -/
def authenticate (shared : Shared) (request : LoginRequest) (users : Table User.id) :
    Shared × Outcome :=
  match users.rows.find? (·.username = request.username) with
  | none => (shared.recordLoginFailure request.ip false, .failed)
  | some user =>
    if user.isActive then
      if PasswordHash.verify request.password user.password then
        (shared.setAttempts request.ip none [.window], .loggedIn)
      else (shared.recordLoginFailure request.ip true, .failed)
    else (shared.recordLoginFailure request.ip false, .failed)

/-- `auth::login` at one instant. -/
def login (shared : Shared) (attempt : Attempt) : Shared × Outcome :=
  let shared := { shared with now := shared.now + attempt.elapsed }
  let (shared, rejected) := shared.checkLimit attempt.request.ip
  if rejected then (shared, .rejected) else authenticate shared attempt.request attempt.users

/-- The user is known and active, and the password is right. -/
def Attempt.IsGenuine (attempt : Attempt) : Prop :=
  ∃ user, attempt.users.rows.find? (·.username = attempt.request.username) = some user ∧
    user.isActive = true ∧ PasswordHash.verify attempt.request.password user.password = true

theorem login_failed_iff (shared : Shared) (attempt : Attempt) :
    (login shared attempt).2 = .failed ↔
      (login shared attempt).2 ≠ .rejected ∧ ¬ attempt.IsGenuine := by
  unfold login authenticate Attempt.IsGenuine
  dsimp only
  split_ifs
  · simp
  · cases attempt.users.rows.find? (·.username = attempt.request.username) with
    | none => simp
    | some user =>
      by_cases hactive : user.isActive = true
      · by_cases hverify : PasswordHash.verify attempt.request.password user.password = true
        · simp [hactive, hverify]
        · simp [hactive, hverify]
      · simp [hactive]

/-- The events of a request from its start to its end, if no other runs. -/
def Attempt.events (attempt : Attempt) : List (Tasks.Event LoginRequest Input) :=
  .start attempt.request :: .advance 0 ⟨attempt.elapsed, some attempt.users⟩ ::
    List.replicate 3 (.advance 0 ⟨0, some attempt.users⟩)

theorem run_events (shared : Shared) (attempt : Attempt) :
    Machine.run step ⟨shared, []⟩ attempt.events = ⟨(login shared attempt).1, []⟩ := by
  obtain ⟨request, elapsed, users⟩ := attempt
  unfold Attempt.events login authenticate
  dsimp only
  generalize hclock : { shared with now := shared.now + elapsed } = clocked
  cases hcheck : clocked.checkLimit request.ip with
  | mk after rejected =>
    cases rejected with
    | true => simp [Machine.run, Tasks.step, act, actNow, hclock, hcheck]
    | false =>
      cases hfind : users.rows.find? (·.username = request.username) with
      | none => simp [Machine.run, Tasks.step, act, actNow, hclock, hcheck, hfind]
      | some user =>
        cases hactive : user.isActive with
        | false =>
          simp [Machine.run, Tasks.step, act, actNow, hclock, hcheck, hfind, hactive]
        | true =>
          cases hverify : PasswordHash.verify request.password user.password <;>
            simp [Machine.run, Tasks.step, act, actNow, hclock, hcheck, hfind, hactive, hverify]

end Login

/-! ## Windows -/

/-- An attempt of the past. -/
structure Past where
  time : ℕ
  ip : Str
  outcome : Outcome

/-- A window of an address: when it began, and the failures in it. -/
structure Window where
  start : ℕ
  failures : ℕ

/-- No more than 15 minutes have passed since the start. -/
def Window.isOpen (now : ℕ) (window : Window) : Bool := now - window.start ≤ failureWindow

/-- The last window of an address, unless a login has closed it.  The history has the newest
attempt first. -/
def lastWindow (ip : Str) : List Past → Option Window
  | [] => none
  | past :: history =>
    if past.ip = ip then
      match past.outcome with
      | .rejected => lastWindow ip history
      | .loggedIn => none
      | .failed =>
        match (lastWindow ip history).filter (Window.isOpen past.time) with
        | some window => some { window with failures := window.failures + 1 }
        | none => some ⟨past.time, 1⟩
    else lastWindow ip history

/-- The window of an address that is open now. -/
def openWindow (ip : Str) (now : ℕ) (history : List Past) : Option Window :=
  (lastWindow ip history).filter (Window.isOpen now)

/-! ## The entry is the window -/

/-- The entry of an address unless its time is over. -/
def live (now : ℕ) (entry : Option Attempts) : Option Attempts :=
  entry.filter fun attempts => now - attempts.windowStart ≤ failureWindow

theorem live_some (shared : Shared) (attempts : Attempts) :
    live shared.now (some attempts) = if shared.expired attempts then none else some attempts := by
  by_cases hexpired : shared.now - attempts.windowStart ≤ failureWindow
  · simp only [live, Option.filter_some, hexpired, Shared.expired, not_lt.mpr hexpired, decide_true,
      decide_false, Bool.false_eq_true, if_true, if_false]
  · simp only [live, Option.filter_some, hexpired, Shared.expired, not_le.mp hexpired, decide_true,
      decide_false, Bool.false_eq_true, if_true, if_false]

/-- What an attempt at the time `now` can do to the entry of its address. -/
inductive Ends (now : ℕ) (entry : Option Attempts) : Outcome → Option Attempts → Prop where
  | rejected (attempts : Attempts) (hlive : live now entry = some attempts)
      (hfull : maxLoginFailures ≤ attempts.count) : Ends now entry .rejected entry
  | counted (attempts : Attempts) (hlive : live now entry = some attempts)
      (hroom : attempts.count < maxLoginFailures) :
      Ends now entry .failed (some { attempts with count := attempts.count + 1 })
  | began (hlive : live now entry = none) : Ends now entry .failed (some ⟨1, now⟩)
  | loggedIn (hroom : ∀ attempts ∈ live now entry, attempts.count < maxLoginFailures) :
      Ends now entry .loggedIn none

variable {now : ℕ} {outcome : Outcome} {ip : Str} {history : List Past}

theorem Ends.rejected_iff {entry entry' : Option Attempts} (hends : Ends now entry outcome entry') :
    outcome = .rejected ↔
      ∃ attempts, live now entry = some attempts ∧ maxLoginFailures ≤ attempts.count := by
  cases hends with
  | rejected attempts hlive hfull => exact iff_of_true rfl ⟨attempts, hlive, hfull⟩
  | counted attempts hlive hroom =>
    refine iff_of_false nofun ?_
    rintro ⟨other, hother, hfull⟩
    obtain rfl := Option.some.inj (hlive.symm.trans hother)
    exact absurd hroom (not_lt.mpr hfull)
  | began hlive => exact iff_of_false nofun (by simp [hlive])
  | loggedIn hroom =>
    refine iff_of_false nofun ?_
    rintro ⟨attempts, hlive, hfull⟩
    exact absurd (hroom attempts hlive) (not_lt.mpr hfull)

section Steps

variable {shared after : Shared} {ip : Str}

theorem checkLimit_passed (hcheck : shared.checkLimit ip = (after, false)) :
    (after = shared ∧ ∀ attempts ∈ shared.loginAttempts ip,
        shared.expired attempts = false ∧ attempts.count < maxLoginFailures) ∨
      after = shared.setAttempts ip (some ⟨0, shared.now⟩) [.window] ∧
        live shared.now (shared.loginAttempts ip) = none := by
  unfold Shared.checkLimit at hcheck
  cases hentry : shared.loginAttempts ip with
  | none =>
    rw [hentry] at hcheck
    exact Or.inl ⟨(Prod.mk.inj hcheck).1.symm, nofun⟩
  | some attempts =>
    simp only [hentry] at hcheck
    by_cases hexpired : shared.expired attempts = true
    · rw [if_pos hexpired] at hcheck
      exact Or.inr ⟨(Prod.mk.inj hcheck).1.symm, by rw [live_some, if_pos hexpired]⟩
    · rw [if_neg hexpired, Prod.mk.injEq, decide_eq_false_iff_not, not_le] at hcheck
      refine Or.inl ⟨hcheck.1.symm, ?_⟩
      intro other hother
      obtain rfl := Option.mem_some.mp hother
      exact ⟨Bool.eq_false_of_not_eq_true hexpired, hcheck.2⟩

theorem checkLimit_rejected (hcheck : shared.checkLimit ip = (after, true)) :
    after = shared ∧ ∃ attempts, live shared.now (shared.loginAttempts ip) = some attempts ∧
        maxLoginFailures ≤ attempts.count := by
  unfold Shared.checkLimit at hcheck
  cases hentry : shared.loginAttempts ip with
  | none => simp [hentry] at hcheck
  | some attempts =>
    simp only [hentry] at hcheck
    by_cases hexpired : shared.expired attempts = true
    · rw [if_pos hexpired] at hcheck
      simp at hcheck
    · rw [if_neg hexpired, Prod.mk.injEq, decide_eq_true_iff] at hcheck
      exact ⟨hcheck.1.symm, attempts, by rw [live_some, if_neg hexpired], hcheck.2⟩

/-- A failure that is recorded at the instant of the check is the next of the entry, or the first if
none is live. -/
theorem ends_recordLoginFailure (hcheck : shared.checkLimit ip = (after, false)) (wrong : Bool) :
    (after.recordLoginFailure ip wrong).now = shared.now ∧
      ∃ entry, (after.recordLoginFailure ip wrong).loginAttempts =
          Function.update shared.loginAttempts ip entry ∧
        Ends shared.now (shared.loginAttempts ip) .failed entry := by
  rcases checkLimit_passed hcheck with ⟨rfl, hroom⟩ | ⟨rfl, hnone⟩
  · unfold Shared.recordLoginFailure
    cases hentry : after.loginAttempts ip with
    | none => exact ⟨rfl, _, rfl, .began rfl⟩
    | some attempts =>
      obtain ⟨hexpired, hcount⟩ := hroom attempts hentry
      simp only [hexpired, Bool.false_eq_true, if_false]
      refine ⟨rfl, _, rfl, .counted attempts ?_ hcount⟩
      simp [live_some, hexpired]
  · -- the count begins at this instant
    refine ⟨?_, some ⟨1, shared.now⟩, ?_, .began hnone⟩
    · simp [Shared.recordLoginFailure, Shared.setAttempts, Shared.expired]
    · simp [Shared.recordLoginFailure, Shared.setAttempts, Shared.expired]

variable [PasswordHash]

theorem ends_authenticate {request : LoginRequest}
    (hcheck : shared.checkLimit request.ip = (after, false)) (users : Table User.id) :
    (authenticate after request users).1.now = shared.now ∧
      ∃ entry, (authenticate after request users).1.loginAttempts =
          Function.update shared.loginAttempts request.ip entry ∧
        Ends shared.now (shared.loginAttempts request.ip) (authenticate after request users).2
          entry := by
  unfold authenticate
  split
  · exact ends_recordLoginFailure hcheck false
  · split_ifs
    · rcases checkLimit_passed hcheck with ⟨rfl, hroom⟩ | ⟨rfl, hnone⟩
      · refine ⟨rfl, none, rfl, .loggedIn ?_⟩
        intro attempts hattempts
        exact (hroom attempts (Option.filter_eq_some_iff.mp hattempts).1).2
      · refine ⟨rfl, none, ?_, .loggedIn ?_⟩
        · simp [Shared.setAttempts]
        · simp [hnone]
    · exact ends_recordLoginFailure hcheck true
    · exact ends_recordLoginFailure hcheck false

theorem ends_login (shared : Shared) (attempt : Attempt) :
    (login shared attempt).1.now = shared.now + attempt.elapsed ∧
      ∃ entry, (login shared attempt).1.loginAttempts =
          Function.update shared.loginAttempts attempt.request.ip entry ∧
        Ends (shared.now + attempt.elapsed) (shared.loginAttempts attempt.request.ip)
          (login shared attempt).2 entry := by
  unfold login
  dsimp only
  cases hcheck : Shared.checkLimit { shared with now := shared.now + attempt.elapsed }
      attempt.request.ip with
  | mk after rejected =>
    cases rejected with
    | false => exact ends_authenticate hcheck attempt.users
    | true =>
      obtain ⟨rfl, attempts, hlive, hfull⟩ := checkLimit_rejected hcheck
      exact ⟨rfl, _, (Function.update_eq_self _ _).symm, .rejected attempts hlive hfull⟩

end Steps

/-! ## Sequences of attempts -/

/-- What the requests share, and the attempts so far, newest first. -/
structure Logbook where
  shared : Shared
  history : List Past

/-- The state at the start of the server. -/
def Logbook.new (now : ℕ) : Logbook := ⟨(Login.start now).shared, []⟩

/-- The entry that the code keeps for a window. -/
def Window.entry (window : Window) : Attempts := ⟨window.failures, window.start⟩

/-- The entry is the last window of the address, which has no more than five failures. -/
def Tracks (ip : Str) (history : List Past) (entry : Option Attempts) : Prop :=
  entry = (lastWindow ip history).map Window.entry ∧
    ∀ window ∈ lastWindow ip history, window.failures ≤ maxLoginFailures

theorem Tracks.live_eq {entry : Option Attempts} (htracks : Tracks ip history entry) (now : ℕ) :
    live now entry = (openWindow ip now history).map Window.entry := by
  rw [htracks.1, live, openWindow]
  cases lastWindow ip history with
  | none => rfl
  | some window =>
    rw [Option.map_some, Option.filter_some, Option.filter_some]
    by_cases hopen : now - window.start ≤ failureWindow
    · simp only [Window.entry, Window.isOpen, hopen, decide_true, if_true, Option.map_some]
    · simp only [Window.entry, Window.isOpen, hopen, decide_false, Bool.false_eq_true, if_false,
        Option.map_none]

theorem Ends.tracks {entry entry' : Option Attempts} (hends : Ends now entry outcome entry')
    (htracks : Tracks ip history entry) : Tracks ip (⟨now, ip, outcome⟩ :: history) entry' := by
  have hlive := htracks.live_eq now
  rw [openWindow] at hlive
  cases hends with
  | rejected attempts hentry hfull =>
    unfold Tracks
    rw [lastWindow, if_pos rfl]
    exact htracks
  | counted attempts hentry hroom =>
    obtain ⟨window, hwindow, rfl⟩ := Option.map_eq_some_iff.mp (hlive.symm.trans hentry)
    refine ⟨by simp [lastWindow, hwindow, Window.entry], ?_⟩
    intro other hother
    obtain rfl : { window with failures := window.failures + 1 } = other := by
      simpa [lastWindow, hwindow] using hother
    exact hroom
  | began hentry =>
    have hwindow := Option.map_eq_none_iff.mp (hlive.symm.trans hentry)
    refine ⟨by simp [lastWindow, hwindow, Window.entry], ?_⟩
    intro other hother
    obtain rfl : Window.mk now 1 = other := by simpa [lastWindow, hwindow] using hother
    exact show 1 ≤ maxLoginFailures by decide
  | loggedIn hroom =>
    refine ⟨by simp [lastWindow], ?_⟩
    intro other hother
    simp [lastWindow] at hother

section Runs

variable [PasswordHash]

/-- An attempt, which is added to the history. -/
def attemptStep (book : Logbook) (attempt : Attempt) : Logbook × Outcome :=
  let (shared, outcome) := login book.shared attempt
  (⟨shared, ⟨shared.now, attempt.request.ip, outcome⟩ :: book.history⟩, outcome)

/-- Logins one after the other are runs of whole attempts. -/
theorem run_flatMap_events (book : Logbook) (attempts : List Attempt) :
    Machine.run step ⟨book.shared, []⟩ (attempts.flatMap Attempt.events) =
      ⟨(Machine.run attemptStep book attempts).shared, []⟩ := by
  induction attempts generalizing book with
  | nil => rfl
  | cons attempt rest ih =>
    rw [List.flatMap_cons, Machine.run, List.foldl_append]
    change Machine.run step (Machine.run step _ attempt.events) _ = _
    rw [run_events]
    exact ih (attemptStep book attempt).1

theorem tracks_attemptStep {book : Logbook}
    (htracks : ∀ ip, Tracks ip book.history (book.shared.loginAttempts ip)) (attempt : Attempt) :
    let next := (attemptStep book attempt).1
    ∀ ip, Tracks ip next.history (next.shared.loginAttempts ip) := by
  intro next ip
  obtain ⟨hnow, entry, hentry, hends⟩ := ends_login book.shared attempt
  rw [← hnow] at hends
  by_cases hip : attempt.request.ip = ip
  · subst hip
    have hself : next.shared.loginAttempts attempt.request.ip = entry := by
      simp [next, attemptStep, hentry]
    rw [hself]
    exact hends.tracks (htracks attempt.request.ip)
  · have hother : next.shared.loginAttempts ip = book.shared.loginAttempts ip := by
      simp [next, attemptStep, hentry, Ne.symm hip]
    have hwindow : lastWindow ip next.history = lastWindow ip book.history := by
      simp [next, attemptStep, lastWindow, hip]
    rw [hother, Tracks, hwindow]
    exact htracks ip

theorem loginAttempts_runAttempts (now : ℕ) (attempts : List Attempt) (ip : Str) :
    let book := Machine.run attemptStep (Logbook.new now) attempts
    Tracks ip book.history (book.shared.loginAttempts ip) := by
  refine (Machine.forall_trace attemptStep
    (fun book => ∀ ip, Tracks ip book.history (book.shared.loginAttempts ip)) (fun _ _ => True)
    (fun _ attempt htracks _ => tracks_attemptStep htracks attempt) ?_ attempts
    fun _ _ => trivial).1 ip
  exact fun ip => ⟨rfl, nofun⟩

/-- **The limit is exact.**  After every sequence of attempts, the next one is rejected if and only
if its address has an open window with five failures, and then it leaves the entries as they are.
One that is not rejected fails exactly for a user that is unknown or inactive or for a wrong
password. -/
theorem login_rejected_iff (now : ℕ) (attempts : List Attempt) (attempt : Attempt) :
    let book := Machine.run attemptStep (Logbook.new now) attempts
    ((login book.shared attempt).2 = .rejected ↔
        ∃ window, openWindow attempt.request.ip (book.shared.now + attempt.elapsed) book.history =
          some window ∧ window.failures = maxLoginFailures) ∧
      ((login book.shared attempt).2 = .rejected →
        (login book.shared attempt).1.loginAttempts = book.shared.loginAttempts) ∧
      ((login book.shared attempt).2 = .failed ↔
        (login book.shared attempt).2 ≠ .rejected ∧ ¬ attempt.IsGenuine) := by
  intro book
  have htracks := loginAttempts_runAttempts now attempts attempt.request.ip
  have hlive := htracks.live_eq (book.shared.now + attempt.elapsed)
  obtain ⟨-, entry, hentry, hends⟩ := ends_login book.shared attempt
  refine ⟨?_, ?_, login_failed_iff book.shared attempt⟩
  · rw [hends.rejected_iff, hlive]
    constructor
    · rintro ⟨attempts, hattempts, hfull⟩
      obtain ⟨window, hwindow, rfl⟩ := Option.map_eq_some_iff.mp hattempts
      have hlast := (Option.filter_eq_some_iff.mp hwindow).1
      exact ⟨window, hwindow, le_antisymm (htracks.2 window hlast) hfull⟩
    · rintro ⟨window, hwindow, hfive⟩
      exact ⟨window.entry, by rw [hwindow, Option.map_some], hfive.ge⟩
  · intro hrejected
    rw [hrejected] at hends
    cases hends
    rw [hentry, Function.update_eq_self]

end Runs

end RustDns.Api.Login
