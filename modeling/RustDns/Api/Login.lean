import RustDns.Tasks
import RustDns.Api.Auth

/-!
# The limit on failed logins

`auth::login` keeps, for every client address, how many logins have failed and when the
counting began.  A request is turned away while there are `MAX_LOGIN_FAILURES` of them and
the window of 15 minutes has not passed.

The count is looked at before the user is read and the password is verified, and raised
after that.  Requests that come in together all see the count as it was before any of them
has failed, so more wrong passwords can be tried than the limit says, unless a wrong
password is recorded before the next request is checked (`wrongTried_le_of_admissible`).

The clock never goes back: a step says how much time has passed before it.  The users are
whatever the query of a request finds.
-/

namespace RustDns.Api.Login

open Text

def maxLoginFailures : ℕ := 5

/-- `FAILURE_WINDOW`, in nanoseconds. -/
def failureWindow : ℕ := 15 * 60 * 10 ^ 9

/-- `LoginRequest`, with the address of the client. -/
structure LoginRequest where
  ip : Str
  username : Str
  password : Str

/-- An entry of `login_attempts`. -/
structure Attempts where
  count : ℕ
  windowStart : ℕ

/-- What has happened to the count of an address: a window began, or ended early with a
login, or a failure was recorded, after a wrong password or without one. -/
inductive Mark where
  | window
  | failure (wrong : Bool)

/-- What the requests share.  The code keeps no log; here it has the marks of all
addresses, newest first. -/
structure Shared where
  now : ℕ
  loginAttempts : Str → Option Attempts
  log : List (Str × Mark)

/-- The failures that were recorded for an address, in all its windows. -/
def failures (ip : Str) : List (Str × Mark) → ℕ
  | [] => 0
  | (other, .failure _) :: log => if other = ip then failures ip log + 1 else failures ip log
  | (_, .window) :: log => failures ip log

/-- The wrong passwords that were recorded for an address since its last window began. -/
def wrongInWindow (ip : Str) : List (Str × Mark) → ℕ
  | [] => 0
  | (other, .failure wrong) :: log =>
    if other = ip then wrongInWindow ip log + wrong.toNat else wrongInWindow ip log
  | (other, .window) :: log => if other = ip then 0 else wrongInWindow ip log

/-- What a step draws from outside: the time since the last one, and the users that its
query sees, if it does not fail. -/
structure Input where
  elapsed : ℕ
  users : Option (Table User.id)

/-- A request before the limit check, before its query, before the password is verified,
before it records a failure, and before it clears the count.  It remembers how many failures
had been recorded for its address at the check, as long as it may try a password. -/
inductive Task where
  | check (request : LoginRequest)
  | select (request : LoginRequest) (since : ℕ)
  | verify (request : LoginRequest) (hash : Str) (since : ℕ)
  | recordFailure (ip : Str) (wrong : Bool)
  | clear (ip : Str)

namespace Shared

/-- `login_attempts` with another entry for one address. -/
def setAttempts (shared : Shared) (ip : Str) (attempts : Option Attempts) (marks : List Mark) :
    Shared :=
  { shared with
    loginAttempts := Function.update shared.loginAttempts ip attempts
    log := marks.map (ip, ·) ++ shared.log }

/-- `window_start.elapsed() > FAILURE_WINDOW`. -/
def expired (shared : Shared) (attempts : Attempts) : Bool :=
  failureWindow < shared.now - attempts.windowStart

def checkLimit (shared : Shared) (ip : Str) : Shared × Bool :=
  match shared.loginAttempts ip with
  | none => (shared, false)
  | some attempts =>
    if shared.expired attempts then
      (shared.setAttempts ip (some ⟨0, shared.now⟩) [.window], false)
    else (shared, maxLoginFailures ≤ attempts.count)

def recordLoginFailure (shared : Shared) (ip : Str) (wrong : Bool) : Shared :=
  match shared.loginAttempts ip with
  | none => shared.setAttempts ip (some ⟨1, shared.now⟩) [.failure wrong, .window]
  | some attempts =>
    if shared.expired attempts then
      shared.setAttempts ip (some ⟨1, shared.now⟩) [.failure wrong, .window]
    else
      shared.setAttempts ip (some { attempts with count := attempts.count + 1 })
        [.failure wrong]

end Shared

def actNow [PasswordHash] (shared : Shared) (task : Task) (users : Option (Table User.id)) :
    Shared × Option Task :=
  match task with
  | .check request =>
    let (after, rejected) := shared.checkLimit request.ip
    if rejected then (after, none)
    else (after, some (.select request (failures request.ip after.log)))
  | .select request since =>
    match users with
    | none => (shared, none)
    | some users =>
      match users.rows.find? (·.username = request.username) with
      | none => (shared, some (.recordFailure request.ip false))
      | some user =>
        if user.isActive then (shared, some (.verify request user.password since))
        else (shared, some (.recordFailure request.ip false))
  | .verify request hash _ =>
    if PasswordHash.verify request.password hash then (shared, some (.clear request.ip))
    else (shared, some (.recordFailure request.ip true))
  | .recordFailure ip wrong => (shared.recordLoginFailure ip wrong, none)
  | .clear ip => (shared.setAttempts ip none [.window], none)

def act [PasswordHash] (shared : Shared) (task : Task) (input : Input) : Shared × Option Task :=
  actNow { shared with now := shared.now + input.elapsed } task input.users

abbrev step [PasswordHash] : Tasks.State Shared Task → Tasks.Event LoginRequest Input →
    Tasks.State Shared Task × Unit :=
  Tasks.step Task.check act

def start (now : ℕ) : Tasks.State Shared Task := ⟨⟨now, fun _ => none, []⟩, []⟩

/-- A wrong password of the address was tried, and is still to be recorded. -/
def isPending (ip : Str) : Task → Bool
  | .recordFailure other wrong => other = ip && wrong
  | _ => false

/-- The wrong passwords that were tried from an address in its current window: those that
were recorded, and those that are still to be. -/
def wrongTried (ip : Str) (state : Tasks.State Shared Task) : ℕ :=
  wrongInWindow ip state.shared.log + state.tasks.countP (isPending ip)

/-- A wrong password is tried only if no failure of the address was recorded since the check
of its request, and no other wrong password of the address is still to be recorded. -/
def Admissible [PasswordHash] (shared : Shared) (others : List Task) (task : Task)
    (_input : Input) : Prop :=
  match task with
  | .verify request hash since => PasswordHash.verify request.password hash = false →
      since = failures request.ip shared.log ∧
        ∀ other ∈ others, isPending request.ip other = false
  | _ => True

instance decidableAdmissible [PasswordHash] (shared : Shared) (others : List Task)
    (input : Input) : (task : Task) → Decidable (Admissible shared others task input)
  | .verify request hash since =>
    inferInstanceAs (Decidable (PasswordHash.verify request.password hash = false →
      since = failures request.ip shared.log ∧ _))
  | .check _ | .select _ _ | .recordFailure _ _ | .clear _ => .isTrue trivial

/-! ## The count of an address -/

section Counts

variable {shared : Shared} {ip ip' : Str} {log : List (Str × Mark)} {marks : List Mark}

theorem failures_of_ne (hne : ip' ≠ ip) :
    failures ip' (marks.map (ip, ·) ++ log) = failures ip' log := by
  induction marks with
  | nil => rfl
  | cons mark rest ih => cases mark <;> simp [failures, ih, hne.symm]

theorem wrongInWindow_of_ne (hne : ip' ≠ ip) :
    wrongInWindow ip' (marks.map (ip, ·) ++ log) = wrongInWindow ip' log := by
  induction marks with
  | nil => rfl
  | cons mark rest ih => cases mark <;> simp [wrongInWindow, ih, hne.symm]

/-- The count of an address, which is nothing without an entry. -/
def counted (shared : Shared) (ip : Str) : ℕ := (shared.loginAttempts ip).elim 0 Attempts.count

theorem counted_setAttempts_self (shared : Shared) (ip : Str) (attempts : Option Attempts)
    (marks : List Mark) :
    counted (shared.setAttempts ip attempts marks) ip = attempts.elim 0 Attempts.count := by
  simp [counted, Shared.setAttempts]

theorem counted_setAttempts_of_ne (hne : ip' ≠ ip) (attempts : Option Attempts) :
    counted (shared.setAttempts ip attempts marks) ip' = counted shared ip' := by
  simp [counted, Shared.setAttempts, hne]

theorem checkLimit_cases (shared : Shared) (ip : Str) :
    shared.checkLimit ip = (shared, true) ∨
      (shared.checkLimit ip = (shared, false) ∧ counted shared ip < maxLoginFailures) ∨
      shared.checkLimit ip = (shared.setAttempts ip (some ⟨0, shared.now⟩) [.window], false) := by
  unfold Shared.checkLimit
  cases hattempts : shared.loginAttempts ip with
  | none =>
    have hcounted : counted shared ip = 0 := by simp [counted, hattempts]
    exact Or.inr (Or.inl ⟨rfl, by rw [hcounted]; decide⟩)
  | some attempts =>
    have hcounted : counted shared ip = attempts.count := by simp [counted, hattempts]
    dsimp only
    split_ifs
    · exact Or.inr (Or.inr rfl)
    · by_cases hlimit : maxLoginFailures ≤ attempts.count
      · exact Or.inl (by simp [hlimit])
      · exact Or.inr (Or.inl ⟨by simp [hlimit], by omega⟩)

theorem recordLoginFailure_cases (shared : Shared) (ip : Str) (wrong : Bool) :
    shared.recordLoginFailure ip wrong =
        shared.setAttempts ip (some ⟨1, shared.now⟩) [.failure wrong, .window] ∨
      ∃ attempts : Attempts, attempts.count = counted shared ip + 1 ∧
        shared.recordLoginFailure ip wrong =
          shared.setAttempts ip (some attempts) [.failure wrong] := by
  unfold Shared.recordLoginFailure
  cases hattempts : shared.loginAttempts ip with
  | none => exact Or.inl rfl
  | some attempts =>
    dsimp only
    split_ifs
    · exact Or.inl rfl
    · exact Or.inr ⟨{ attempts with count := attempts.count + 1 },
        by simp [counted, hattempts], rfl⟩

end Counts

/-! ## Runs -/

section Runs

variable {shared after : Shared} {ip : Str} {since : ℕ} {marks : List Mark}

/-- A request that has passed the check: unless a failure was recorded since, the count is
still below the limit. -/
def Admitted (shared : Shared) (ip : Str) (since : ℕ) : Prop :=
  Tasks.Seen since (failures ip shared.log) (counted shared ip < maxLoginFailures)

variable {attempts : Option Attempts} {tasks : List Task}

theorem Admitted.lower (hadmitted : Admitted shared ip since)
    (hcount : attempts.elim 0 Attempts.count = 0) :
    Admitted (shared.setAttempts ip attempts [.window]) ip since := by
  refine ⟨hadmitted.1, fun _ => ?_⟩
  rw [counted_setAttempts_self, hcount]
  decide

theorem Admitted.late {wrong : Bool} {rest : List Mark}
    (hrest : failures ip (rest.map (ip, ·) ++ shared.log) = failures ip shared.log)
    (hadmitted : Admitted shared ip since) :
    Admitted (shared.setAttempts ip attempts (.failure wrong :: rest)) ip since := by
  have hfailures : failures ip (shared.setAttempts ip attempts (.failure wrong :: rest)).log =
      failures ip shared.log + 1 := by
    simp only [Shared.setAttempts, List.map_cons, List.cons_append, failures, if_true, hrest]
  unfold Admitted
  rw [hfailures]
  exact hadmitted.commit

def Holds (shared : Shared) : Task → Prop
  | .select request since | .verify request _ since => Admitted shared request.ip since
  | .check _ | .recordFailure _ _ | .clear _ => True

theorem Holds.imp {task : Task} (hholds : Holds shared task)
    (hadmitted : ∀ ip since, Admitted shared ip since → Admitted after ip since) :
    Holds after task := by
  cases task with
  | select request since => exact hadmitted _ _ hholds
  | verify request hash since => exact hadmitted _ _ hholds
  | check _ | recordFailure _ _ | clear _ => trivial

/-- What holds in every state of an admissible run: the wrong passwords that were recorded
are counted, and with those that are still to be recorded they are within the limit. -/
structure Invariant (shared : Shared) (tasks : List Task) : Prop where
  recorded : ∀ ip, wrongInWindow ip shared.log ≤ counted shared ip
  tried : ∀ ip, wrongInWindow ip shared.log + tasks.countP (isPending ip) ≤ maxLoginFailures
  holds : ∀ task ∈ tasks, Holds shared task

theorem Invariant.perm {tasks' : List Task} (hperm : tasks.Perm tasks')
    (hinvariant : Invariant shared tasks) : Invariant shared tasks' where
  recorded := hinvariant.recorded
  tried ip := hperm.countP_eq (isPending ip) ▸ hinvariant.tried ip
  holds task htask := hinvariant.holds task (hperm.symm.subset htask)

theorem Invariant.begin (request : LoginRequest) (hinvariant : Invariant shared tasks) :
    Invariant shared (.check request :: tasks) where
  recorded := hinvariant.recorded
  tried := hinvariant.tried
  holds := List.forall_mem_cons.mpr ⟨trivial, hinvariant.holds⟩

theorem Invariant.elapse (hinvariant : Invariant shared tasks) (now : ℕ) :
    Invariant { shared with now } tasks where
  recorded := hinvariant.recorded
  tried := hinvariant.tried
  holds task htask := (hinvariant.holds task htask).imp fun _ _ hadmitted => hadmitted

variable {others : List Task} {task : Task} {next : Option Task}

theorem Invariant.read (hinvariant : Invariant shared (task :: others))
    (htried : ∀ ip, wrongInWindow ip shared.log + (next.toList ++ others).countP (isPending ip) ≤
      maxLoginFailures)
    (hnext : ∀ task ∈ next, Holds shared task) : Invariant shared (next.toList ++ others) where
  recorded := hinvariant.recorded
  tried := htried
  holds := Tasks.forall_next hnext fun other hother =>
    hinvariant.holds other (List.mem_cons_of_mem _ hother)

theorem countP_isPending_eq_zero (htasks : ∀ task ∈ tasks, isPending ip task = false) :
    tasks.countP (isPending ip) = 0 := by
  refine List.countP_eq_zero.mpr fun task htask => ?_
  rw [htasks task htask]
  exact Bool.false_ne_true

theorem Invariant.tried_others (hinvariant : Invariant shared (task :: others))
    (hnext : ∀ ip, ∀ task ∈ next, isPending ip task = false) (ip : Str) :
    wrongInWindow ip shared.log + (next.toList ++ others).countP (isPending ip) ≤
      maxLoginFailures := by
  have hnone : next.toList.countP (isPending ip) = 0 :=
    countP_isPending_eq_zero fun task htask => hnext ip task (Option.mem_toList.mp htask)
  have hfewer : others.countP (isPending ip) ≤ (task :: others).countP (isPending ip) :=
    (List.sublist_cons_self task others).countP_le
  have htried := hinvariant.tried ip
  rw [List.countP_append]
  omega

theorem Invariant.write (hinvariant : Invariant shared (task :: others))
    (hrecorded : wrongInWindow ip (marks.map (ip, ·) ++ shared.log) ≤
      attempts.elim 0 Attempts.count)
    (htried : wrongInWindow ip (marks.map (ip, ·) ++ shared.log) + others.countP (isPending ip) ≤
      maxLoginFailures)
    (hself : ∀ since, Admitted shared ip since →
      Admitted (shared.setAttempts ip attempts marks) ip since)
    (hpending : ∀ ip', ∀ task ∈ next, isPending ip' task = false)
    (hnext : ∀ task ∈ next, Holds (shared.setAttempts ip attempts marks) task) :
    Invariant (shared.setAttempts ip attempts marks) (next.toList ++ others) := by
  refine ⟨fun ip' => ?_, fun ip' => ?_, Tasks.forall_next hnext fun other hother => ?_⟩
  · by_cases hip : ip' = ip
    · subst hip
      rw [counted_setAttempts_self]
      exact hrecorded
    · rw [counted_setAttempts_of_ne hip, Shared.setAttempts, wrongInWindow_of_ne hip]
      exact hinvariant.recorded ip'
  · by_cases hip : ip' = ip
    · subst hip
      have hnone : next.toList.countP (isPending ip') = 0 :=
        countP_isPending_eq_zero fun task htask => hpending ip' task (Option.mem_toList.mp htask)
      rw [List.countP_append, hnone, Nat.zero_add]
      exact htried
    · rw [Shared.setAttempts, wrongInWindow_of_ne hip]
      exact hinvariant.tried_others hpending ip'
  · refine (hinvariant.holds other (List.mem_cons_of_mem _ hother)).imp
      fun ip' since hadmitted => ?_
    by_cases hip : ip' = ip
    · subst hip
      exact hself since hadmitted
    · unfold Admitted
      rw [counted_setAttempts_of_ne hip, Shared.setAttempts, failures_of_ne hip]
      exact hadmitted

theorem Invariant.window (hinvariant : Invariant shared (task :: others))
    (hcount : attempts.elim 0 Attempts.count = 0)
    (hpending : ∀ ip', ∀ task ∈ next, isPending ip' task = false)
    (hnext : ∀ task ∈ next, Holds (shared.setAttempts ip attempts [.window]) task) :
    Invariant (shared.setAttempts ip attempts [.window]) (next.toList ++ others) := by
  have hnone : wrongInWindow ip ([Mark.window].map (ip, ·) ++ shared.log) = 0 := by
    simp [wrongInWindow]
  have hfewer : others.countP (isPending ip) ≤ (task :: others).countP (isPending ip) :=
    (List.sublist_cons_self task others).countP_le
  have htried := hinvariant.tried ip
  refine hinvariant.write ?_ ?_ (fun since hadmitted => hadmitted.lower hcount) hpending hnext
  · rw [hnone]
    exact Nat.zero_le _
  · rw [hnone]
    omega

theorem Invariant.recordFailure {wrong : Bool}
    (hinvariant : Invariant shared (.recordFailure ip wrong :: others)) :
    Invariant (shared.recordLoginFailure ip wrong) ((none : Option Task).toList ++ others) := by
  have hone : wrong.toNat ≤ 1 := Bool.toNat_le wrong
  -- the failure that is recorded was among those still to be
  have htried : wrongInWindow ip shared.log + wrong.toNat + others.countP (isPending ip) ≤
      maxLoginFailures := by
    have htried := hinvariant.tried ip
    cases wrong <;> simp [isPending] at htried ⊢ <;> omega
  rcases recordLoginFailure_cases shared ip wrong with hrecord | ⟨attempts, hattempts, hrecord⟩
  · have hwrong : wrongInWindow ip ([Mark.failure wrong, .window].map (ip, ·) ++ shared.log) =
        wrong.toNat := by
      simp [wrongInWindow]
    rw [hrecord]
    refine hinvariant.write ?_ ?_ (fun since hadmitted => hadmitted.late (by simp [failures]))
      (fun _ => Tasks.forall_none) Tasks.forall_none
    · rw [hwrong]
      exact hone
    · rw [hwrong]
      omega
  · have hwrong : wrongInWindow ip ([Mark.failure wrong].map (ip, ·) ++ shared.log) =
        wrongInWindow ip shared.log + wrong.toNat := by
      simp [wrongInWindow]
    have hrecorded := hinvariant.recorded ip
    rw [hrecord]
    refine hinvariant.write ?_ ?_ (fun since hadmitted => hadmitted.late rfl)
      (fun _ => Tasks.forall_none) Tasks.forall_none
    · rw [hwrong, Option.elim_some]
      omega
    · rw [hwrong]
      exact htried

/-- A wrong password that may be tried is the only one that is still to be recorded. -/
theorem Invariant.tryWrong {request : LoginRequest} {hash : Str}
    (hinvariant : Invariant shared (.verify request hash since :: others))
    (hsince : since = failures request.ip shared.log)
    (hothers : ∀ other ∈ others, isPending request.ip other = false) :
    Invariant shared ((some (Task.recordFailure request.ip true)).toList ++ others) := by
  refine hinvariant.read (fun ip => ?_) (Tasks.forall_some trivial)
  by_cases hip : request.ip = ip
  · subst hip
    have hbelow : counted shared request.ip < maxLoginFailures :=
      (hinvariant.holds _ List.mem_cons_self).2 hsince
    have hrecorded := hinvariant.recorded request.ip
    have hnone := countP_isPending_eq_zero hothers
    simp [isPending, hnone]
    omega
  · simpa [List.countP_cons, isPending, hip] using hinvariant.tried ip

theorem invariant_actNow [PasswordHash] {users : Option (Table User.id)} (input : Input)
    (hinvariant : Invariant shared (task :: others))
    (hadmissible : Admissible shared others task input) :
    Invariant (actNow shared task users).1 ((actNow shared task users).2.toList ++ others) := by
  have hholds : Holds shared task := hinvariant.holds task List.mem_cons_self
  have hdone : Invariant shared ((none : Option Task).toList ++ others) :=
    hinvariant.read (hinvariant.tried_others fun _ => Tasks.forall_none) Tasks.forall_none
  have hgoesOn : ∀ next, (∀ ip, isPending ip next = false) → Holds shared next →
      Invariant shared ((some next).toList ++ others) := fun next hpending hnext =>
    hinvariant.read (hinvariant.tried_others fun ip => Tasks.forall_some (hpending ip))
      (Tasks.forall_some hnext)
  cases task with
  | check request =>
    rcases checkLimit_cases shared request.ip with hcheck | ⟨hcheck, hbelow⟩ | hcheck
    · simp only [actNow, hcheck, if_true]
      exact hdone
    · simp only [actNow, hcheck, Bool.false_eq_true, if_false]
      exact hgoesOn _ (fun _ => rfl) (Tasks.seen_now hbelow)
    · simp only [actNow, hcheck, Bool.false_eq_true, if_false]
      refine hinvariant.window rfl (fun _ => Tasks.forall_some rfl)
        (Tasks.forall_some (Tasks.seen_now ?_))
      rw [counted_setAttempts_self]
      exact show 0 < maxLoginFailures by decide
  | select request since =>
    have hunknown : ∀ ip, isPending ip (.recordFailure request.ip false) = false := by
      simp [isPending]
    simp only [actNow]
    split
    · exact hdone
    · split
      · exact hgoesOn _ hunknown trivial
      · split_ifs
        · exact hgoesOn _ (fun _ => rfl) hholds
        · exact hgoesOn _ hunknown trivial
  | verify request hash since =>
    simp only [actNow]
    split_ifs with hverify
    · exact hgoesOn _ (fun _ => rfl) trivial
    · obtain ⟨hsince, hothers⟩ := hadmissible (Bool.eq_false_of_not_eq_true hverify)
      exact hinvariant.tryWrong hsince hothers
  | recordFailure ip wrong => exact hinvariant.recordFailure
  | clear ip => exact hinvariant.window rfl (fun _ => Tasks.forall_none) Tasks.forall_none

theorem invariant_act [PasswordHash] (shared : Shared) (others : List Task) (task : Task)
    (input : Input) (hinvariant : Invariant shared (task :: others))
    (hadmissible : Admissible shared others task input) :
    Invariant (act shared task input).1 ((act shared task input).2.toList ++ others) := by
  refine invariant_actNow input (hinvariant.elapse _) ?_
  cases task with
  | verify request hash since => exact hadmissible
  | check _ | select _ _ | recordFailure _ _ | clear _ => trivial

/-- **When the limit is kept.**  If a wrong password is tried only when no failure of the
address was recorded since the check of its request, and no other wrong password of the
address is still to be recorded, then no more wrong passwords are tried from an address in
a window than `MAX_LOGIN_FAILURES`. -/
theorem wrongTried_le_of_admissible [PasswordHash] (now : ℕ)
    (events : List (Tasks.Event LoginRequest Input))
    (hadmissible : ∀ point ∈ Machine.trace step (start now) events,
      Tasks.AtAdvance Admissible point.1 point.2) (ip : Str) :
    wrongTried ip (Machine.run step (start now) events) ≤ maxLoginFailures := by
  have hstart : Invariant (start now).shared (start now).tasks :=
    ⟨fun _ => le_rfl, fun _ => Nat.zero_le _, fun _ htask => absurd htask List.not_mem_nil⟩
  obtain ⟨hend, -⟩ := Tasks.invariant_run Invariant (fun _ _ _ hperm => Invariant.perm hperm)
    (fun _ _ request => Invariant.begin request) invariant_act hstart events hadmissible
  exact hend.tried ip

end Runs

/-! ### Requests that come in together -/

section Together

@[reducible] def plainPasswords : PasswordHash where
  verify password hash := password = hash
  hash _ password := .ok password

attribute [local instance] plainPasswords

def adminOnly : Table User.id where
  rows := [{ id := str "u1", username := str "admin", password := str "secret"
             role := str "super_admin", isActive := true, createdAt := str "2026-01-01"
             updatedAt := str "2026-01-01" }]
  nodup := List.nodup_singleton _

def wrongLogin : Tasks.Event LoginRequest Input :=
  .start ⟨str "192.0.2.1", str "admin", str "guess"⟩

def goesOn (index : ℕ) : Tasks.Event LoginRequest Input := .advance index ⟨10 ^ 6, some adminOnly⟩

/-- Six requests come in and pass the check; each reads the user, verifies the password, and
then all of them record their failure. -/
def sixTogether : List (Tasks.Event LoginRequest Input) :=
  List.replicate 6 wrongLogin ++ (List.range 6).map goesOn ++ (List.range 6).map goesOn ++
    (List.range 6).map goesOn ++ List.replicate 6 (goesOn 0)

/-- In one window, which has lasted for a few milliseconds, six wrong passwords were tried. -/
theorem not_wrongTried_le_sixTogether :
    let last := Machine.run step (start 0) sixTogether
    last.tasks.length = 0 ∧ last.shared.now < failureWindow ∧
      wrongTried (str "192.0.2.1") last = 6 ∧
      ¬ wrongTried (str "192.0.2.1") last ≤ maxLoginFailures := by
  decide +kernel

def sixInTurn : List (Tasks.Event LoginRequest Input) :=
  (List.replicate 6 (wrongLogin :: List.replicate 4 (goesOn 0))).flatten

theorem wrongTried_sixInTurn :
    wrongTried (str "192.0.2.1") (Machine.run step (start 0) sixInTurn) ≤ maxLoginFailures :=
  wrongTried_le_of_admissible 0 sixInTurn (by decide +kernel) (str "192.0.2.1")

end Together

end RustDns.Api.Login
