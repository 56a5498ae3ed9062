import RustDns.Tasks
import RustDns.Api.State

/-!
# Roles

`users::update_role` gives a user a role.  It is meant to leave at least one active
`super_admin`: before it takes that role from a user, it counts those there are.

The row is read by one statement, the count taken by another, and the role written by a
third, each committed on its own.  Two requests that overlap can so both count two and
each take the role from one of them.  Where no role is written between the first statement
and the last of a request that takes the role away, one is always left
(`superAdmins_pos_of_admissible`).
-/

namespace RustDns.Api.Users

open Text Program

/-- `UpdateRoleRequest`, with the id of the path. -/
structure UpdateRoleRequest where
  id : Str
  role : Str

def validateRole (role : Str) : Except AppError Unit :=
  if role ∈ [str "super_admin", str "admin", str "operator", str "read_only"] then .ok ()
  else .error (.validation (str "Invalid role: " ++ role ++
    str ". Must be one of: super_admin, admin, operator, read_only"))

/-- `role = 'super_admin' AND is_active = true`. -/
def isSuperAdmin (user : User) : Bool := user.role = str "super_admin" && user.isActive

def superAdmins (db : Database) : ℕ := db.users.rowsAffected isSuperAdmin

def demotes (user : User) (role : Str) : Bool :=
  user.role = str "super_admin" && role ≠ str "super_admin"

/-- `UPDATE users SET role = …, updated_at = … WHERE id = …`. -/
def setRole (id role now : Str) (db : Database) : Database :=
  { db with
    users := db.users.updateWhere (·.id = id)
      (fun user => { user with role, updatedAt := now }) fun _ => rfl }

/-- `users::update_role`: the columns of the row that are returned. -/
def updateRole [Unicode] [RegexCrate] (env : Env) (request : UpdateRoleRequest) : ApiM User := do
  match validateRole request.role with
  | .error error => throw error
  | .ok () =>
    match (← get).db.users.find? request.id with
    | none => throw (.notFound (str "User " ++ request.id ++ str " not found"))
    | some user =>
      if demotes user request.role && superAdmins (← get).db ≤ 1 then
        throw (.validation
          (str "Cannot change role: at least one super_admin must remain"))
      else
        modifyDb (setRole request.id request.role env.now)
        return { user with role := request.role, updatedAt := env.now }

/-! ## The statements as steps -/

/-- What the requests share.  The code keeps no count of the roles that were written. -/
structure Shared where
  db : Database
  commits : ℕ

/-- A request before its first statement, before it counts, and before it writes.  It
remembers how many roles had been written at its first statement. -/
inductive Task where
  | select (request : UpdateRoleRequest)
  | count (request : UpdateRoleRequest) (since : ℕ)
  | update (request : UpdateRoleRequest) (since : ℕ)

def act (shared : Shared) (task : Task) (now : Str) : Shared × Option Task :=
  match task with
  | .select request =>
    match validateRole request.role, shared.db.users.find? request.id with
    | .ok (), some user =>
      if demotes user request.role then (shared, some (.count request shared.commits))
      else (shared, some (.update request shared.commits))
    | _, _ => (shared, none)
  | .count request since =>
    if superAdmins shared.db ≤ 1 then (shared, none)
    else (shared, some (.update request since))
  | .update request _ =>
    (⟨setRole request.id request.role now shared.db, shared.commits + 1⟩, none)

abbrev step : Tasks.State Shared Task → Tasks.Event UpdateRoleRequest Str →
    Tasks.State Shared Task × Unit :=
  Tasks.step Task.select act

/-- A request that runs alone leaves behind what `updateRole` does. -/
theorem run_alone [Unicode] [RegexCrate] (env : Env) (request : UpdateRoleRequest)
    (state : AppState) (commits : ℕ) :
    (Machine.run step ⟨⟨state.db, commits⟩, []⟩
        (.start request :: List.replicate 3 (.advance 0 env.now))).shared.db =
      ((updateRole env request).exec state).db := by
  obtain ⟨id, role⟩ := request
  unfold updateRole
  cases hrole : validateRole role with
  | error error => simp [Machine.run, Tasks.step, act, hrole, exec]
  | ok _ =>
    rw [exec_get_bind]
    cases hfind : state.db.users.find? id with
    | none => simp [Machine.run, Tasks.step, act, hrole, hfind, exec]
    | some user =>
      rw [exec_get_bind]
      by_cases hdemotes : demotes user role = true
      · by_cases hcount : superAdmins state.db ≤ 1
        · simp [Machine.run, Tasks.step, act, hrole, hfind, hdemotes, hcount, exec]
        · simp [Machine.run, Tasks.step, act, hrole, hfind, hdemotes, hcount]
          rfl
      · simp [Machine.run, Tasks.step, act, hrole, hfind, hdemotes]
        rfl

def TakesRole (db : Database) (request : UpdateRoleRequest) : Prop :=
  (∃ user ∈ db.users.rows, user.id = request.id ∧ isSuperAdmin user = true) ∧
    request.role ≠ str "super_admin"

instance decidableTakesRole (db : Database) (request : UpdateRoleRequest) :
    Decidable (TakesRole db request) :=
  inferInstanceAs (Decidable ((∃ user ∈ db.users.rows, _) ∧ _))

/-- An update that takes the role away is made only if no role was written since the first
statement of its request. -/
def Admissible (shared : Shared) (_others : List Task) (task : Task) (_now : Str) : Prop :=
  match task with
  | .update request since => TakesRole shared.db request → since = shared.commits
  | _ => True

instance decidableAdmissible (shared : Shared) (others : List Task) (now : Str) :
    (task : Task) → Decidable (Admissible shared others task now)
  | .update request since =>
    inferInstanceAs (Decidable (TakesRole shared.db request → since = shared.commits))
  | .select _ | .count _ _ => .isTrue trivial

/-! ## One is left -/

section Runs

variable {shared : Shared} {request : UpdateRoleRequest}

theorem superAdmins_le_setRole (db : Database) (now : Str) (htakes : ¬ TakesRole db request) :
    superAdmins db ≤ superAdmins (setRole request.id request.role now db) := by
  refine Table.rowsAffected_le_updateWhere ?_ fun user huser hid hsuper => ?_
  · exact fun _ => rfl
  have hrole : request.role = str "super_admin" := by
    by_contra hrole
    exact htakes ⟨⟨user, huser, of_decide_eq_true hid, hsuper⟩, hrole⟩
  have hactive : user.isActive = true := ((Bool.and_eq_true _ _).mp hsuper).2
  simp [isSuperAdmin, hrole, hactive]

theorem superAdmins_le_setRole_add_one (db : Database) (id role now : Str) :
    superAdmins db ≤ superAdmins (setRole id role now db) + 1 := by
  refine Table.rowsAffected_le_updateWhere_key_add_one ?_ id
  exact fun _ => rfl

def Spares (db : Database) (request : UpdateRoleRequest) : Prop :=
  TakesRole db request → 2 ≤ superAdmins db

/-- What a request has read is still so unless a role was written since. -/
def Holds (shared : Shared) : Task → Prop
  | .select _ => True
  | .count _ since => Tasks.Seen since shared.commits True
  | .update request since => Tasks.Seen since shared.commits (Spares shared.db request)

theorem spares_of_not_demotes {db : Database} {user : User}
    (hfind : db.users.find? request.id = some user)
    (hdemotes : ¬ demotes user request.role = true) :
    Spares db request := by
  rintro ⟨⟨other, hother, hid, hsuper⟩, hrole⟩
  obtain rfl : other = user := by
    rw [Table.find?_eq_some_iff.mpr ⟨hother, hid⟩] at hfind
    exact Option.some.inj hfind
  refine absurd ?_ hdemotes
  have hsuperRole := ((Bool.and_eq_true _ _).mp hsuper).1
  simpa [demotes, hrole] using hsuperRole

structure Invariant (shared : Shared) (tasks : List Task) : Prop where
  left : 0 < superAdmins shared.db
  holds : ∀ task ∈ tasks, Holds shared task

theorem Invariant.begin {tasks : List Task} (request : UpdateRoleRequest)
    (hinvariant : Invariant shared tasks) : Invariant shared (.select request :: tasks) where
  left := hinvariant.left
  holds := List.forall_mem_cons.mpr ⟨trivial, hinvariant.holds⟩

theorem Invariant.perm {tasks tasks' : List Task} (hperm : tasks.Perm tasks')
    (hinvariant : Invariant shared tasks) : Invariant shared tasks' where
  left := hinvariant.left
  holds task htask := hinvariant.holds task (hperm.symm.subset htask)

variable {others : List Task} {task : Task} {next : Option Task}

theorem Invariant.read (hinvariant : Invariant shared (task :: others))
    (hnext : ∀ task ∈ next, Holds shared task) : Invariant shared (next.toList ++ others) where
  left := hinvariant.left
  holds := Tasks.forall_next hnext fun other hother =>
    hinvariant.holds other (List.mem_cons_of_mem _ hother)

theorem Holds.commit (hholds : Holds shared task) (db : Database) :
    Holds ⟨db, shared.commits + 1⟩ task := by
  cases task with
  | select request => trivial
  | count request since => exact Tasks.Seen.commit hholds
  | update request since => exact Tasks.Seen.commit hholds

theorem invariant_act (shared : Shared) (others : List Task) (task : Task) (now : Str)
    (hinvariant : Invariant shared (task :: others))
    (hadmissible : Admissible shared others task now) :
    Invariant (act shared task now).1 ((act shared task now).2.toList ++ others) := by
  have hholds : Holds shared task := hinvariant.holds task List.mem_cons_self
  cases task with
  | select request =>
    simp only [act]
    split
    · rename_i user hrole hfind
      split_ifs with hdemotes
      · exact hinvariant.read (Tasks.forall_some (Tasks.seen_now trivial))
      · exact hinvariant.read
          (Tasks.forall_some (Tasks.seen_now (spares_of_not_demotes hfind hdemotes)))
    · exact hinvariant.read Tasks.forall_none
  | count request since =>
    simp only [act]
    split_ifs with hcount
    · exact hinvariant.read Tasks.forall_none
    · have htwo : 2 ≤ superAdmins shared.db := by omega
      exact hinvariant.read (Tasks.forall_some (Tasks.Seen.imp hholds fun _ _ => htwo))
  | update request since =>
    refine ⟨?_, Tasks.forall_next Tasks.forall_none fun other hother =>
      (hinvariant.holds other (List.mem_cons_of_mem _ hother)).commit _⟩
    have hleft := hinvariant.left
    by_cases htakes : TakesRole shared.db request
    · have htwo : 2 ≤ superAdmins shared.db := hholds.2 (hadmissible htakes) htakes
      have hone := superAdmins_le_setRole_add_one shared.db request.id request.role now
      show 0 < superAdmins (setRole request.id request.role now shared.db)
      omega
    · exact hleft.trans_le (superAdmins_le_setRole shared.db now htakes)

/-- **When a super administrator is left.**  If no role is written between the first
statement of a request that takes the role of a super administrator away and its last,
then there is an active super administrator after every step. -/
theorem superAdmins_pos_of_admissible (state : Tasks.State Shared Task)
    (hinit : 0 < superAdmins state.shared.db) (hidle : state.tasks = [])
    (events : List (Tasks.Event UpdateRoleRequest Str))
    (hadmissible : ∀ point ∈ Machine.trace step state events,
      Tasks.AtAdvance Admissible point.1 point.2) :
    0 < superAdmins (Machine.run step state events).shared.db := by
  have hstart : Invariant state.shared state.tasks := by
    rw [hidle]
    exact ⟨hinit, fun _ htask => absurd htask List.not_mem_nil⟩
  obtain ⟨hend, -⟩ := Tasks.invariant_run Invariant (fun _ _ _ hperm => Invariant.perm hperm)
    (fun _ _ request => Invariant.begin request) invariant_act hstart events hadmissible
  exact hend.left

end Runs

/-! ### Two requests that overlap -/

section Overlap

def superAdmin (id : String) : User where
  id := str id
  username := str id
  password := str "hash"
  role := str "super_admin"
  isActive := true
  createdAt := str "2026-01-01"
  updatedAt := str "2026-01-01"

def twoSuperAdmins : Tasks.State Shared Task :=
  ⟨⟨{ Database.empty with users := ⟨[superAdmin "u1", superAdmin "u2"], by decide⟩ }, 0⟩, []⟩

/-- The role of a user is to become `admin`. -/
def demotion (id : String) : Tasks.Event UpdateRoleRequest Str :=
  .start ⟨str id, str "admin"⟩

def goesOn (index : ℕ) : Tasks.Event UpdateRoleRequest Str := .advance index (str "2026-02-01")

def overlappingDemotions : List (Tasks.Event UpdateRoleRequest Str) :=
  [demotion "u1", demotion "u2", goesOn 0, goesOn 1, goesOn 0, goesOn 1, goesOn 0, goesOn 0]

/-- In the end no request is in flight and no super administrator is left. -/
theorem not_superAdmins_pos_overlappingDemotions :
    0 < superAdmins twoSuperAdmins.shared.db ∧
      (Machine.run step twoSuperAdmins overlappingDemotions).tasks.length = 0 ∧
      ¬ 0 < superAdmins (Machine.run step twoSuperAdmins overlappingDemotions).shared.db := by
  decide +kernel

def separateDemotions : List (Tasks.Event UpdateRoleRequest Str) :=
  [demotion "u1", goesOn 0, goesOn 0, goesOn 0, demotion "u2", goesOn 0, goesOn 0]

theorem superAdmins_pos_separateDemotions :
    0 < superAdmins (Machine.run step twoSuperAdmins separateDemotions).shared.db :=
  superAdmins_pos_of_admissible twoSuperAdmins (by decide +kernel) rfl separateDemotions
    (by decide +kernel)

end Overlap

end RustDns.Api.Users
