import RustDns.Api.State

/-!
# Tokens, guards and the own password

The extractors `AuthUser` and `AdminUser` of `api/middleware`, and the two
handlers of `handlers/auth.rs` that change the state: `logout` and
`change_password`.  A handler chooses its guard by the type of one of its
arguments; `AuthUser` accepts every role, `AdminUser` only the two
administrators.

Token verification and password hashing are parameters.
-/

namespace RustDns

open Text Program

/-- `Claims` of `auth/jwt.rs`. -/
structure Claims where
  sub : Str
  username : Str
  role : Str
  exp : ℕ
  iat : ℕ
  jti : Str
deriving DecidableEq

/-- `jwt::verify` with the secret of the server: the claims of a token whose
signature is right and that has not expired. -/
class Jwt where
  verify : (now token : Str) → Option Claims

/-- `auth/password.rs`. -/
class PasswordHash where
  verify : (password hash : Str) → Bool
  hash : (salt password : Str) → Except Str Str

/-- The claims of the token in an `authorization` header. -/
def bearerClaims [Jwt] (now : Str) (authorization : Option Str) : Option Claims :=
  (authorization.bind (stripPrefix (str "Bearer "))).bind (Jwt.verify now)

section Guards

variable [Unicode] [RegexCrate] [Jwt]

/-- `AuthUser::from_request_parts`. -/
def authUser (env : Env) (authorization : Option Str) : ApiM Claims := do
  match bearerClaims env.now authorization with
  | none => throw .authFailed
  | some claims =>
    if (← get).tokenBlacklist.contains claims.jti then throw .authFailed
    else return claims

/-- `AdminUser::from_request_parts`. -/
def adminUser (env : Env) (authorization : Option Str) : ApiM Claims := do
  let claims ← authUser env authorization
  if claims.role = str "admin" ∨ claims.role = str "super_admin" then return claims
  else throw (.unauthorized (str "Admin or super_admin role required"))

def logout (env : Env) (authorization : Option Str) : ApiM Unit := do
  match bearerClaims env.now authorization with
  | none => return ()
  | some claims =>
    modify fun state => { state with tokenBlacklist := claims.jti :: state.tokenBlacklist }

/-- The claims of a token that is accepted in a state: it is valid and has not been
logged out. -/
def acceptedClaims (env : Env) (authorization : Option Str) (state : AppState) : Option Claims :=
  (bearerClaims env.now authorization).filter fun claims =>
    ! state.tokenBlacklist.contains claims.jti

variable (env : Env) (authorization : Option Str)

theorem authUser_eval (state : AppState) :
    (authUser env authorization).eval state =
      ((acceptedClaims env authorization state).elim (.error .authFailed) .ok, state) := by
  unfold authUser acceptedClaims
  cases bearerClaims env.now authorization with
  | none => rfl
  | some claims =>
    rw [eval_bind, eval_get]
    by_cases hlisted : claims.jti ∈ state.tokenBlacklist <;> simp [hlisted, Option.filter]

theorem authUser_returns :
    Returns (authUser env authorization)
      fun claims => bearerClaims env.now authorization = some claims := by
  intro state claims hclaims
  rw [authUser_eval] at hclaims
  cases haccepted : acceptedClaims env authorization state with
  | none => simp [haccepted] at hclaims
  | some found =>
    rw [haccepted] at hclaims
    obtain rfl : found = claims := Except.ok.inj hclaims
    exact (Option.filter_eq_some_iff.mp haccepted).1

theorem adminUser_returns :
    Returns (adminUser env authorization)
      fun claims => bearerClaims env.now authorization = some claims ∧
        (claims.role = str "admin" ∨ claims.role = str "super_admin") := by
  refine returns_bind (authUser_returns env authorization) fun claims hclaims => ?_
  split_ifs with hrole
  · exact returns_pure ⟨hclaims, hrole⟩
  · exact returns_throw _ _

section Frame

variable {view : Database → Database}

variable (env : Env) (authorization : Option Str)

theorem authUser_respects : Respects (SameView view) (authUser env authorization) := by
  intro state
  unfold exec
  rw [authUser_eval]
  exact Std.Refl.refl state

theorem adminUser_respects : Respects (SameView view) (adminUser env authorization) := by
  refine respects_bind (authUser_respects env authorization) fun claims => ?_
  split_ifs
  · exact respects_pure _
  · exact respects_throw _

theorem logout_respects : Respects (SameView view) (logout env authorization) := by
  unfold logout
  split
  · exact respects_pure _
  · exact respects_modify_of_db fun _ => rfl

end Frame

end Guards

/-! ## The own password -/

structure ChangePasswordRequest where
  currentPassword : Str
  newPassword : Str

/-- `UPDATE users SET password = …, updated_at = … WHERE id = …`. -/
def Database.setPassword (id hash now : Str) (db : Database) : Database :=
  { db with
    users := db.users.updateWhere (·.id = id)
      (fun row => { row with password := hash, updatedAt := now }) fun _ => rfl }

def changePassword [Unicode] [RegexCrate] [PasswordHash] (env : Env) (claims : Claims)
    (req : ChangePasswordRequest) : ApiM Unit := do
  if len req.newPassword < 8 then
    throw (.validation (str "New password must be at least 8 characters"))
  else if req.newPassword = str "admin" then
    throw (.validation (str "New password cannot be the default password"))
  else match (← get).db.users.find? claims.sub with
    | none => throw (.notFound (str "User not found"))
    | some user =>
      if PasswordHash.verify req.currentPassword user.password then
        match PasswordHash.hash env.salt req.newPassword with
        | .error message => throw (.internal message)
        | .ok newHash => modifyDb (Database.setPassword user.id newHash env.now)
      else throw (.validation (str "Current password is incorrect"))

/-- The database with the passwords of some users blanked, and with them the
stamp of the last update, which every change of a password sets. -/
def Database.withoutPasswords (ids : List Str) (db : Database) : Database :=
  { db with
    users := db.users.updateWhere (fun row => ids.contains row.id)
      (fun row => { row with password := [], updatedAt := [] }) fun _ => rfl }

theorem Database.withoutPasswords_setPassword {ids : List Str} {id : Str} (hid : id ∈ ids)
    (hash now : Str) (db : Database) :
    (db.setPassword id hash now).withoutPasswords ids = db.withoutPasswords ids := by
  unfold setPassword withoutPasswords
  congr 1
  refine Table.updateWhere_updateWhere ?_ _ ?_ (fun row => rfl) (fun row => rfl)
  · exact fun row => rfl
  intro row hrow
  rw [of_decide_eq_true hrow]
  exact List.contains_iff_mem.mpr hid

theorem changePassword_respects [Unicode] [RegexCrate] [PasswordHash]
    {relation : AppState → AppState → Prop} [Std.Refl relation] [IsTrans AppState relation]
    (env : Env) {claims : Claims}
    (hset : ∀ hash now state,
      relation state { state with db := state.db.setPassword claims.sub hash now })
    (req : ChangePasswordRequest) : Respects relation (changePassword env claims req) := by
  unfold changePassword
  refine respects_guard _ (respects_guard _ (respects_bind respects_get fun state => ?_))
  cases hfind : state.db.users.find? claims.sub with
  | none => exact respects_throw _
  | some user =>
    have hid : user.id = claims.sub := by simpa using List.find?_some hfind
    dsimp only
    split_ifs
    · split
      · exact respects_throw _
      · exact respects_modify fun state => hid ▸ hset _ _ state
    · exact respects_throw _

end RustDns
