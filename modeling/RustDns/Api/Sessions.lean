import RustDns.Machine
import RustDns.Api.Auth

/-!
# Sessions

A `login` with the right password ends with a token of `jwt::generate`.  It runs out after
`jwt_expiry_hours`, and after 168 hours at the latest.  `logout` puts the `jti` of a token on a
list, which the guards consult and a restart forgets.  So a token is accepted until it runs out,
unless it was logged out since the last restart (`accepted_iff`): it outlives a new password
(`changePassword_sameBlacklist`).
-/

namespace RustDns.Api.Sessions

open Text Program

/-- The crate `jsonwebtoken` with HS256.  A token is accepted for some seconds after it has run
out. -/
class JsonWebToken where
  encode : (secret : Str) → Claims → Option Str
  decode : (secret token : Str) → Option Claims
  leeway : ℕ

/-- What `login` reads of the configuration. -/
structure AuthConfig where
  jwtSecret : Str
  jwtExpiryHours : ℕ
  allowDefaultPassword : Bool

structure LoginResponse where
  token : Str
  expiresIn : ℕ
  role : Str
  requiresPasswordChange : Bool

/-- The claims that `jwt::generate` signs, at a time in seconds. -/
def newClaims (now : ℕ) (jti userId username role : Str) (expiryHours : ℕ) : Claims :=
  ⟨userId, username, role, now + expiryHours * 3600, now, jti⟩

section Model

variable [JsonWebToken]

/-- `jwt::verify`. -/
def verify (now : ℕ) (secret token : Str) : Option Claims :=
  (JsonWebToken.decode secret token).filter (now ≤ ·.exp + JsonWebToken.leeway)

/-- `jwt::verify` for the guards.  `timestamp` reads the clock of a request. -/
@[reducible] def jwt (timestamp : Str → ℕ) (secret : Str) : Jwt :=
  ⟨fun now token => verify (timestamp now) secret token⟩

/-- The end of `login`.  The username is the one of the request. -/
def issueToken (config : AuthConfig) (now : ℕ) (jti username password : Str) (user : User) :
    Option LoginResponse :=
  let claims := newClaims now jti user.id username user.role (min config.jwtExpiryHours 168)
  (JsonWebToken.encode config.jwtSecret claims).map fun token =>
    ⟨token, config.jwtExpiryHours * 3600, user.role,
      password = str "admin" && ! config.allowDefaultPassword⟩

end Model

section Runs

variable [Unicode] [RegexCrate]

inductive Event where
  | logout (env : Env) (authorization : Option Str)
  /-- Another request.  Only `logout` writes the list. -/
  | other (change : AppState → AppState)
      (hchange : ∀ state, (change state).tokenBlacklist = state.tokenBlacklist)
  | restart

def step [Jwt] (state : AppState) : Event → AppState × Unit
  | .logout env authorization => ((logout env authorization).exec state, ())
  | .other change _ => (change state, ())
  | .restart => ({ state with tokenBlacklist := [] }, ())

/-- The list of logged out tokens is the same. -/
def SameBlacklist (before after : AppState) : Prop := after.tokenBlacklist = before.tokenBlacklist

instance reflSameBlacklist : Std.Refl SameBlacklist := ⟨fun _ => rfl⟩

instance transSameBlacklist : IsTrans AppState SameBlacklist :=
  ⟨fun _ _ _ hfirst hsecond => hsecond.trans hfirst⟩

theorem changePassword_sameBlacklist [PasswordHash] (env : Env) (claims : Claims)
    (req : ChangePasswordRequest) : Respects SameBlacklist (changePassword env claims req) :=
  changePassword_respects env (fun _ _ _ => rfl) req

/-- `change_password` as a request of a run. -/
def Event.changePassword [PasswordHash] (env : Env) (claims : Claims)
    (req : ChangePasswordRequest) : Event :=
  .other (RustDns.changePassword env claims req).exec
    (changePassword_sameBlacklist env claims req)

/-- A valid token with this `jti` was logged out, and there was no restart since. -/
inductive LoggedOut [Jwt] (jti : Str) : List Event → Prop
  | first {env : Env} {authorization : Option Str} {claims : Claims} {rest : List Event}
      (hclaims : bearerClaims env.now authorization = some claims) (hjti : claims.jti = jti)
      (hrest : .restart ∉ rest) : LoggedOut jti (.logout env authorization :: rest)
  | later {event : Event} {rest : List Event} (hrest : LoggedOut jti rest) :
      LoggedOut jti (event :: rest)

theorem mem_tokenBlacklist_logout [Jwt] (env : Env) (authorization : Option Str)
    (state : AppState) (jti : Str) :
    jti ∈ ((logout env authorization).exec state).tokenBlacklist ↔
      jti ∈ state.tokenBlacklist ∨
        ∃ claims, bearerClaims env.now authorization = some claims ∧ claims.jti = jti := by
  unfold logout
  cases hclaims : bearerClaims env.now authorization with
  | none =>
    change jti ∈ state.tokenBlacklist ↔ _
    simp
  | some claims =>
    change jti ∈ claims.jti :: state.tokenBlacklist ↔ _
    rw [List.mem_cons, or_comm]
    simp [eq_comm]

theorem loggedOut_cons [Jwt] {jti : Str} {event : Event} {rest : List Event} :
    LoggedOut jti (event :: rest) ↔ LoggedOut jti rest ∨ .restart ∉ rest ∧
      ∃ env authorization claims, event = .logout env authorization ∧
        bearerClaims env.now authorization = some claims ∧ claims.jti = jti := by
  constructor
  · rintro (⟨hclaims, hjti, hrest⟩ | hrest)
    · exact Or.inr ⟨hrest, _, _, _, rfl, hclaims, hjti⟩
    · exact Or.inl hrest
  · rintro (hrest | ⟨hrest, env, authorization, claims, rfl, hclaims, hjti⟩)
    · exact .later hrest
    · exact .first hclaims hjti hrest

theorem not_loggedOut_nil [Jwt] {jti : Str} : ¬ LoggedOut jti [] := fun hout => by cases hout

theorem mem_tokenBlacklist_run [Jwt] (state : AppState) (events : List Event) (jti : Str) :
    jti ∈ (Machine.run step state events).tokenBlacklist ↔
      jti ∈ state.tokenBlacklist ∧ .restart ∉ events ∨ LoggedOut jti events := by
  -- the list at the start counts only as long as there is no restart
  induction events generalizing state with
  | nil => simp [Machine.run, not_loggedOut_nil]
  | cons event rest ih =>
    have hrest := ih (step state event).1
    rw [loggedOut_cons]
    change jti ∈ (Machine.run step (step state event).1 rest).tokenBlacklist ↔ _
    rw [hrest]
    cases event with
    | logout env authorization =>
      simp only [step, mem_tokenBlacklist_logout, List.mem_cons, reduceCtorEq, false_or,
        Event.logout.injEq]
      constructor
      · rintro (⟨hlisted | ⟨claims, hclaims, hjti⟩, hnone⟩ | hout)
        · exact Or.inl ⟨hlisted, hnone⟩
        · exact Or.inr (Or.inr ⟨hnone, env, authorization, claims, ⟨rfl, rfl⟩, hclaims, hjti⟩)
        · exact Or.inr (Or.inl hout)
      · rintro (⟨hlisted, hnone⟩ | hout | ⟨hnone, _, _, claims, ⟨rfl, rfl⟩, hclaims, hjti⟩)
        · exact Or.inl ⟨Or.inl hlisted, hnone⟩
        · exact Or.inr hout
        · exact Or.inl ⟨Or.inr ⟨claims, hclaims, hjti⟩, hnone⟩
    | other change hchange => simp [step, hchange]
    | restart => simp [step]

end Runs

section Issued

variable [JsonWebToken] {config : AuthConfig} {now : ℕ} {jti username password : Str}
  {user : User} {response : LoginResponse}

theorem encode_of_issueToken
    (hissued : issueToken config now jti username password user = some response) :
    JsonWebToken.encode config.jwtSecret
        (newClaims now jti user.id username user.role (min config.jwtExpiryHours 168)) =
          some response.token ∧ response.expiresIn = config.jwtExpiryHours * 3600 := by
  obtain ⟨token, htoken, rfl⟩ := Option.map_eq_some_iff.mp hissued
  exact ⟨htoken, rfl⟩

/-- **How long a token is good.**  If the server can read its own tokens, one that it has issued
is accepted, after any run from its start, until it runs out, unless it was logged out since the
last restart. -/
theorem accepted_iff [Unicode] [RegexCrate] (timestamp : Str → ℕ)
    (hissued : issueToken config now jti username password user = some response)
    (hread : ∀ claims, JsonWebToken.encode config.jwtSecret claims = some response.token →
      JsonWebToken.decode config.jwtSecret response.token = some claims)
    (state : AppState) (hstart : state.tokenBlacklist = []) (events : List Event) (env : Env) :
    let _ := jwt timestamp config.jwtSecret
    (acceptedClaims env (some (str "Bearer " ++ response.token))
        (Machine.run step state events)).isSome = true ↔
      timestamp env.now ≤ now + min config.jwtExpiryHours 168 * 3600 + JsonWebToken.leeway ∧
        ¬ LoggedOut jti events := by
  intro _
  have hdecode := hread _ (encode_of_issueToken hissued).1
  have hlisted := mem_tokenBlacklist_run state events jti
  rw [hstart] at hlisted
  have hstrip : stripPrefix (str "Bearer ") (str "Bearer " ++ response.token) =
      some response.token := stripPrefix_eq_some.mpr rfl
  have hbearer : bearerClaims env.now (some (str "Bearer " ++ response.token)) =
      verify (timestamp env.now) config.jwtSecret response.token := by
    simp only [bearerClaims, Option.bind_some, hstrip]
    rfl
  have hout : jti ∉ (Machine.run step state events).tokenBlacklist ↔ ¬ LoggedOut jti events := by
    simp [hlisted]
  rw [acceptedClaims, hbearer, verify, hdecode, Option.filter_filter, Option.filter_some, ← hout]
  simp only [newClaims, Option.isSome_ite, Bool.and_eq_true, Bool.not_eq_true',
    List.contains_eq_mem, decide_eq_false_iff_not]
  exact and_congr_left fun _ => decide_eq_true_iff

end Issued

section Example

attribute [local instance] Unicode.ascii RegexCrate.fragment

def knownClaims : Claims := newClaims 0 (str "j") (str "u") (str "ann") (str "admin") 168

@[reducible] def oneToken : JsonWebToken where
  encode _ claims := if claims = knownClaims then some (str "token") else none
  decode _ token := if token = str "token" then some knownClaims else none
  leeway := 60

attribute [local instance] oneToken

def tenDays : AuthConfig := ⟨str "secret", 240, false⟩

def ann : User := ⟨str "u", str "ann", [], str "admin", true, [], []⟩

def annOnly : Database := { Database.empty with users := ⟨[ann], List.nodup_singleton _⟩ }

theorem oneToken_read (claims : Claims)
    (hencode : JsonWebToken.encode (str "secret") claims = some (str "token")) :
    JsonWebToken.decode (str "secret") (str "token") = some claims := by
  by_cases hclaims : claims = knownClaims
  · rw [hclaims]
    rfl
  · exact absurd (hencode.symm.trans (if_neg hclaims)) (by simp)

theorem oneToken_issued :
    issueToken tenDays 0 (str "j") (str "ann") (str "admin") ann =
      some ⟨str "token", 864000, str "admin", true⟩ := rfl

def atOnce : Env := ⟨[], fun _ => [], [], fun _ => false, [], fun _ => false, .inPlace⟩

@[reducible] def anyPassword : PasswordHash := ⟨fun _ _ => true, fun _ password => .ok password⟩

attribute [local instance] anyPassword

/-- The user logs out, changes the password, and the server is restarted. -/
def logoutAndRestart : List Event :=
  [.logout atOnce (some (str "Bearer token")),
    .changePassword atOnce knownClaims ⟨str "admin", str "long enough"⟩, .restart]

/-- After a restart a token that was logged out is good again, with the old password's login. -/
theorem accepted_iff_logoutAndRestart :
    let _ := jwt (fun _ => 0) (str "secret")
    (acceptedClaims atOnce (some (str "Bearer token"))
      (Machine.run step ⟨annOnly, ⟨.new, .empty⟩, [], [], []⟩ logoutAndRestart)).isSome = true := by
  refine (accepted_iff (fun _ => 0) oneToken_issued oneToken_read _ rfl _ _).mpr ⟨Nat.zero_le _, ?_⟩
  simp [logoutAndRestart, Event.changePassword, loggedOut_cons, not_loggedOut_nil]

end Example

end RustDns.Api.Sessions
