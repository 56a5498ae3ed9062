import RustDns.Api.Auth

/-!
# The rewrites

The handlers of `handlers/rewrites.rs` that write.  A domain has at most one
rewrite: a unique index makes the statement fail, and the handlers report any
such failure as a duplicate domain.
-/

namespace RustDns.Api.Rewrites

open Text Program

variable [Unicode] [RegexCrate] [SerdeJson]

def duplicate (domain : Str) : AppError :=
  .validation (str "Domain '" ++ domain ++ str "' already has a rewrite rule")

def isTaken (table : Table DnsRewrite.id) (id domain : Str) : Bool :=
  table.rows.any fun row => row.domain = domain && row.id != id

/-- `INSERT INTO dns_rewrites`. -/
def insertRow (row : DnsRewrite) : ApiM Unit := do
  let table := (← get).db.dnsRewrites
  if isTaken table row.id row.domain then throw (duplicate row.domain)
  else match table.insert row with
    | none => throw (duplicate row.domain)
    | some table => modifyDb fun db => { db with dnsRewrites := table }

def create (env : Env) (auth : Claims) (bodyDomain bodyAnswer : Str) : ApiM DnsRewrite := do
  let domain := toLowercase (trim bodyDomain)
  let answer := trim bodyAnswer
  if domain = [] then throw (.validation (str "Domain cannot be empty"))
  else if answer = [] then throw (.validation (str "Answer (target IP) cannot be empty"))
  else if (IpAddr.parse answer).isNone then
    throw (.validation (str "Invalid IP address format"))
  else
    let row : DnsRewrite :=
      { id := env.newId 0, domain, answer, createdBy := auth.username, createdAt := env.now }
    insertRow row
    reloadFilter env
    return row

/-- `rewrites::update`.  A new answer is not trimmed, and a new domain may be
empty. -/
def update (env : Env) (id : Str) (bodyDomain bodyAnswer : Option Str) : ApiM DnsRewrite := do
  match (← get).db.dnsRewrites.find? id with
  | none => throw (.notFound (str "Rewrite rule " ++ id ++ str " not found"))
  | some existing =>
    let domain := (bodyDomain.map fun domain => toLowercase (trim domain)).getD existing.domain
    let answer := bodyAnswer.getD existing.answer
    if (IpAddr.parse answer).isNone then
      throw (.validation (str "Invalid IP address format"))
    else if isTaken (← get).db.dnsRewrites id domain then throw (duplicate domain)
    else
      modifyDb fun db => { db with
        dnsRewrites := (db.dnsRewrites.updateWhere (·.id = id)
          (fun row => { row with domain, answer }) fun _ => rfl).reorder env.rewriteOrder }
      reloadFilter env
      return { existing with domain, answer }

def delete (env : Env) (id : Str) : ApiM Unit := do
  let affected := (← get).db.dnsRewrites.rowsAffected (·.id = id)
  modifyDb fun db => { db with dnsRewrites := db.dnsRewrites.deleteWhere (·.id = id) }
  if affected = 0 then throw (.notFound (str "Rewrite rule " ++ id ++ str " not found"))
  else reloadFilter env

/-! ## What the handlers write -/

section Writes

variable (env : Env) (state : AppState)

theorem create_writes (auth : Claims) (bodyDomain bodyAnswer : Str) :
    Writes state.withRewrites
      (fun table => ∃ row : DnsRewrite, row.id = env.newId 0 ∧
        state.db.dnsRewrites.insert row = some table)
      state ((create env auth bodyDomain bodyAnswer).exec state) := by
  unfold create insertRow
  dsimp only
  split_ifs
  · exact .refl
  · exact .refl
  · exact .refl
  · rw [bind_assoc, exec_get_bind]
    split_ifs
    · exact .refl
    · split
      · exact .refl
      · rename_i table hinsert
        exact writes_modifyDb_bind table ⟨_, rfl, hinsert⟩ ⟨rfl, rfl⟩
          (respects_bind (reloadFilter_untouched env) fun _ => respects_pure _)

theorem update_writes (id : Str) (bodyDomain bodyAnswer : Option Str) :
    Writes state.withRewrites
      (fun table => ∃ domain answer, table = (state.db.dnsRewrites.updateWhere (·.id = id)
        (fun row => { row with domain, answer }) fun _ => rfl).reorder env.rewriteOrder)
      state ((update env id bodyDomain bodyAnswer).exec state) := by
  unfold update
  rw [exec_get_bind]
  split
  · exact .refl
  · dsimp only
    split_ifs
    · exact .refl
    · rw [exec_get_bind]
      split_ifs
      · exact .refl
      · exact writes_modifyDb_bind _ ⟨_, _, rfl⟩ ⟨rfl, rfl⟩
          (respects_bind (reloadFilter_untouched env) fun _ => respects_pure _)

theorem delete_writes (id : Str) :
    Writes state.withRewrites (· = state.db.dnsRewrites.deleteWhere (·.id = id)) state
      ((delete env id).exec state) := by
  unfold delete
  rw [exec_get_bind]
  exact writes_modifyDb_bind _ rfl ⟨rfl, rfl⟩ (respects_guard _ (reloadFilter_untouched env))

end Writes

end RustDns.Api.Rewrites
