import RustDns.RowOrder
import RustDns.Dns.ClientConfig

/-!
# The order of the clients

`resolve_client_config` takes the first row of `clients` that matches an address, and its query
has no `ORDER BY`: the database may return the rows in any order.  An address can match several
rows, by itself and by the networks it belongs to.  Then the order decides which policy it gets.

`resolveClientConfig_forall_perm_iff` says when it does not matter: all rows that match the address
come with the same policy.
-/

namespace RustDns

section Order

variable [Unicode] [RegexCrate] [SerdeJson]

/-- The policy that a row of `clients` comes with, as it is read: its columns, and the rules and
rewrites of its groups. -/
def rowConfig (fails : ClientQuery → Bool) (db : Database) (client : Client) : ClientConfig where
  filterEnabled := client.filterEnabled.decodeI32 == some 1
  upstreamUrls := client.upstreamUrls
  groupRuleset := loadGroupRulesForClient fails db client.id
  groupRewrites := loadGroupRewritesForClient fails db client.id

def Database.ClientsDecode (db : Database) : Prop :=
  ∀ client ∈ db.clients.rows, client.filterEnabled.decodeI32.isSome = true

variable {fails : ClientQuery → Bool} {db : Database}

omit [Unicode] [RegexCrate] [SerdeJson] in
theorem fetchClients_eq (hdecode : db.ClientsDecode) (hfails : fails .clients = false) :
    fetchClients fails db =
      some (db.clients.rows.map fun client => (client, client.filterEnabled.decodeI32.getD 0)) := by
  unfold fetchClients
  rw [hfails, if_neg Bool.false_ne_true]
  unfold Database.ClientsDecode at hdecode
  revert hdecode
  induction db.clients.rows with
  | nil => exact fun _ => rfl
  | cons client rest ih =>
    intro hdecode
    obtain ⟨hclient, hrest⟩ := List.forall_mem_cons.mp hdecode
    obtain ⟨value, hvalue⟩ := Option.isSome_iff_exists.mp hclient
    rw [List.mapM_cons, ih hrest, hvalue]
    simp [hvalue]

variable [IpNetCrate]

theorem resolveClientConfig_eq (hdecode : db.ClientsDecode) (hfails : fails .clients = false)
    (clientIp : Str) :
    resolveClientConfig fails db clientIp =
      ((db.clients.rows.find? (·.isMatch clientIp)).map (rowConfig fails db)).getD .default := by
  unfold resolveClientConfig
  rw [fetchClients_eq hdecode hfails]
  dsimp only
  rw [List.find?_map]
  cases hfind : db.clients.rows.find? (·.isMatch clientIp) with
  | none =>
    have hnone : db.clients.rows.find? ((fun row : Client × ℤ => row.1.isMatch clientIp) ∘
        fun client => (client, client.filterEnabled.decodeI32.getD 0)) = none := hfind
    rw [hnone]
    rfl
  | some client =>
    have hsome : db.clients.rows.find? ((fun row : Client × ℤ => row.1.isMatch clientIp) ∘
        fun client => (client, client.filterEnabled.decodeI32.getD 0)) = some client := hfind
    obtain ⟨value, hvalue⟩ :=
      Option.isSome_iff_exists.mp (hdecode client (List.mem_of_find?_eq_some hfind))
    rw [hsome]
    simp [rowConfig, hvalue]

/-- **When the order of the clients does not matter.**  If the rows can be read and decoded, an
address gets the same policy in every order of the rows if and only if all rows that match it come
with the same policy. -/
theorem resolveClientConfig_forall_perm_iff (fails : ClientQuery → Bool) (db : Database)
    (hdecode : db.ClientsDecode) (clientIp : Str) :
    (∀ clients : Table Client.id, clients.rows.Perm db.clients.rows →
        resolveClientConfig fails { db with clients } clientIp =
          resolveClientConfig fails db clientIp) ↔
      fails .clients = true ∨
        ∀ client ∈ db.clients, ∀ other ∈ db.clients, client.isMatch clientIp = true →
          other.isMatch clientIp = true → rowConfig fails db client = rowConfig fails db other := by
  cases hfails : fails .clients with
  | true =>
    have hdefault : ∀ db, resolveClientConfig fails db clientIp = .default := by
      intro db
      simp [resolveClientConfig, fetchClients, hfails]
    simp [hdefault]
  | false =>
    have hpermuted : ∀ clients : Table Client.id, clients.rows.Perm db.clients.rows →
        resolveClientConfig fails { db with clients } clientIp =
          ((clients.rows.find? (·.isMatch clientIp)).map (rowConfig fails db)).getD .default :=
      fun clients hperm => resolveClientConfig_eq
        (fun client hclient => hdecode client (hperm.mem_iff.mp hclient)) hfails clientIp
    rw [or_iff_right Bool.false_ne_true, resolveClientConfig_eq hdecode hfails]
    refine Iff.trans ?_ (List.forall_perm_find?_iff (d := .default))
    constructor
    · intro hsame rows hperm
      have hnodup : (rows.map Client.id).Nodup :=
        (hperm.map Client.id).nodup_iff.mpr db.clients.nodup
      exact (hpermuted ⟨rows, hnodup⟩ hperm).symm.trans (hsame ⟨rows, hnodup⟩ hperm)
    · intro hsame clients hperm
      rw [hpermuted clients hperm]
      exact hsame clients.rows hperm

end Order

/-! ### A device within a network -/

section Example

attribute [local instance] Unicode.ascii RegexCrate.fragment SerdeJson.plain IpNetCrate.cidr

def networkClient : Client :=
  ⟨str "c1", str "Home", str "[\"192.168.1.0/24\"]", none, .int4 1, none, str "2026-01-01",
    str "2026-01-01"⟩

def deviceClient : Client :=
  ⟨str "c2", str "TV", str "[\"192.168.1.10\"]", none, .int4 0, none, str "2026-01-01",
    str "2026-01-01"⟩

def networkFirst : Table Client.id := ⟨[networkClient, deviceClient], by decide⟩

def deviceFirst : Table Client.id := ⟨[deviceClient, networkClient], by decide⟩

/-- The device is filtered or not, as the rows come. -/
theorem resolveClientConfig_networkFirst_ne :
    let db := { Database.empty with clients := networkFirst }
    db.ClientsDecode ∧ deviceFirst.rows.Perm db.clients.rows ∧
      (resolveClientConfig (fun _ => false) db (str "192.168.1.10")).filterEnabled = true ∧
      (resolveClientConfig (fun _ => false) { db with clients := deviceFirst }
        (str "192.168.1.10")).filterEnabled = false := by
  refine ⟨?_, List.Perm.swap _ _ _, by decide +kernel, by decide +kernel⟩
  rintro client (_ | ⟨_, _ | ⟨_, ⟨⟩⟩⟩) <;> rfl

/-- Another device of the network matches one row only. -/
theorem resolveClientConfig_forall_perm_networkFirst :
    networkClient.isMatch (str "192.168.1.20") = true ∧
      ∀ clients : Table Client.id, clients.rows.Perm networkFirst.rows →
        resolveClientConfig (fun _ => false) { Database.empty with clients } (str "192.168.1.20") =
          resolveClientConfig (fun _ => false) { Database.empty with clients := networkFirst }
            (str "192.168.1.20") := by
  refine ⟨by decide +kernel, (resolveClientConfig_forall_perm_iff (fun _ => false)
    { Database.empty with clients := networkFirst } ?_ (str "192.168.1.20")).mpr
    (Or.inr fun client hclient other hother hmatch hmatch' => ?_)⟩
  · rintro client (_ | ⟨_, _ | ⟨_, ⟨⟩⟩⟩) <;> rfl
  · have honly : ∀ client ∈ networkFirst.rows, client.isMatch (str "192.168.1.20") = true →
        client = networkClient := by decide +kernel
    rw [honly client hclient hmatch, honly other hother hmatch']

end Example

end RustDns
