import RustDns.Db.Schema
import RustDns.Db.Table

/-!
# The database

The tables that the request path and the management interface read and write,
with the columns of the migrated schema.  A `TEXT` column is a string, a
`BOOLEAN` a `Bool`, a nullable column an `Option`; ids and timestamps are text,
except for the serial ids of the groups.

The one column that is decoded into a type it does not have keeps its type in
its value: `clients.filter_enabled` is a `PgValue`, and `Database.WellTyped` says
that it has the type of the schema.
-/

namespace RustDns

open Schema

inductive PgValue where
  | int4 (value : ℤ)
  | bool (value : Bool)
deriving DecidableEq

namespace PgValue

def type : PgValue → ColumnType
  | int4 _ => .integer
  | bool _ => .boolean

/-- Decoding into an `i32`. -/
def decodeI32 : PgValue → Option ℤ
  | int4 value => some value
  | bool _ => none

def truth : PgValue → Bool
  | int4 value => value == 1
  | bool value => value

end PgValue

/-! ## Rows -/

/-- A row of `users`. -/
structure User where
  id : Str
  username : Str
  password : Str
  role : Str
  isActive : Bool
  createdAt : Str
  updatedAt : Str
deriving DecidableEq

/-- A row of `filter_lists`. -/
structure FilterList where
  id : Str
  name : Str
  url : Option Str
  isEnabled : Bool
  ruleCount : ℤ
  lastUpdated : Option Str
  createdAt : Str
  updateIntervalHours : ℤ
deriving DecidableEq

/-- A row of `custom_rules`. -/
structure CustomRule where
  id : Str
  rule : Str
  comment : Option Str
  isEnabled : Bool
  createdBy : Str
  createdAt : Str
  expiresAt : Option Str
deriving DecidableEq

/-- A row of `dns_rewrites`. -/
structure DnsRewrite where
  id : Str
  domain : Str
  answer : Str
  createdBy : Str
  createdAt : Str
deriving DecidableEq

/-- A row of `clients`. -/
structure Client where
  id : Str
  name : Str
  identifiers : Str
  upstreams : Option Str
  filterEnabled : PgValue
  tags : Option Str
  createdAt : Str
  updatedAt : Str
deriving DecidableEq

/-- A row of `client_groups`. -/
structure ClientGroup where
  id : ℤ
  name : Str
  color : Str
  description : Option Str
  priority : ℤ
  createdAt : Str
  updatedAt : Str
deriving DecidableEq

/-- A row of `client_group_memberships`. -/
structure GroupMembership where
  clientId : Str
  groupId : ℤ
  createdAt : Str
deriving DecidableEq

/-- A row of `client_group_rules`: a rule or rewrite bound to a group. -/
structure GroupRule where
  groupId : ℤ
  ruleId : Str
  ruleType : Str
  priority : ℤ
  createdAt : Str
deriving DecidableEq

/-- A row of `settings`. -/
structure Setting where
  key : Str
  value : Str
deriving DecidableEq

/-- A row of `dns_upstreams`, without its two timestamps of the last check and
failover. -/
structure DnsUpstream where
  id : Str
  name : Str
  addresses : Str
  priority : ℤ
  isActive : Bool
  healthCheckEnabled : Bool
  failoverEnabled : Bool
  healthCheckInterval : ℤ
  healthCheckTimeout : ℤ
  failoverThreshold : ℤ
  healthStatus : Str
deriving DecidableEq

/-- A row of `parental_control_categories`. -/
structure ParentalControlCategory where
  id : Str
  level : Str
  domains : Str
deriving DecidableEq

/-! ## Tables -/

structure Database where
  users : Table User.id
  filterLists : Table FilterList.id
  customRules : Table CustomRule.id
  dnsRewrites : Table DnsRewrite.id
  clients : Table Client.id
  clientGroups : Table ClientGroup.id
  clientGroupMemberships : Table fun row : GroupMembership => (row.clientId, row.groupId)
  clientGroupRules : Table fun row : GroupRule => (row.groupId, row.ruleId, row.ruleType)
  settings : Table Setting.key
  dnsUpstreams : Table DnsUpstream.id
  parentalControlCategories : Table ParentalControlCategory.id

namespace Database

def empty : Database :=
  ⟨.empty, .empty, .empty, .empty, .empty, .empty, .empty, .empty, .empty, .empty, .empty⟩

def WellTyped (db : Database) : Prop :=
  ∀ client ∈ db.clients,
    columnType migrated "clients" "filter_enabled" = some client.filterEnabled.type

/-- `SELECT value FROM settings WHERE key = …`. -/
def setting (db : Database) (key : Str) : Option Str :=
  (db.settings.rows.find? (·.key == key)).map Setting.value

theorem WellTyped.decodeI32_eq_none {db : Database} (hschema : db.WellTyped) {client : Client}
    (hclient : client ∈ db.clients) : client.filterEnabled.decodeI32 = none := by
  have htype := hschema client hclient
  rw [columnType_filter_enabled] at htype
  cases hvalue : client.filterEnabled with
  | int4 value => simp [hvalue, PgValue.type] at htype
  | bool value => rfl

end Database

end RustDns
