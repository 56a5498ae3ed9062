import Mathlib

/-!
# Caches whose entries expire

A cache keeps with every value when it was stored and when it expires.  An
expired entry is not found, and an entry may be gone before that.

What an insertion does to the expiration depends on whether it creates an entry
or replaces one: only a new entry gets the lifetime of its value, a replaced one
keeps the expiration it had.  So a value can be found longer than its own
lifetime says, namely when it replaced a value with a longer one.  `Timely`
entries are those that cannot, and an insertion that finds no live entry with a
later expiration keeps a cache timely (`Timely.insert`).
-/

structure Stamped (Value : Type*) where
  value : Value
  storedAt : ℕ
  expiresAt : ℕ
deriving DecidableEq

/-- A partial map whose entries expire. -/
structure ExpiringCache (Key Value : Type*) where
  entries : Key → Option (Stamped Value)

namespace ExpiringCache

variable {Key Value : Type*}

def empty : ExpiringCache Key Value := ⟨fun _ => none⟩

def find (cache : ExpiringCache Key Value) (now : ℕ) (key : Key) : Option (Stamped Value) :=
  (cache.entries key).filter (now < ·.expiresAt)

def get (cache : ExpiringCache Key Value) (now : ℕ) (key : Key) : Option Value :=
  (cache.find now key).map Stamped.value

/-- When a value that is stored now expires: with the entry that it replaces, or
else after its own lifetime. -/
def expiration (cache : ExpiringCache Key Value) (now lifetime : ℕ) (key : Key) : ℕ :=
  match cache.find now key with
  | some old => old.expiresAt
  | none => now + lifetime

def insert [DecidableEq Key] (cache : ExpiringCache Key Value) (now lifetime : ℕ) (key : Key)
    (value : Value) : ExpiringCache Key Value where
  entries other :=
    if other = key then some ⟨value, now, cache.expiration now lifetime key⟩
    else cache.entries other

def discard (cache : ExpiringCache Key Value) (gone : Key → Bool) : ExpiringCache Key Value :=
  ⟨fun key => if gone key then none else cache.entries key⟩

variable {now : ℕ} {key : Key}

variable {entry : Stamped Value} {value : Value}

theorem find_eq_some {cache : ExpiringCache Key Value} :
    cache.find now key = some entry ↔ cache.entries key = some entry ∧ now < entry.expiresAt := by
  simp [find, Option.filter_eq_some_iff]

theorem get_eq_some {cache : ExpiringCache Key Value} :
    cache.get now key = some value ↔ ∃ entry, cache.find now key = some entry ∧
      entry.value = value := by
  simp [get, Option.map_eq_some_iff]

theorem get_insert_of_get_eq_none [DecidableEq Key] {cache : ExpiringCache Key Value} {lifetime : ℕ}
    (hfree : cache.get now key = none) (hlifetime : 0 < lifetime) (value : Value) (other : Key) :
    (cache.insert now lifetime key value).get now other =
      if other = key then some value else cache.get now other := by
  have hnone : cache.find now key = none := by simpa [get] using hfree
  by_cases hother : other = key
  · subst hother
    have hexpires : cache.expiration now lifetime other = now + lifetime := by
      simp [expiration, hnone]
    simp [get, find, insert, hexpires, hlifetime]
  · simp [get, find, insert, hother]

/-! ## Properties of all entries -/

def Forall (cache : ExpiringCache Key Value) (property : Key → Stamped Value → Prop) : Prop :=
  ∀ key entry, cache.entries key = some entry → property key entry

variable {cache : ExpiringCache Key Value} {property : Key → Stamped Value → Prop}

theorem forall_empty (property : Key → Stamped Value → Prop) :
    (empty : ExpiringCache Key Value).Forall property := by
  intro key entry hentry
  cases hentry

theorem Forall.find (h : cache.Forall property) (hfind : cache.find now key = some entry) :
    property key entry :=
  h key entry (find_eq_some.mp hfind).1

theorem Forall.insert [DecidableEq Key] (h : cache.Forall property) {lifetime : ℕ}
    (hnew : property key ⟨value, now, cache.expiration now lifetime key⟩) :
    (cache.insert now lifetime key value).Forall property := by
  intro other entry hentry
  unfold ExpiringCache.insert at hentry
  dsimp only at hentry
  split_ifs at hentry with hkey
  · subst hkey
    cases hentry
    exact hnew
  · exact h other entry hentry

theorem Forall.discard (h : cache.Forall property) (gone : Key → Bool) :
    (cache.discard gone).Forall property := by
  intro key entry hentry
  unfold ExpiringCache.discard at hentry
  dsimp only at hentry
  split_ifs at hentry
  exact h key entry hentry

/-! ## Lifetimes -/

def Timely (lifetime : Value → ℕ) (cache : ExpiringCache Key Value) : Prop :=
  cache.Forall fun _ entry => entry.expiresAt ≤ entry.storedAt + lifetime entry.value

variable {lifetime : Value → ℕ}

theorem Timely.find (h : cache.Timely lifetime) (hfind : cache.find now key = some entry) :
    now < entry.storedAt + lifetime entry.value :=
  (find_eq_some.mp hfind).2.trans_le (Forall.find h hfind)

/-- An insertion keeps a cache timely if no live entry of the key outlasts the new
value. -/
theorem Timely.insert [DecidableEq Key] (h : cache.Timely lifetime)
    (hlive : ∀ old, cache.find now key = some old → old.expiresAt ≤ now + lifetime value) :
    (cache.insert now (lifetime value) key value).Timely lifetime := by
  refine Forall.insert h ?_
  unfold expiration
  cases hfind : cache.find now key with
  | some old => exact hlive old hfind
  | none => exact le_rfl

end ExpiringCache
