import RustDns.Dns.Upstream

/-!
# Caches

A `moka` cache is a partial map from strings.  It forgets entries on its own,
because they expire or because it is full, so that an entry that was inserted may
be missing later; `discard` stands for all of that, and for the explicit
invalidation of entries.

`dns/cache.rs` keeps responses under the lower-case name and the type of the
question.  The model's entries also record where a response came from.  No
function reads that field; it is there to say of an answer from the cache who
produced it.
-/

namespace RustDns

/-- `moka::future::Cache<String, Value>`. -/
structure MokaCache (Value : Type) where
  entries : Str → Option Value

namespace MokaCache

variable {Value : Type}

def empty : MokaCache Value := ⟨fun _ => none⟩

def get (cache : MokaCache Value) (key : Str) : Option Value := cache.entries key

def insert (cache : MokaCache Value) (key : Str) (value : Value) : MokaCache Value :=
  ⟨fun other => if other = key then some value else cache.entries other⟩

def discard (cache : MokaCache Value) (gone : Str → Bool) : MokaCache Value :=
  ⟨fun key => if gone key then none else cache.entries key⟩

theorem entries_insert (cache : MokaCache Value) (key : Str) (value : Value) :
    (cache.insert key value).entries = Function.update cache.entries key (some value) := by
  funext other
  simp only [insert, Function.update_apply]

def Forall (cache : MokaCache Value) (property : Str → Value → Prop) : Prop :=
  ∀ key value, cache.get key = some value → property key value

theorem forall_empty (property : Str → Value → Prop) : empty.Forall property := by
  intro key value hvalue
  cases hvalue

variable {cache : MokaCache Value} {property : Str → Value → Prop}

theorem Forall.insert (h : cache.Forall property) {key : Str} {value : Value}
    (hnew : property key value) : (cache.insert key value).Forall property := by
  intro other found hfound
  unfold MokaCache.insert get at hfound
  dsimp only at hfound
  split_ifs at hfound with hkey
  · subst hkey
    cases hfound
    exact hnew
  · exact h other found hfound

theorem Forall.discard (h : cache.Forall property) (gone : Str → Bool) :
    (cache.discard gone).Forall property := by
  intro key value hvalue
  unfold MokaCache.discard get at hvalue
  dsimp only at hvalue
  split_ifs at hvalue
  exact h key value hvalue

end MokaCache

/-! ## Responses -/

inductive Producer where
  /-- A resolver for the upstreams of a client. -/
  | client (resolver : DnsResolver)
  /-- A node of the global pool. -/
  | pool (node : UpstreamNode)
deriving DecidableEq

structure Origin where
  producer : Producer
  outcome : LookupOutcome
deriving DecidableEq

/-- `CacheEntry`, with the origin of the response. -/
structure CacheEntry where
  data : Bytes
  ttl : ℕ
  origin : Origin
deriving DecidableEq

namespace DnsCache

def ttlMinSecs : ℕ := 5

def ttlMaxSecs : ℕ := 86400

def ttlDefaultSecs : ℕ := 300

/-- The lifetime that `set_with_ttl` gives a response, in seconds. -/
def ttlSecs (minTtl : Option UInt32) : ℕ :=
  max ttlMinSecs (min ttlMaxSecs ((minTtl.map UInt32.toNat).getD ttlDefaultSecs))

variable [Unicode]

def cacheKey (domain : Str) (qtype : RecordType) : Str :=
  toLowercase domain ++ str ":" ++ qtype.debug

/-- `DnsCache::get`; the caller takes the data of the entry. -/
def get (cache : MokaCache CacheEntry) (domain : Str) (qtype : RecordType) : Option CacheEntry :=
  MokaCache.get cache (cacheKey domain qtype)

def setWithTtl (cache : MokaCache CacheEntry) (domain : Str) (qtype : RecordType) (data : Bytes)
    (minTtl : Option UInt32) (origin : Origin) : MokaCache CacheEntry :=
  cache.insert (cacheKey domain qtype) ⟨data, ttlSecs minTtl, origin⟩

end DnsCache

end RustDns
