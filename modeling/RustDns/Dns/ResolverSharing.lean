import RustDns.Memo
import RustDns.Dns.Handler

/-!
# Resolvers that clients share

`get_or_create_client_resolver` keeps the resolvers of clients with upstreams of their own in a
cache.  The key is the list of upstreams, sorted and joined with commas, so that lists with the same
entries in another order share a resolver.  A comma in an entry is not told from one between two
entries: the list with the one entry `1.1.1.1,8.8.8.8` has the key of the list of those two
addresses, and an empty list that of a list with an empty entry.

For lists that are not empty and have no comma in an entry the key determines the entries
(`perm_of_resolverKey_eq`, `resolvers_shared`).
-/

namespace RustDns

open Text

/-- A call of `get_or_create_client_resolver`, or the cache drops some resolvers. -/
abbrev ResolverEvent := Memo.Event (List Str) Str

def resolverStep (settings : HandlerSettings) (state : HandlerState) :
    ResolverEvent → HandlerState × Option DnsResolver
  | .call upstreams =>
    let (resolver, state) := getOrCreateClientResolver settings state upstreams
    (state, some resolver)
  | .discard gone => ({ state with clientResolvers := state.clientResolvers.discard gone }, none)

/-! ## The key -/

def IsPlain (upstreams : List Str) : Prop := upstreams ≠ [] ∧ ∀ entry ∈ upstreams, ',' ∉ entry

theorem perm_of_resolverKey_eq {first second : List Str} (hfirst : IsPlain first)
    (hsecond : IsPlain second) (hkey : resolverKey first = resolverKey second) :
    first.Perm second := by
  have hsplit : ∀ {upstreams : List Str}, IsPlain upstreams →
      (resolverKey upstreams).splitOn ',' = upstreams.insertionSort (· ≤ ·) := by
    intro upstreams hplain
    have hperm := List.perm_insertionSort (· ≤ ·) upstreams
    refine List.splitOn_intercalate ',' ?_ ?_
    · intro entry hentry
      exact hplain.2 entry (hperm.subset hentry)
    · intro hnil
      rw [hnil] at hperm
      exact hplain.1 hperm.symm.eq_nil
  have hsorted : first.insertionSort (· ≤ ·) = second.insertionSort (· ≤ ·) := by
    rw [← hsplit hfirst, ← hsplit hsecond, hkey]
  calc
    List.Perm first (first.insertionSort (· ≤ ·)) := (List.perm_insertionSort _ _).symm
    _ = second.insertionSort (· ≤ ·) := hsorted
    List.Perm _ second := List.perm_insertionSort _ _

/-! ## Runs -/

section Runs

variable {settings : HandlerSettings}

theorem getOrCreateClientResolver_eq_fetch (state : HandlerState) (upstreams : List Str) :
    let make := fun upstreams => DnsResolver.withUpstreams upstreams settings.preferIpv4
    let fetched := Memo.fetch resolverKey make state.clientResolvers.entries upstreams
    (getOrCreateClientResolver settings state upstreams).2.clientResolvers.entries = fetched.1 ∧
      (getOrCreateClientResolver settings state upstreams).1 = fetched.2 := by
  unfold getOrCreateClientResolver Memo.fetch MokaCache.get
  cases state.clientResolvers.entries (resolverKey upstreams) with
  | none => exact ⟨MokaCache.entries_insert _ _ _, rfl⟩
  | some resolver => exact ⟨rfl, rfl⟩

theorem entries_resolverStep (state : HandlerState) (event : ResolverEvent) :
    (resolverStep settings state event).1.clientResolvers.entries =
      (Memo.step resolverKey (DnsResolver.withUpstreams · settings.preferIpv4)
        state.clientResolvers.entries event).1 := by
  cases event with
  | call upstreams => exact (getOrCreateClientResolver_eq_fetch state upstreams).1
  | discard gone => rfl

theorem upstreams_perm_of_plain {events : List ResolverEvent}
    (hplain : ∀ upstreams, Memo.Event.call upstreams ∈ events → IsPlain upstreams)
    {state : HandlerState} {upstreams : List Str}
    (hpoint : (state, Memo.Event.call upstreams) ∈
      Machine.trace (resolverStep settings) .empty events) :
    (getOrCreateClientResolver settings state upstreams).1.upstreams.Perm upstreams := by
  have hupstreams := hplain upstreams (Machine.mem_of_mem_trace _ hpoint)
  obtain ⟨origin, horigin, hkey, hvalue⟩ := Memo.exists_call_of_mem_trace
    (Machine.image_mem_trace (fun state : HandlerState => state.clientResolvers.entries)
      entries_resolverStep hpoint)
  rw [(getOrCreateClientResolver_eq_fetch state upstreams).2, ← hvalue]
  exact perm_of_resolverKey_eq (hplain origin horigin) hupstreams hkey

/-- **Clients share a resolver only if their lists have the same entries.**  In every run in which
all lists are plain, a call gets a resolver for its own entries, and two calls get the same one only
if one list is a permutation of the other. -/
theorem resolvers_shared (settings : HandlerSettings) (events : List ResolverEvent)
    (hplain : ∀ upstreams, Memo.Event.call upstreams ∈ events → IsPlain upstreams)
    {before after : HandlerState} {first second : List Str}
    (hfirst : (before, Memo.Event.call first) ∈
      Machine.trace (resolverStep settings) .empty events)
    (hsecond : (after, Memo.Event.call second) ∈
      Machine.trace (resolverStep settings) .empty events) :
    (getOrCreateClientResolver settings before first).1.upstreams.Perm first ∧
      ((getOrCreateClientResolver settings before first).1 =
          (getOrCreateClientResolver settings after second).1 → second.Perm first) := by
  have hown := upstreams_perm_of_plain hplain hfirst
  have hother := upstreams_perm_of_plain hplain hsecond
  refine ⟨hown, ?_⟩
  intro hsame
  rw [← hsame] at hother
  exact hother.symm.trans hown

end Runs

/-- Two clients with the same servers. -/
theorem resolvers_shared_reversed :
    let settings : HandlerSettings := ⟨false, 300⟩
    let first := [str "9.9.9.9", str "1.1.1.1"]
    let second := [str "1.1.1.1", str "9.9.9.9"]
    let after := (resolverStep settings .empty (.call first)).1
    (getOrCreateClientResolver settings after second).1.upstreams = first ∧
      (getOrCreateClientResolver settings after second).1.upstreams.Perm second := by
  intro settings first second after
  refine ⟨by decide +kernel, ?_⟩
  have hplain : ∀ upstreams, Memo.Event.call upstreams ∈
      [(Memo.Event.call first : ResolverEvent), .call second] → IsPlain upstreams := by
    intro upstreams hmem
    simp only [List.mem_cons, List.not_mem_nil, or_false, Memo.Event.call.injEq] at hmem
    rcases hmem with rfl | rfl
    · exact ⟨List.cons_ne_nil _ _, by decide⟩
    · exact ⟨List.cons_ne_nil _ _, by decide⟩
  exact (resolvers_shared settings [.call first, .call second] hplain
    (List.mem_cons_of_mem _ List.mem_cons_self) List.mem_cons_self).1

/-- The resolver for two servers is the one that was built for an entry with a comma, which is not
the address of a server. -/
theorem shared_with_comma :
    let settings : HandlerSettings := ⟨false, 300⟩
    let first := [str "1.1.1.1,8.8.8.8"]
    let second := [str "1.1.1.1", str "8.8.8.8"]
    let events : List ResolverEvent := [.call first, .call second]
    let after := (resolverStep settings .empty (.call first)).1
    (.empty, .call first) ∈ Machine.trace (resolverStep settings) .empty events ∧
      (after, .call second) ∈ Machine.trace (resolverStep settings) .empty events ∧
      (getOrCreateClientResolver settings .empty first).1 =
        (getOrCreateClientResolver settings after second).1 ∧
      ¬ second.Perm first := by
  intro settings first second events after
  refine ⟨List.mem_cons_self, List.mem_cons_of_mem _ List.mem_cons_self, ?_, ?_⟩
  · decide +kernel
  · decide +kernel

end RustDns
