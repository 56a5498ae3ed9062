import RustDns.Dns.Handler
import RustDns.Net.HostNet

/-!
# What an access list means

`Acl::validate_cidrs` and `Acl::from_cidrs` parse the entries of a list separately.  Both leave out
the blank ones, so the networks of a list that validates are those that its other entries denote
(`any_networks_iff`), and the list of networks is empty if and only if all entries are blank
(`networks_eq_nil_iff`).

`isAllowed_fromCidrs_iff` is the meaning of the two lists together.  An allow list of blank entries
is an empty one: it lets everybody in.
-/

namespace RustDns

namespace Acl

open Text IpNetCrate

theorem cidr_eq_none_iff (entry : Str) : cidr entry = none ↔ trim entry = [] := by
  unfold cidr
  dsimp only
  split_ifs with hblank <;> simpa using hblank

section Meaning

variable [IpNetCrate]

/-- An entry denotes a network that contains the address: the network it is written as, or the
network of one host for a single address. -/
def Denotes [LawfulIpNetCrate] (entry : Str) (ip : IpAddr) : Prop :=
  if '/' ∈ trim entry then Names (trim entry) ip
  else LawfulIpNetCrate.parseAddr (trim entry) = some ip

/-- An address as `std::net` reads it denotes itself only. -/
theorem denotes_iff_of_parse [LawfulIpNetCrate] {entry : Str} {host : IpAddr}
    (hslash : '/' ∉ trim entry) (hparse : IpAddr.parse (trim entry) = some host) (ip : IpAddr) :
    Denotes entry ip ↔ host = ip := by
  rw [Denotes, if_neg hslash, LawfulIpNetCrate.parseAddr_of_parse hparse, Option.some_inj]

/-- The networks that `from_cidrs` takes from a list. -/
def networks (entries : List Str) : List IpNet :=
  entries.filterMap fun entry => (cidr entry).bind parse

theorem denotes_iff [LawfulIpNetCrate] (entry : Str) (ip : IpAddr) :
    Denotes entry ip ↔ ∃ text, cidr entry = some text ∧ Names text ip := by
  unfold Denotes cidr
  dsimp only
  by_cases hblank : trim entry = []
  · simp [hblank, LawfulIpNetCrate.parseAddr_nil]
  by_cases hslash : '/' ∈ trim entry
  · simp [hblank, hslash]
  by_cases hcolon : ':' ∈ trim entry
  · simp [hblank, hslash, hcolon, LawfulIpNetCrate.names_v6 hslash hcolon]
  · simp [hblank, hslash, hcolon, LawfulIpNetCrate.names_v4 hslash hcolon]

theorem any_networks_iff [LawfulIpNetCrate] (entries : List Str) (ip : IpAddr) :
    (networks entries).any (contains · ip) = true ↔ ∃ entry ∈ entries, Denotes entry ip := by
  unfold networks
  simp only [List.any_eq_true, List.mem_filterMap, Option.bind_eq_some_iff]
  constructor
  · rintro ⟨net, ⟨entry, hentry, text, htext, hnet⟩, hcontains⟩
    exact ⟨entry, hentry, (denotes_iff entry ip).mpr ⟨text, htext, net, hnet, hcontains⟩⟩
  · rintro ⟨entry, hentry, hdenotes⟩
    obtain ⟨text, htext, net, hnet, hcontains⟩ := (denotes_iff entry ip).mp hdenotes
    exact ⟨net, ⟨entry, hentry, text, htext, hnet⟩, hcontains⟩

theorem networks_eq_nil_iff {entries : List Str} (hvalid : validateCidrs entries = []) :
    networks entries = [] ↔ ∀ entry ∈ entries, trim entry = [] := by
  unfold networks
  rw [List.filterMap_eq_nil_iff]
  refine forall₂_congr fun entry hentry => ?_
  rw [← cidr_eq_none_iff]
  cases htext : cidr entry with
  | none => simp
  | some text =>
    have hparsed := List.filter_eq_nil_iff.mp hvalid entry hentry
    rw [htext] at hparsed
    simpa using hparsed

theorem isAllowed_iff (acl : Acl) (ip : IpAddr) :
    acl.isAllowed ip = true ↔ ¬ acl.denied.any (contains · ip) = true ∧
      (acl.allowed = [] ∨ acl.allowed.any (contains · ip) = true) := by
  obtain ⟨allowed, denied⟩ := acl
  unfold isAllowed
  dsimp only
  cases allowed with
  | nil => cases denied <;> simp
  | cons net rest => simp

/-- An address is let in if and only if no entry of the deny list denotes a network with it and
the allow list, blank entries apart, is empty or has an entry that denotes one.  Only the allow
list needs to validate: what is skipped from the deny list denotes nothing. -/
theorem isAllowed_fromCidrs_iff [LawfulIpNetCrate] {allowed denied : List Str}
    (hallowed : validateCidrs allowed = []) (ip : IpAddr) :
    (fromCidrs allowed denied).isAllowed ip = true ↔
      (∀ entry ∈ denied, ¬ Denotes entry ip) ∧
        ((∀ entry ∈ allowed, trim entry = []) ∨ ∃ entry ∈ allowed, Denotes entry ip) := by
  have hlists : fromCidrs allowed denied = ⟨networks allowed, networks denied⟩ := rfl
  rw [isAllowed_iff, hlists]
  dsimp only
  rw [any_networks_iff, any_networks_iff, networks_eq_nil_iff hallowed]
  push Not
  rfl

end Meaning

section Blank

attribute [local instance] IpNetCrate.cidr LawfulIpNetCrate.cidr

/-- One blank entry validates, names no network, and lets everybody in. -/
theorem isAllowed_fromCidrs_blank :
    validateCidrs [str " "] = [] ∧ (fromCidrs [str " "] []).isAllowed (.v4 203 0 113 9) = true ∧
      ∀ entry ∈ [str " "], ∀ ip, ¬ Denotes entry ip := by
  refine ⟨by decide, by decide, ?_⟩
  intro entry hentry ip hdenotes
  obtain rfl := List.mem_singleton.mp hentry
  have hslash : '/' ∉ trim (str " ") := by decide
  have hparse : IpAddr.parse (trim (str " ")) = none := by decide
  unfold Denotes at hdenotes
  rw [if_neg hslash] at hdenotes
  cases hparse.symm.trans hdenotes

/-- A network with an exception, written with blanks around it. -/
theorem isAllowed_fromCidrs_exception :
    ((fromCidrs [str " 10.0.0.0/8", str ""] [str "10.0.0.66"]).isAllowed (.v4 10 0 0 66) = true ↔
      (∀ entry ∈ [str "10.0.0.66"], ¬ Denotes entry (.v4 10 0 0 66)) ∧
        ((∀ entry ∈ [str " 10.0.0.0/8", str ""], trim entry = []) ∨
          ∃ entry ∈ [str " 10.0.0.0/8", str ""], Denotes entry (.v4 10 0 0 66))) ∧
    (fromCidrs [str " 10.0.0.0/8", str ""] [str "10.0.0.66"]).isAllowed (.v4 10 0 0 66) = false ∧
    (fromCidrs [str " 10.0.0.0/8", str ""] [str "10.0.0.66"]).isAllowed (.v4 10 0 0 67) = true :=
  ⟨isAllowed_fromCidrs_iff (by decide +kernel) _, by decide +kernel,
    by decide +kernel⟩

end Blank

end Acl

end RustDns
