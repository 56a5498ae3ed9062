import RustDns.Net.IpNet
import RustDns.Net.SocketAddr

/-!
# Networks of one host

An access list may name a single address, which the code takes for a network of full length.
`LawfulIpNetCrate` says what is relied on about `ipnet` for that: such a network is one if and only
if the crate reads the text as an address, and contains that address only.  The crate has a reader
of addresses of its own, which takes more texts than that of `std::net`.  `IpNetCrate.cidr` is an
instance.
-/

namespace RustDns

open IpNetCrate

/-- The text is that of a network with the address. -/
def IpNetCrate.Names [IpNetCrate] (text : Str) (ip : IpAddr) : Prop :=
  ∃ net, parse text = some net ∧ contains net ip = true

/-- What is relied on about `ipnet`. -/
class LawfulIpNetCrate [IpNetCrate] where
  /-- The address that the crate reads before the slash.  A number may begin with zeros there:
  `010.0.0.1` is the address `10.0.0.1`. -/
  parseAddr : Str → Option IpAddr
  /-- The crate reads every address that `std::net` reads, as the same one. -/
  parseAddr_of_parse : ∀ {s : Str} {ip : IpAddr}, IpAddr.parse s = some ip → parseAddr s = some ip
  parseAddr_nil : parseAddr [] = none
  /-- An IPv4 address with the length 32 is the network of that address. -/
  names_v4 : ∀ {s : Str}, '/' ∉ s → ':' ∉ s → ∀ ip,
    Names (s ++ str "/32") ip ↔ parseAddr s = some ip
  /-- An IPv6 address with the length 128 is the network of that address. -/
  names_v6 : ∀ {s : Str}, '/' ∉ s → ':' ∈ s → ∀ ip,
    Names (s ++ str "/128") ip ↔ parseAddr s = some ip

namespace IpNet

/-! ## Addresses as numbers -/

/-- Parts with values below the base, one after the other, are the digits of a number. -/
theorem foldl_eq_ofDigits {α : Type*} (base : ℕ) (value : α → ℕ) (parts : List α) :
    parts.foldl (fun acc part => acc * base + value part) 0 =
      Nat.ofDigits base (parts.map value).reverse := by
  rw [Nat.ofDigits_eq_foldr, List.foldr_reverse, List.foldl_map]
  refine congrArg (fun f => parts.foldl f 0) ?_
  funext acc part
  simp only [Nat.cast_id]
  ring

theorem eq_of_foldl_eq {α : Type*} {base : ℕ} (hbase : 1 < base) {value : α → ℕ}
    (hinjective : Function.Injective value) (hvalue : ∀ part, value part < base)
    {parts other : List α} (hlength : parts.length = other.length)
    (heq : parts.foldl (fun acc part => acc * base + value part) 0 =
      other.foldl (fun acc part => acc * base + value part) 0) : parts = other := by
  rw [foldl_eq_ofDigits, foldl_eq_ofDigits] at heq
  have hdigits : ∀ parts : List α, ∀ digit ∈ (parts.map value).reverse, digit < base := by
    intro parts digit hdigit
    obtain ⟨part, -, rfl⟩ := List.mem_map.mp (List.mem_reverse.mp hdigit)
    exact hvalue part
  have hreverse := Nat.ofDigits_inj_of_len_eq hbase (by simpa using hlength) (hdigits parts)
    (hdigits other) heq
  exact List.map_injective_iff.mpr hinjective (List.reverse_injective hreverse)

theorem eq_of_toNat_eq {ip other : IpAddr} (hwidth : width ip = width other)
    (heq : toNat ip = toNat other) : ip = other := by
  cases ip with
  | v4 a b c d =>
    cases other with
    | v6 segments => cases hwidth
    | v4 a' b' c' d' =>
      unfold toNat at heq
      have hparts := eq_of_foldl_eq (by decide) (fun _ _ => UInt8.toNat_inj.mp)
        UInt8.toNat_lt (by rfl) heq
      simp only [List.cons.injEq, and_true] at hparts
      obtain ⟨rfl, rfl, rfl, rfl⟩ := hparts
      rfl
  | v6 segments =>
    cases other with
    | v4 a b c d => cases hwidth
    | v6 segments' =>
      unfold toNat at heq
      have hparts := eq_of_foldl_eq (by decide) (fun _ _ => UInt16.toNat_inj.mp)
        UInt16.toNat_lt (by simp) heq
      rw [List.ofFn_injective hparts]

theorem containsCidr_width_iff (host ip : IpAddr) :
    containsCidr (host, width host) ip = true ↔ host = ip := by
  constructor
  · intro hcontains
    simp only [containsCidr, Bool.and_eq_true, beq_iff_eq] at hcontains
    obtain ⟨hwidth, hbits⟩ := hcontains
    rw [hwidth, Nat.sub_self, Nat.shiftRight_zero, Nat.shiftRight_zero] at hbits
    exact eq_of_toNat_eq hwidth hbits
  · rintro rfl
    simp [containsCidr]

/-! ## The notation of one host -/

theorem parseCidr_append {s length : Str} (hs : '/' ∉ s) (hlength : '/' ∉ length) :
    parseCidr (s ++ '/' :: length) = (IpAddr.parse s).bind fun ip =>
      (IpAddr.readNumber 10 3 (width ip) false length).bind fun read =>
        if read.2.isEmpty then some (ip, read.1) else none := by
  have hplain : ∀ text : Str, '/' ∉ text → text.splitOnP (· == '/') = [text] := by
    refine fun text htext => Text.splitOnP_eq_singleton fun c hc => ?_
    rw [beq_eq_false_iff_ne]
    rintro rfl
    exact htext hc
  have hsplit : (s ++ '/' :: length).splitOn '/' = [s, length] := by
    have happend := List.splitOnP_append_cons (p := (· == '/')) s length (beq_self_eq_true '/')
    rw [hplain s hs, hplain length hlength] at happend
    exact happend
  unfold parseCidr
  rw [hsplit]
  rfl

end IpNet

namespace IpAddr

theorem width_of_colon_mem {s : Str} {ip : IpAddr} (hparse : parse s = some ip) (hcolon : ':' ∈ s) :
    IpNet.width ip = 128 := by
  cases ip with
  | v4 a b c d => exact absurd hcolon (colon_notMem_of_isIpv4 hparse rfl)
  | v6 segments => rfl

theorem width_of_colon_not_mem {s : Str} {ip : IpAddr} (hparse : parse s = some ip)
    (hcolon : ':' ∉ s) : IpNet.width ip = 32 := by
  rcases parse_eq_some hparse with ⟨hv4, -⟩ | ⟨-, hread⟩
  · cases ip with
    | v4 a b c d => rfl
    | v6 segments => cases hv4
  · exact absurd (colon_mem_of_readIpv6Addr hread) hcolon

end IpAddr

section

attribute [local instance] IpNetCrate.cidr

theorem IpNet.names_append_iff {s length : Str} (hs : '/' ∉ s) (hlength : '/' ∉ length) {bits : ℕ}
    (hread : IpAddr.readNumber 10 3 bits false length = some (bits, []))
    (hwidth : ∀ host, IpAddr.parse s = some host → IpNet.width host = bits) (ip : IpAddr) :
    Names (s ++ '/' :: length) ip ↔ IpAddr.parse s = some ip := by
  have hparse : IpNetCrate.parse (s ++ '/' :: length) =
      (IpAddr.parse s).map fun host => (host, bits) := by
    refine (IpNet.parseCidr_append hs hlength).trans ?_
    cases hhost : IpAddr.parse s with
    | none => rfl
    | some host =>
      rw [Option.bind_some, hwidth host hhost, hread]
      rfl
  unfold Names
  rw [hparse]
  constructor
  · rintro ⟨net, hnet, hcontains⟩
    obtain ⟨host, hhost, rfl⟩ := Option.map_eq_some_iff.mp hnet
    rw [← hwidth host hhost] at hcontains
    rw [hhost, (IpNet.containsCidr_width_iff host ip).mp hcontains]
  · intro hip
    refine ⟨(ip, bits), by rw [hip]; rfl, ?_⟩
    rw [← hwidth ip hip]
    exact (IpNet.containsCidr_width_iff ip ip).mpr rfl

/-- The notation `address/length`, with the addresses of `std::net`. -/
@[reducible] def LawfulIpNetCrate.cidr : LawfulIpNetCrate where
  parseAddr := IpAddr.parse
  parseAddr_of_parse := id
  parseAddr_nil := by decide
  names_v4 hs hcolon ip := by
    have hread : IpAddr.readNumber 10 3 32 false (str "32") = some (32, []) := by decide
    exact IpNet.names_append_iff hs (by decide) hread
      (fun _ hhost => IpAddr.width_of_colon_not_mem hhost hcolon) ip
  names_v6 hs hcolon ip := by
    have hread : IpAddr.readNumber 10 3 128 false (str "128") = some (128, []) := by decide
    exact IpNet.names_append_iff hs (by decide) hread
      (fun _ hhost => IpAddr.width_of_colon_mem hhost hcolon) ip

end

end RustDns
