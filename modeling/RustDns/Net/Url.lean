import RustDns.Net.SocketAddr

/-!
# Addresses as texts, and URLs

How the standard library writes an address, and the part of the `url` crate that the code uses.
The crate is a parameter.  What is relied on is how it writes a host that is an address: an IPv4
address in dotted decimal form, which the parser of addresses reads back (`parse_showIpv4`), and an
IPv6 address in square brackets, which it does not read.

`UrlCrate.plain` reads `http` and `https` URLs without user, port, percent signs and short forms of
addresses.
-/

namespace RustDns

open Text Decimal

namespace IpAddr

/-! ## Addresses as texts -/

/-- `Ipv4Addr::fmt`. -/
def showIpv4 (a b c d : UInt8) : Str :=
  join (str ".") ([a, b, c, d].map fun octet => showNat octet.toNat)

/-- `{:x}`. -/
def showHex (segment : UInt16) : Str := Nat.toDigits 16 segment.toNat

/-- `Span`: where a row of zeros starts, and its length. -/
structure Span where
  start : ℕ
  len : ℕ

def nextSpans (longest current : Span) (segment : UInt16) (index : ℕ) : Span × Span :=
  if segment = 0 then
    let current : Span := ⟨if current.len = 0 then index else current.start, current.len + 1⟩
    (if longest.len < current.len then current else longest, current)
  else (longest, ⟨0, 0⟩)

def longestZeros (segments : List UInt16) : Span :=
  (segments.zipIdx.foldl (fun spans item => nextSpans spans.1 spans.2 item.1 item.2)
    (⟨0, 0⟩, ⟨0, 0⟩)).1

/-- `Ipv6Addr::fmt`. -/
def showIpv6 (segments : List UInt16) : Str :=
  let chunk := fun part : List UInt16 => join (str ":") (part.map showHex)
  match segments with
  -- an IPv4 address within IPv6 shows it
  | [0, 0, 0, 0, 0, 0xffff, high, low] =>
    str "::ffff:" ++ showIpv4 (.ofNat (high.toNat / 256)) (.ofNat (high.toNat % 256))
      (.ofNat (low.toNat / 256)) (.ofNat (low.toNat % 256))
  | _ =>
    let zeroes := longestZeros segments
    if 1 < zeroes.len then
      chunk (segments.take zeroes.start) ++ str "::" ++
        chunk (segments.drop (zeroes.start + zeroes.len))
    else chunk segments

/-- `IpAddr::fmt`. -/
def display : IpAddr → Str
  | .v4 a b c d => showIpv4 a b c d
  | .v6 segments => showIpv6 (List.ofFn segments)

theorem readNumber_showNat (octet : UInt8) :
    readNumber 10 3 255 false (showNat octet.toNat) = some (octet.toNat, []) := by
  have hall : ∀ n : Fin 256, readNumber 10 3 255 false (showNat n) = some (n.val, []) := by
    decide +kernel
  exact hall ⟨octet.toNat, octet.toNat_lt⟩

theorem parse_showIpv4 (a b c d : UInt8) : parse (showIpv4 a b c d) = some (.v4 a b c d) := by
  have hdot : toDigit 10 '.' = none := by decide
  have htext : showIpv4 a b c d = showNat a.toNat ++ '.' :: (showNat b.toNat ++ '.' ::
      (showNat c.toNat ++ '.' :: showNat d.toNat)) := by
    simp [showIpv4, join, str]
  have hread : readIpv4Addr (showIpv4 a b c d) = some ((a, b, c, d), []) := by
    rw [htext]
    simp [readIpv4Addr, readSeparator, readNumber_append hdot, readNumber_showNat]
  unfold parse
  rw [hread]

/-! ### The characters of an address -/

def isAddressChar (c : Char) : Bool := (str "0123456789abcdef.:").contains c

theorem isAddressChar_digitChar : ∀ d < 16, isAddressChar (Nat.digitChar d) = true := by decide

theorem isAddressChar_of_mem_toDigits {base : ℕ} (hbase : 1 < base) (hle : base ≤ 16) (n : ℕ) :
    ∀ c ∈ Nat.toDigits base n, isAddressChar c = true := by
  induction n using Nat.strong_induction_on with
  | _ n ih =>
    intro c hc
    by_cases hlt : n < base
    · rw [Nat.toDigits_of_lt_base hlt, List.mem_singleton] at hc
      rw [hc]
      exact isAddressChar_digitChar n (by omega)
    · rw [Nat.toDigits_of_base_le hbase (by omega), List.mem_append, List.mem_singleton] at hc
      rcases hc with hc | rfl
      · exact ih (n / base) (Nat.div_lt_self (by omega) hbase) c hc
      · have hdigit := Nat.mod_lt n (show 0 < base by omega)
        exact isAddressChar_digitChar _ (by omega)

theorem isAddressChar_of_mem_join {separator : Char} (hseparator : isAddressChar separator = true)
    {parts : List Str} (hparts : ∀ part ∈ parts, ∀ c ∈ part, isAddressChar c = true) :
    ∀ c ∈ join [separator] parts, isAddressChar c = true := by
  induction parts with
  | nil => nofun
  | cons part rest ih =>
    rw [List.forall_mem_cons] at hparts
    cases rest with
    | nil => simpa [join] using hparts.1
    | cons next rest =>
      rw [join, List.intercalate_cons_cons, List.forall_mem_append, List.forall_mem_append]
      exact ⟨⟨hparts.1, by simpa using hseparator⟩, ih hparts.2⟩

theorem isAddressChar_of_mem_showIpv4 (a b c d : UInt8) :
    ∀ char ∈ showIpv4 a b c d, isAddressChar char = true := by
  apply isAddressChar_of_mem_join (by decide)
  intro part hpart
  obtain ⟨octet, -, rfl⟩ := List.mem_map.mp hpart
  exact isAddressChar_of_mem_toDigits (by decide) (by decide) _

theorem isAddressChar_of_mem_display (ip : IpAddr) : ∀ c ∈ display ip, isAddressChar c = true := by
  have hchunk : ∀ part : List UInt16, ∀ c ∈ join (str ":") (part.map showHex),
      isAddressChar c = true := by
    intro part
    apply isAddressChar_of_mem_join (by decide)
    intro text htext
    obtain ⟨segment, -, rfl⟩ := List.mem_map.mp htext
    exact isAddressChar_of_mem_toDigits (by decide) (by decide) _
  cases ip with
  | v4 a b c d => exact isAddressChar_of_mem_showIpv4 a b c d
  | v6 segments =>
    change ∀ c ∈ showIpv6 (List.ofFn segments), isAddressChar c = true
    unfold showIpv6
    split
    · rw [List.forall_mem_append]
      exact ⟨List.all_eq_true.mp (by decide), isAddressChar_of_mem_showIpv4 _ _ _ _⟩
    · dsimp only
      split_ifs
      · rw [List.forall_mem_append, List.forall_mem_append]
        exact ⟨⟨hchunk _, List.all_eq_true.mp (by decide)⟩, hchunk _⟩
      · exact hchunk _

theorem display_ne_nil (ip : IpAddr) : display ip ≠ [] := by
  have hjoin : ∀ (separator first second : Str) (rest : List Str), separator ≠ [] →
      join separator (first :: second :: rest) ≠ [] := by
    intro separator first second rest hseparator
    rw [join, List.intercalate_cons_cons]
    simp [hseparator]
  cases ip with
  | v4 a b c d => exact hjoin _ _ _ _ (by decide)
  | v6 segments =>
    change showIpv6 (List.ofFn segments) ≠ []
    unfold showIpv6
    split
    · exact List.append_ne_nil_of_left_ne_nil (by decide) _
    · dsimp only
      split_ifs
      · refine List.append_ne_nil_of_left_ne_nil (List.append_ne_nil_of_right_ne_nil _ ?_) _
        decide
      · rw [List.ofFn_succ, List.ofFn_succ]
        exact hjoin _ _ _ _ (by decide)

end IpAddr

/-! ## URLs -/

inductive Host where
  | domain (name : Str)
  | ip (address : IpAddr)
deriving DecidableEq

/-- The part of the `url` crate that the code uses. -/
class UrlCrate where
  /-- `url::Url`. -/
  Url : Type
  /-- `Url::parse`. -/
  parse : Str → Except Str Url
  /-- `Url::scheme`. -/
  scheme : Url → Str
  /-- `Url::host`. -/
  host : Url → Option Host
  /-- `Url::host_str`. -/
  hostStr : Url → Option Str

/-- What is relied on about `url`. -/
class LawfulUrlCrate [UrlCrate] : Prop where
  /-- An IPv4 address is written in dotted decimal form. -/
  hostStr_v4 : ∀ {url : UrlCrate.Url} {a b c d : UInt8},
    UrlCrate.host url = some (.ip (.v4 a b c d)) →
      UrlCrate.hostStr url = some (IpAddr.showIpv4 a b c d)
  /-- An IPv6 address is written in square brackets. -/
  hostStr_v6 : ∀ {url : UrlCrate.Url} {segments : Fin 8 → UInt16},
    UrlCrate.host url = some (.ip (.v6 segments)) →
      ∃ text, UrlCrate.hostStr url = some (str "[" ++ text ++ str "]")

namespace PlainUrl

def readHost : Str → Except Str Host
  | '[' :: rest =>
    match rest.getLast?, IpAddr.parseIpv6 rest.dropLast with
    | some ']', some ip => .ok (.ip ip)
    | _, _ => .error (str "invalid IPv6 address")
  | [] => .error (str "empty host")
  | name =>
    match IpAddr.parseIpv4 name with
    | some ip => .ok (.ip ip)
    | none => .ok (.domain name)

def read (url : Str) : Except Str (Str × Host) :=
  match stripPrefix (str "http://") url, stripPrefix (str "https://") url with
  | some rest, _ => (readHost (rest.takeWhile (· ≠ '/'))).map (str "http", ·)
  | none, some rest => (readHost (rest.takeWhile (· ≠ '/'))).map (str "https", ·)
  | none, none => .error (str "relative URL without a base")

def showHost : Host → Str
  | .domain name => name
  | .ip (.v4 a b c d) => IpAddr.showIpv4 a b c d
  | .ip (.v6 segments) => str "[" ++ IpAddr.showIpv6 (List.ofFn segments) ++ str "]"

end PlainUrl

/-- Plain `http` and `https` URLs. -/
@[reducible] def UrlCrate.plain : UrlCrate where
  Url := Str × Host
  parse := PlainUrl.read
  scheme := Prod.fst
  host := fun url => some url.2
  hostStr := fun url => some (PlainUrl.showHost url.2)

theorem LawfulUrlCrate.plain : @LawfulUrlCrate UrlCrate.plain := by
  refine @LawfulUrlCrate.mk UrlCrate.plain (fun {url a b c d} hhost => ?_)
    fun {url segments} hhost => ?_
  · obtain ⟨scheme, host⟩ := url
    obtain rfl : host = _ := Option.some.inj hhost
    rfl
  · obtain ⟨scheme, host⟩ := url
    obtain rfl : host = _ := Option.some.inj hhost
    exact ⟨IpAddr.showIpv6 (List.ofFn segments), rfl⟩

end RustDns
