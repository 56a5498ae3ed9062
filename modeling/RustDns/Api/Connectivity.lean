import RustDns.Dns.NameServers

/-!
# The health probes of the API

Two functions ask an upstream for `example.com` on behalf of the API:
`check_upstream_connectivity` for the background task and `test_dns_connectivity`
for the test endpoint.  Each takes the address string apart by itself, and neither
does it as `DnsResolver::with_upstreams` does.

For a string that registers a name server, the probes connect to that server
exactly when the string is `Probeable` (`probes_iff`).

* A URL must not have white space in front, nor behind its authority.
* The host of a `tls://` URL must not be in brackets.
* Any other address must be an IPv4 address, with a port or without, and nothing
  else: no `udp://` or `tcp://`, no IPv6, no white space.
-/

namespace RustDns.Api.Connectivity

open Text

/-! ## The probes -/

def parseUrlHostPort (url start : Str) (defaultPort : UInt16) : Option (Str × UInt16) := do
  let rest ← stripPrefix start url
  if (authority rest).isEmpty then none else hostPort defaultPort (authority rest)

def parseDohHostPort (url : Str) : Option (Str × UInt16 × Str) := do
  let rest ← stripPrefix (str "https://") url
  let path := if '/' ∈ rest then rest.dropWhile (· != '/') else str "/dns-query"
  let (host, port) ← hostPort 443 (authority rest)
  if host.isEmpty then none else some (host, port, path)

/-- An address without a scheme that the probes know. -/
def plainConfig (addr : Str) : Option (List NameServer) := do
  let (ip, port) ← splitPort 53 addr
  let ip ← IpAddr.parse ip
  return [⟨.udp, ⟨ip, 0, port⟩, none⟩]

/-- The name servers that `check_upstream_connectivity` asks, or `none` for the
error that it returns instead. -/
def checkConfig (lookup : HostLookup) (addr : Str) : Option (List NameServer) :=
  if startsWith (str "https://") addr then do
    let (host, port) ← parseUrlHostPort addr (str "https://") 443
    encryptedServers lookup (fun _ => true) .https host port
  else if startsWith (str "tls://") addr then do
    let (host, port) ← parseUrlHostPort addr (str "tls://") 853
    encryptedServers lookup (fun _ => true) .tls host port
  else plainConfig addr

/-- The name servers that `test_dns_connectivity` asks, or `none` for the error
that it returns instead.  It knows no brackets in a `tls://` URL. -/
def testConfig (lookup : HostLookup) (addr : Str) : Option (List NameServer) :=
  if startsWith (str "https://") addr then do
    let (host, port, _) ← parseDohHostPort addr
    encryptedServers lookup (fun _ => true) .https host port
  else match stripPrefix (str "tls://") addr with
    | some rest => do
      let (host, port) ← splitPort 853 (authority rest)
      encryptedServers lookup (fun _ => true) .tls host port
    | none => plainConfig addr

def answered (timeoutMs : ℕ) (outcome : LookupOutcome) (elapsedMs : ℕ) : Bool :=
  decide (elapsedMs ≤ timeoutMs) && match outcome with
    | .records _ => true
    | _ => false

/-- `check_upstream_connectivity`, which succeeds or not. -/
def checkUpstreamConnectivity (lookup : HostLookup) (addr : Str) (timeoutMs : ℕ)
    (outcome : LookupOutcome) (elapsedMs : ℕ) : Bool :=
  (checkConfig lookup addr).isSome && answered timeoutMs outcome elapsedMs

/-- `test_dns_connectivity`, which succeeds or not. -/
def testDnsConnectivity (lookup : HostLookup) (addr : Str) (timeoutMs : ℕ)
    (outcome : LookupOutcome) (elapsedMs : ℕ) : Bool :=
  (testConfig lookup addr).isSome && answered timeoutMs outcome elapsedMs

/-! ## Which addresses are probed rightly -/

/-- A probe connects to servers, all of them with the protocol, host and port of
those that were registered. -/
def Probes (registered : List NameServer) (config : Option (List NameServer)) : Prop :=
  ∃ servers, config = some servers ∧ servers ≠ [] ∧
    ∀ server ∈ servers, ∀ other ∈ registered, server.endpoint = other.endpoint

/-- An IPv4 address, with a port or without. -/
def IsIpv4Text (s : Str) : Prop :=
  (∃ ip, IpAddr.parse s = some ip ∧ ip.isIpv4 = true) ∨
    ∃ address, SocketAddr.parse s = some address ∧ address.ip.isIpv4 = true

def TrimmedAuthority (rest : Str) : Prop := rest.rdropWhile isWhitespace = rest ∨ '/' ∈ rest

/-- An address that both probes read as `with_upstreams` does. -/
inductive Probeable : Str → Prop
  | https (rest : Str) : TrimmedAuthority rest → Probeable (str "https://" ++ rest)
  | tls (rest : Str) : TrimmedAuthority rest → startsWith (str "[") rest = false →
      Probeable (str "tls://" ++ rest)
  | plain (s : Str) : IsIpv4Text s → Probeable s

/-! ### Authorities -/

variable {rest space text host s : Str} {defaultPort port : UInt16} {preferIpv4 : Bool}

theorem authority_rdropWhile (htrimmed : TrimmedAuthority rest) :
    authority (rest.rdropWhile isWhitespace) = authority rest := by
  rcases htrimmed with hself | hslash
  · rw [hself]
  · obtain ⟨front, back, rfl⟩ := List.append_of_mem hslash
    have hkept : ('/' :: back).rdropWhile isWhitespace = '/' :: back.rdropWhile isWhitespace :=
      rdropWhile_cons_of_neg (by decide) back
    have hstop : ∀ back : Str, authority (front ++ '/' :: back) = authority (front ++ ['/']) := by
      intro back
      unfold authority splitNext
      rw [List.takeWhile_append, List.takeWhile_append]
      simp
    rw [rdropWhile_append_of_ne_nil (by rw [hkept]; simp), hkept, hstop, hstop back]

theorem authority_of_not_trimmed (htrimmed : ¬ TrimmedAuthority rest) :
    ∃ space, space ≠ [] ∧ (∀ c ∈ space, isWhitespace c = true) ∧
      authority rest = authority (rest.rdropWhile isWhitespace) ++ space := by
  rw [TrimmedAuthority, not_or] at htrimmed
  have hwhole : authority rest = rest := List.takeWhile_eq_self_iff.mpr fun c hc => by
    rw [bne_iff_ne]
    rintro rfl
    exact htrimmed.2 hc
  have hkept : authority (rest.rdropWhile isWhitespace) = rest.rdropWhile isWhitespace :=
    List.takeWhile_eq_self_iff.mpr fun c hc => by
      rw [bne_iff_ne]
      rintro rfl
      exact htrimmed.2 (( List.rdropWhile_prefix _ _).subset hc)
  have hsplit := List.rdropWhile_append_rtakeWhile (p := isWhitespace) (l := rest)
  refine ⟨rest.rtakeWhile isWhitespace, ?_, fun c hc => List.mem_rtakeWhile_imp hc, ?_⟩
  · intro hnil
    rw [hnil, List.append_nil] at hsplit
    exact htrimmed.1 hsplit
  · rw [hwhole, hkept, hsplit]

theorem parseU16_append_space {port : Str} (hne : space ≠ [])
    (hspace : ∀ c ∈ space, isWhitespace c = true) : parseU16 (port ++ space) = none := by
  by_contra hsome
  obtain ⟨value, hvalue⟩ := Option.ne_none_iff_exists'.mp hsome
  obtain ⟨c, rest, rfl⟩ := List.exists_cons_of_ne_nil hne
  have hc := hspace c List.mem_cons_self
  have hdigit : IpAddr.toDigit 10 c = none := IpAddr.toDigit_whitespace hc 10
  have hplus : c ≠ '+' := by
    rintro rfl
    exact absurd hc (by decide)
  exact IpAddr.not_mem_of_parseU16 hvalue hdigit hplus (by simp)

theorem splitPort_append_space (hne : space ≠ []) (hspace : ∀ c ∈ space, isWhitespace c = true)
    (hread : splitPort defaultPort (text ++ space) = some (host, port)) :
    host = text ++ space ∧ ':' ∉ text ++ space := by
  have hcolon : ':' ∉ space := fun hmem => absurd (hspace _ hmem) (by decide)
  by_cases htext : ':' ∈ text
  · obtain ⟨front, back, rfl, hback⟩ := exists_append_of_mem htext
    have hsplit : rsplitOnce ':' (front ++ ':' :: back ++ space) = some (front, back ++ space) := by
      rw [List.append_assoc, List.cons_append]
      exact rsplitOnce_append front (by simp [hback, hcolon])
    rw [splitPort, hsplit] at hread
    simp [parseU16_append_space hne hspace] at hread
  · have hnot : ':' ∉ text ++ space := by simp [htext, hcolon]
    rw [splitPort, rsplitOnce_eq_none.mpr hnot] at hread
    exact ⟨(Prod.mk.inj (Option.some.inj hread)).1.symm, hnot⟩

theorem hostPort_append_space {port' : UInt16} {host' : Str} (hne : space ≠ [])
    (hspace : ∀ c ∈ space, isWhitespace c = true)
    (hread : hostPort defaultPort text = some (host, port))
    (hread' : hostPort defaultPort (text ++ space) = some (host', port')) : host' ≠ host := by
  by_cases hbracket : startsWith (str "[") text = true
  · obtain ⟨inner, rfl⟩ : ∃ inner, text = '[' :: inner := by
      obtain ⟨inner, hinner⟩ := List.isPrefixOf_iff_prefix.mp hbracket
      exact ⟨inner, hinner.symm⟩
    -- what follows the bracket is not empty and no port either
    obtain ⟨⟨front, back⟩, hsplit, -⟩ := Option.bind_eq_some_iff.mp hread
    obtain ⟨rfl, hback⟩ := rsplitOnce_eq_some.mp hsplit
    have hend : ']' ∉ space := fun hmem => absurd (hspace _ hmem) (by decide)
    have hsplit' : rsplitOnce ']' (front ++ ']' :: back ++ space) =
        some (front, back ++ space) := by
      rw [List.append_assoc, List.cons_append]
      exact rsplitOnce_append front (by simp [hback, hend])
    have hport : (stripPrefix (str ":") (back ++ space)).bind parseU16 = none := by
      rw [Option.bind_eq_none_iff]
      intro digits hdigits
      cases back with
      | nil =>
        have hcolon : ':' ∈ space := by
          rw [List.nil_append] at hdigits
          rw [stripPrefix_eq_some.mp hdigits]
          exact List.mem_cons_self
        exact absurd (hspace _ hcolon) (by decide)
      | cons c back =>
        obtain ⟨-, rfl⟩ := List.cons.inj (stripPrefix_eq_some.mp hdigits)
        exact parseU16_append_space hne hspace
    have hnone : hostPort defaultPort ('[' :: (front ++ ']' :: back ++ space)) = none := by
      simp only [hostPort, hsplit', Option.bind_eq_bind, Option.bind_some, hport, Option.bind_none]
      rw [if_neg (by simp [hne])]
    rw [List.cons_append, hnone] at hread'
    cases hread'
  · rw [Bool.not_eq_true] at hbracket
    have hbracket' : startsWith (str "[") (text ++ space) = false := by
      cases text with
      | nil =>
        obtain ⟨c, others, rfl⟩ := List.exists_cons_of_ne_nil hne
        apply startsWith_cons_eq_false
        rintro rfl
        exact absurd (hspace _ List.mem_cons_self) (by decide)
      | cons c others =>
        simp only [startsWith, str, List.cons_append] at hbracket ⊢
        exact hbracket
    rw [hostPort_eq_splitPort hbracket'] at hread'
    obtain ⟨rfl, hcolon⟩ := splitPort_append_space hne hspace hread'
    have htext : ':' ∉ text := fun hmem => hcolon (List.mem_append_left space hmem)
    rw [hostPort_eq_splitPort hbracket, splitPort, rsplitOnce_eq_none.mpr htext] at hread
    obtain ⟨rfl, -⟩ := Prod.mk.inj (Option.some.inj hread)
    simpa using hne

/-! ### Encrypted connections -/

section Encrypted

variable {lookup : HostLookup} {protocol : Protocol} {host : Str} {port : UInt16}
  {registered : List NameServer}

variable {keep : IpAddr → Bool} {preferIpv4 : Bool}

/-- A probe of an encrypted server connects rightly exactly when it reads the host
and the port that were registered. -/
theorem probes_encrypted_iff
    (hregistered : encryptedServers lookup keep protocol host port = some registered)
    (parsed : Option (Str × UInt16)) :
    Probes registered
        (parsed.bind fun (host, port) =>
          encryptedServers lookup (fun _ => true) protocol host port) ↔
      parsed = some (host, port) := by
  obtain ⟨hne, hendpoints⟩ := encryptedServers_eq_some hregistered
  constructor
  · rintro ⟨servers, hservers, hsome, hsame⟩
    obtain ⟨⟨host', port'⟩, rfl, hencrypted⟩ := Option.bind_eq_some_iff.mp hservers
    obtain ⟨server, others, rfl⟩ := List.exists_cons_of_ne_nil hsome
    obtain ⟨other, rest, rfl⟩ := List.exists_cons_of_ne_nil hne
    have hendpoint := hsame server List.mem_cons_self other List.mem_cons_self
    rw [(encryptedServers_eq_some hencrypted).2 server List.mem_cons_self,
      hendpoints other List.mem_cons_self] at hendpoint
    simp only [Prod.mk.injEq, Sum.inl.injEq, true_and] at hendpoint
    rw [hendpoint.1, hendpoint.2]
  · rintro rfl
    obtain ⟨servers, hservers⟩ := Option.isSome_iff_exists.mp
      (isSome_encryptedServers (Option.isSome_iff_exists.mpr ⟨registered, hregistered⟩))
    refine ⟨servers, hservers, (encryptedServers_eq_some hservers).1, ?_⟩
    intro server hserver other hother
    rw [(encryptedServers_eq_some hservers).2 server hserver, hendpoints other hother]

variable {defaultPort : UInt16} {rest url : Str}

/-- Both probes read the authority as it is written, and the registration reads it
without the white space behind. -/
theorem hostPort_authority_iff
    (hread : hostPort defaultPort (authority (rest.rdropWhile isWhitespace)) = some (host, port)) :
    hostPort defaultPort (authority rest) = some (host, port) ↔ TrimmedAuthority rest := by
  constructor
  · intro hsame
    by_contra htrimmed
    obtain ⟨space, hne, hspace, hauthority⟩ := authority_of_not_trimmed htrimmed
    rw [hauthority] at hsame
    exact hostPort_append_space hne hspace hread hsame rfl
  · intro htrimmed
    rwa [authority_rdropWhile htrimmed] at hread

theorem parseUrlHostPort_iff {start : Str} (hhost : host ≠ []) :
    parseUrlHostPort (start ++ rest) start defaultPort = some (host, port) ↔
      hostPort defaultPort (authority rest) = some (host, port) := by
  have hstrip : stripPrefix start (start ++ rest) = some rest := stripPrefix_eq_some.mpr rfl
  unfold parseUrlHostPort
  rw [hstrip]
  simp only [Option.bind_eq_bind, Option.bind_some]
  split_ifs with hempty
  · -- an empty authority would be an empty host
    rw [List.isEmpty_iff.mp hempty]
    refine iff_of_false (by simp) fun hread => ?_
    obtain ⟨rfl, -⟩ := Prod.mk.inj (Option.some.inj hread)
    exact hhost rfl
  · rfl

theorem parseDohHostPort_eq (url : Str) : parseDohHostPort url = parseDohUrl url := by
  unfold parseDohHostPort parseDohUrl
  cases stripPrefix (str "https://") url with
  | none => rfl
  | some rest => cases rest <;> rfl

theorem exists_registered
    (hservers : registered =
      (((hostPort defaultPort (authority (rest.rdropWhile isWhitespace))).filter
        fun read => !read.1.isEmpty).bind fun (host, port) =>
          encryptedServers lookup keep protocol host port).getD [])
    (hregistered : registered ≠ []) :
    ∃ host port, host ≠ [] ∧
      (hostPort defaultPort (authority rest) = some (host, port) ↔ TrimmedAuthority rest) ∧
      ∀ parsed : Option (Str × UInt16),
        Probes registered (parsed.bind fun (host, port) =>
            encryptedServers lookup (fun _ => true) protocol host port) ↔
          parsed = some (host, port) := by
  cases hread : hostPort defaultPort (authority (rest.rdropWhile isWhitespace)) with
  | none => simp [hservers, hread] at hregistered
  | some read =>
    obtain ⟨host, port⟩ := read
    by_cases hhost : host = []
    · simp [hservers, hread, hhost, Option.filter] at hregistered
    · refine ⟨host, port, hhost, hostPort_authority_iff hread, ?_⟩
      cases hencrypted : encryptedServers lookup keep protocol host port with
      | none => simp [hservers, hread, hhost, hencrypted, Option.filter] at hregistered
      | some found =>
        obtain rfl : registered = found := by
          simp [hservers, hread, hhost, hencrypted, Option.filter]
        exact probes_encrypted_iff hencrypted

theorem probes_https (hurl : url = str "https://" ++ rest)
    (hregistered : nameServersOf lookup preferIpv4 url ≠ []) :
    Probes (nameServersOf lookup preferIpv4 url) (checkConfig lookup url) ∧
        Probes (nameServersOf lookup preferIpv4 url) (testConfig lookup url) ↔
      TrimmedAuthority rest := by
  have hstart : ∀ rest, startsWith (str "https://") (str "https://" ++ rest) = true :=
    fun _ => List.isPrefixOf_iff_prefix.mpr (List.prefix_append _ _)
  have hservers : nameServersOf lookup preferIpv4 url =
      (((hostPort 443 (authority (rest.rdropWhile isWhitespace))).filter
          fun read => !read.1.isEmpty).bind fun (host, port) =>
        encryptedServers lookup (fun ip => !preferIpv4 || ip.isIpv4) .https host port).getD [] := by
    rw [hurl, ← parseDohUrl_append, Option.bind_map, nameServersOf,
      trim_append (by decide) (by decide) rest]
    dsimp only
    rw [if_pos (hstart _)]
    rfl
  obtain ⟨host, port, hhost, hread, hprobes⟩ := exists_registered hservers hregistered
  have hcheck : checkConfig lookup url =
      (parseUrlHostPort url (str "https://") 443).bind fun (host, port) =>
        encryptedServers lookup (fun _ => true) .https host port := by
    rw [hurl, checkConfig, if_pos (hstart rest)]
    rfl
  have htest : testConfig lookup url =
      ((hostPort 443 (authority rest)).filter fun read => !read.1.isEmpty).bind fun (host, port) =>
        encryptedServers lookup (fun _ => true) .https host port := by
    rw [hurl, testConfig, if_pos (hstart rest), parseDohHostPort_eq, ← parseDohUrl_append,
      Option.bind_map]
    rfl
  rw [hcheck, htest, hprobes, hprobes, hurl, parseUrlHostPort_iff hhost, ← hread]
  refine ⟨fun h => h.1, fun h => ⟨h, ?_⟩⟩
  simp [h, hhost, Option.filter]

theorem startsWith_authority (hbracket : startsWith (str "[") rest = true) :
    ∃ inner, authority rest = '[' :: inner := by
  obtain ⟨tail, rfl⟩ := List.isPrefixOf_iff_prefix.mp hbracket
  exact ⟨authority tail, rfl⟩

theorem startsWith_authority_eq_false (hbracket : startsWith (str "[") rest = false) :
    startsWith (str "[") (authority rest) = false := by
  cases rest with
  | nil => rfl
  | cons c tail =>
    by_cases hslash : c = '/'
    · subst hslash
      rfl
    · have hauthority : authority (c :: tail) = c :: authority tail := by
        unfold authority splitNext
        exact List.takeWhile_cons_of_pos (by simpa using hslash)
      rw [hauthority]
      exact hbracket

theorem splitPort_bracket_ne {inner : Str}
    (hread : hostPort defaultPort ('[' :: inner) = some (host, port)) :
    splitPort defaultPort ('[' :: inner) ≠ some (host, port) := by
  intro hsplit
  obtain ⟨⟨front, back⟩, hbracket, hport⟩ := Option.bind_eq_some_iff.mp hread
  obtain ⟨rfl, -⟩ := rsplitOnce_eq_some.mp hbracket
  obtain rfl : front = host := by
    dsimp only at hport
    split_ifs at hport
    · exact (Prod.mk.inj (Option.some.inj hport)).1
    · obtain ⟨value, -, hvalue⟩ := Option.bind_eq_some_iff.mp hport
      exact (Prod.mk.inj (Option.some.inj hvalue)).1
  unfold splitPort at hsplit
  cases hcolon : rsplitOnce ':' ('[' :: (front ++ ']' :: back)) with
  | none =>
    rw [hcolon] at hsplit
    have hlength := congrArg List.length (Prod.mk.inj (Option.some.inj hsplit)).1
    simp at hlength
    omega
  | some parts =>
    obtain ⟨before, digits⟩ := parts
    rw [hcolon] at hsplit
    obtain ⟨value, hvalue, heq⟩ := Option.map_eq_some_iff.mp hsplit
    obtain rfl : before = front := (Prod.mk.inj heq).1
    -- the port would be as long as what follows the host, and begin with the bracket
    obtain ⟨hparts, -⟩ := rsplitOnce_eq_some.mp hcolon
    have hlength := congrArg List.length hparts
    have hdigits : ']' :: back = digits := by
      have happend : ('[' :: before) ++ ']' :: back = (before ++ [':']) ++ digits := by
        simpa using hparts
      refine (List.append_inj' happend ?_).2
      simp at hlength ⊢
      omega
    refine IpAddr.not_mem_of_parseU16 hvalue (c := ']') (by decide) (by decide) ?_
    rw [← hdigits]
    exact List.mem_cons_self

theorem probes_tls (hurl : url = str "tls://" ++ rest)
    (hregistered : nameServersOf lookup preferIpv4 url ≠ []) :
    Probes (nameServersOf lookup preferIpv4 url) (checkConfig lookup url) ∧
        Probes (nameServersOf lookup preferIpv4 url) (testConfig lookup url) ↔
      TrimmedAuthority rest ∧ startsWith (str "[") rest = false := by
  have hstart : ∀ rest, startsWith (str "tls://") (str "tls://" ++ rest) = true :=
    fun _ => List.isPrefixOf_iff_prefix.mpr (List.prefix_append _ _)
  have hother : ∀ rest, ¬ startsWith (str "https://") (str "tls://" ++ rest) = true :=
    fun _ => by simp [startsWith, str]
  have hservers : nameServersOf lookup preferIpv4 url =
      (((hostPort 853 (authority (rest.rdropWhile isWhitespace))).filter
          fun read => !read.1.isEmpty).bind fun (host, port) =>
        encryptedServers lookup (fun ip => !preferIpv4 || ip.isIpv4) .tls host port).getD [] := by
    rw [hurl, ← parseDotUrl_append, nameServersOf, trim_append (by decide) (by decide) rest]
    dsimp only
    rw [if_neg (hother _), if_pos (hstart _)]
  obtain ⟨host, port, hhost, hread, hprobes⟩ := exists_registered hservers hregistered
  have hcheck : checkConfig lookup url =
      (parseUrlHostPort url (str "tls://") 853).bind fun (host, port) =>
        encryptedServers lookup (fun _ => true) .tls host port := by
    rw [hurl, checkConfig, if_neg (hother rest), if_pos (hstart rest)]
    rfl
  have htest : testConfig lookup url =
      (splitPort 853 (authority rest)).bind fun (host, port) =>
        encryptedServers lookup (fun _ => true) .tls host port := by
    rw [hurl, testConfig, if_neg (hother rest), stripPrefix_eq_some.mpr rfl]
    rfl
  rw [hcheck, htest, hprobes, hprobes, hurl, parseUrlHostPort_iff hhost, ← hread]
  refine and_congr_right fun hauthority => ?_
  cases hbracket : startsWith (str "[") rest with
  | true =>
    obtain ⟨inner, hinner⟩ := startsWith_authority hbracket
    rw [hinner] at hauthority ⊢
    simp [splitPort_bracket_ne hauthority]
  | false =>
    rw [← hostPort_eq_splitPort (startsWith_authority_eq_false hbracket), hauthority]
    simp

end Encrypted

/-! ### Plain addresses -/

def isForeign (c : Char) : Bool := !IpAddr.isLiteralChar c && c != '+'

theorem isForeign_of_isWhitespace {c : Char} (hc : isWhitespace c = true) : isForeign c = true := by
  have hplus : c ≠ '+' := by
    rintro rfl
    exact absurd hc (by decide)
  simp [isForeign, IpAddr.isLiteralChar_of_isWhitespace hc, hplus]

section Foreign

variable {c : Char} (hc : isForeign c = true) {s : Str} (hmem : c ∈ s)
include hc

theorem notMem_of_parse {text : Str} {ip : IpAddr} (hparse : IpAddr.parse text = some ip) :
    c ∉ text := by
  intro hmem
  simp [isForeign, IpAddr.isLiteralChar_of_parse hparse c hmem] at hc

theorem notMem_of_parse_port {text digits : Str} {ip : IpAddr} {port : UInt16}
    (hparse : IpAddr.parse text = some ip) (hport : parseU16 digits = some port) :
    c ∉ text ++ ':' :: digits := by
  have hdigits : c ∉ digits := by
    refine IpAddr.not_mem_of_parseU16 hport ?_ ?_
    · by_contra hdigit
      simp [isForeign, IpAddr.isLiteralChar_of_digit (Option.isSome_iff_ne_none.mpr hdigit)] at hc
    · rintro rfl
      exact absurd hc (by decide)
  have hcolon : c ≠ ':' := by
    rintro rfl
    exact absurd hc (by decide)
  simp [notMem_of_parse hc hparse, hcolon, hdigits]

include hmem

theorem plainConfig_eq_none : plainConfig s = none := by
  unfold plainConfig
  rw [Option.bind_eq_bind, Option.bind_eq_none_iff]
  rintro ⟨host, port⟩ hsplit
  rw [Option.bind_eq_bind, Option.bind_eq_none_iff]
  intro ip hparse
  exfalso
  unfold splitPort at hsplit
  cases hparts : rsplitOnce ':' s with
  | none =>
    rw [hparts] at hsplit
    cases hsplit
    exact notMem_of_parse hc hparse hmem
  | some parts =>
    obtain ⟨before, digits⟩ := parts
    rw [hparts] at hsplit
    obtain ⟨value, hvalue, heq⟩ := Option.map_eq_some_iff.mp hsplit
    cases heq
    obtain ⟨rfl, -⟩ := rsplitOnce_eq_some.mp hparts
    exact notMem_of_parse_port hc hparse hvalue hmem

theorem not_isIpv4Text : ¬ IsIpv4Text s := by
  rintro (⟨ip, hparse, -⟩ | ⟨address, haddress, hv4⟩)
  · exact notMem_of_parse hc hparse hmem
  · rcases SocketAddr.parse_eq_some haddress with
      ⟨-, -, text, digits, rfl, -, htext, hport⟩ | ⟨hv6, -⟩
    · exact notMem_of_parse_port hc htext hport hmem
    · rw [hv6] at hv4
      cases hv4

theorem probes_iff_of_mem (registered : List NameServer) :
    Probes registered (plainConfig s) ↔ IsIpv4Text s := by
  rw [plainConfig_eq_none hc hmem]
  refine iff_of_false ?_ (not_isIpv4Text hc hmem)
  rintro ⟨servers, hservers, -⟩
  cases hservers

end Foreign

theorem plainConfig_colon {digits : Str} (hport : parseU16 digits = some port) :
    plainConfig (text ++ ':' :: digits) =
      (IpAddr.parse text).map fun ip => [⟨.udp, ⟨ip, 0, port⟩, none⟩] := by
  have hcolon : ':' ∉ digits := IpAddr.not_mem_of_parseU16 hport (by decide) (by decide)
  simp only [plainConfig, splitPort, rsplitOnce_append text hcolon, hport, Option.map_some,
    Option.bind_eq_bind, Option.bind_some]
  cases IpAddr.parse text <;> rfl

theorem probes_socketAddr {address : SocketAddr} (hparse : SocketAddr.parse s = some address) :
    Probes [⟨.udp, address, none⟩] (plainConfig s) ↔ IsIpv4Text s := by
  rcases SocketAddr.parse_eq_some hparse with
    ⟨hv4, hscope, text, digits, rfl, -, htext, hport⟩ | ⟨-, rest, rfl⟩
  · refine iff_of_true ?_ (Or.inr ⟨address, hparse, hv4⟩)
    rw [plainConfig_colon hport, htext, Option.map_some]
    refine ⟨_, rfl, List.cons_ne_nil _ _, ?_⟩
    simp [NameServer.endpoint, hscope]
  · exact probes_iff_of_mem (c := '[') (by decide) List.mem_cons_self _

/-- An IP address without a port is probed rightly when it is one of IPv4.  The
probes take the last group of one of IPv6 for a port. -/
theorem probes_ipAddr {ip : IpAddr} (hsocket : SocketAddr.parse s = none)
    (hparse : IpAddr.parse s = some ip) :
    Probes [⟨.udp, ⟨ip, 0, 53⟩, none⟩] (plainConfig s) ↔ IsIpv4Text s := by
  rcases IpAddr.parse_eq_some hparse with ⟨hv4, -⟩ | ⟨hv6, hread⟩
  · have hcolon := IpAddr.colon_notMem_of_isIpv4 hparse hv4
    refine iff_of_true ?_ (Or.inl ⟨ip, hparse, hv4⟩)
    have hconfig : plainConfig s = some [⟨.udp, ⟨ip, 0, 53⟩, none⟩] := by
      simp [plainConfig, splitPort, rsplitOnce_eq_none.mpr hcolon, hparse]
    refine ⟨_, hconfig, List.cons_ne_nil _ _, ?_⟩
    simp
  · have htext : ¬ IsIpv4Text s := by
      rintro (⟨other, hother, hv4⟩ | ⟨address, haddress, -⟩)
      · rw [hparse] at hother
        rw [← Option.some.inj hother, hv6] at hv4
        cases hv4
      · rw [hsocket] at haddress
        cases haddress
    refine iff_of_false ?_ htext
    rintro ⟨servers, hservers, -, hsame⟩
    obtain ⟨front, back, rfl, hback⟩ :=
      exists_append_of_mem (IpAddr.colon_mem_of_readIpv6Addr hread)
    cases hport : parseU16 back with
    | none => simp [plainConfig, splitPort, rsplitOnce_append front hback, hport] at hservers
    | some port =>
      rw [plainConfig_colon hport] at hservers
      obtain ⟨other, hother, rfl⟩ := Option.map_eq_some_iff.mp hservers
      have hendpoint := hsame _ List.mem_cons_self _ List.mem_cons_self
      simp only [NameServer.endpoint, Option.elim_none, Prod.mk.injEq, Sum.inr.injEq, and_true,
        true_and] at hendpoint
      obtain ⟨rfl, rfl⟩ := hendpoint
      rcases IpAddr.parse_eq_some hother with ⟨hv4, -⟩ | ⟨-, hother⟩
      · rw [hv6] at hv4
        cases hv4
      · exact IpAddr.ne_of_append_colon hread hother hport (by decide) rfl

theorem probes_plain (hregistered : plainServer preferIpv4 .udp s ≠ []) :
    Probes (plainServer preferIpv4 .udp s) (plainConfig s) ↔ IsIpv4Text s := by
  unfold plainServer at hregistered ⊢
  cases hsocket : SocketAddr.parse s with
  | some address =>
    simp only [hsocket] at hregistered
    dsimp only
    split_ifs at hregistered ⊢ with hskipped
    · exact absurd rfl hregistered
    · exact probes_socketAddr hsocket
  | none =>
    simp only [hsocket] at hregistered
    cases hparse : IpAddr.parse s with
    | none => simp [hparse] at hregistered
    | some ip =>
      simp only [hparse] at hregistered
      dsimp only
      split_ifs at hregistered ⊢ with hskipped
      · exact absurd rfl hregistered
      · exact probes_ipAddr hsocket hparse

/-! ### All addresses -/

theorem configs_plain (lookup : HostLookup) (hhttps : startsWith (str "https://") s = false)
    (htls : startsWith (str "tls://") s = false) :
    checkConfig lookup s = plainConfig s ∧ testConfig lookup s = plainConfig s := by
  have hstrip : stripPrefix (str "tls://") s = none := stripPrefix_eq_none_iff.mpr htls
  constructor
  · simp [checkConfig, hhttps, htls]
  · simp [testConfig, hhttps, hstrip]

theorem probeable_iff_of_plain (hhttps : startsWith (str "https://") s = false)
    (htls : startsWith (str "tls://") s = false) : Probeable s ↔ IsIpv4Text s := by
  constructor
  · intro hprobeable
    cases hprobeable with
    | https rest => simp [startsWith, str] at hhttps
    | tls rest => simp [startsWith, str] at htls
    | plain => assumption
  · exact Probeable.plain s

theorem probeable_https_iff (rest : Str) :
    Probeable (str "https://" ++ rest) ↔ TrimmedAuthority rest := by
  refine ⟨fun hprobeable => ?_, Probeable.https rest⟩
  generalize htext : str "https://" ++ rest = text at hprobeable
  cases hprobeable with
  | https other htrimmed => rwa [List.append_cancel_left htext]
  | tls other => cases htext
  | plain hv4 hip =>
    rw [← htext] at hip
    exact absurd hip (not_isIpv4Text (c := 'h') (by decide) List.mem_cons_self)

theorem probeable_tls_iff (rest : Str) :
    Probeable (str "tls://" ++ rest) ↔
      TrimmedAuthority rest ∧ startsWith (str "[") rest = false := by
  refine ⟨fun hprobeable => ?_, fun h => Probeable.tls rest h.1 h.2⟩
  generalize htext : str "tls://" ++ rest = text at hprobeable
  cases hprobeable with
  | https other => cases htext
  | tls other htrimmed hbracket =>
    rw [List.append_cancel_left htext]
    exact ⟨htrimmed, hbracket⟩
  | plain hv4 hip =>
    rw [← htext] at hip
    exact absurd hip (not_isIpv4Text (c := 't') (by decide) List.mem_cons_self)

theorem probes_iff_of_plain {lookup : HostLookup}
    (hregistered : nameServersOf lookup preferIpv4 s ≠ [])
    (hhttps : startsWith (str "https://") s = false) (htls : startsWith (str "tls://") s = false) :
    Probes (nameServersOf lookup preferIpv4 s) (plainConfig s) ↔ IsIpv4Text s := by
  cases s with
  | nil => exact absurd rfl hregistered
  | cons c rest =>
    by_cases hc : isWhitespace c = true
    · exact probes_iff_of_mem (isForeign_of_isWhitespace hc) List.mem_cons_self _
    rw [Bool.not_eq_true] at hc
    have hsplit := List.rdropWhile_append_rtakeWhile (p := isWhitespace) (l := rest)
    by_cases hspace : rest.rtakeWhile isWhitespace = []
    · have htrim : trim (c :: rest) = c :: rest := by
        rw [hspace, List.append_nil] at hsplit
        rw [trim_cons hc, hsplit]
      unfold nameServersOf at hregistered ⊢
      rw [htrim] at hregistered ⊢
      simp only [hhttps, htls, Bool.false_eq_true, if_false] at hregistered ⊢
      cases hudp : stripPrefix (str "udp://") (c :: rest) with
      | some inner =>
        rw [stripPrefix_eq_some.mp hudp]
        exact probes_iff_of_mem (c := 'u') (by decide) List.mem_cons_self _
      | none =>
        simp only [hudp] at hregistered
        cases htcp : stripPrefix (str "tcp://") (c :: rest) with
        | some inner =>
          rw [stripPrefix_eq_some.mp htcp]
          exact probes_iff_of_mem (c := 't') (by decide) List.mem_cons_self _
        | none =>
          simp only [htcp] at hregistered
          exact probes_plain hregistered
    · obtain ⟨d, hd⟩ := List.exists_mem_of_ne_nil _ hspace
      have hmem : d ∈ c :: rest := by
        rw [← hsplit]
        exact List.mem_cons_of_mem c (List.mem_append_right _ hd)
      exact probes_iff_of_mem (isForeign_of_isWhitespace (List.mem_rtakeWhile_imp hd)) hmem _

/-- **Which addresses are probed rightly.**  For a string that registers name
servers, both probes connect to the same protocol, host and port exactly when it is
probeable. -/
theorem probes_iff (lookup : HostLookup) (preferIpv4 : Bool) (s : Str)
    (hregistered : DnsResolver.nameServers lookup ⟨[s], preferIpv4⟩ ≠ []) :
    Probes (DnsResolver.nameServers lookup ⟨[s], preferIpv4⟩) (checkConfig lookup s) ∧
        Probes (DnsResolver.nameServers lookup ⟨[s], preferIpv4⟩) (testConfig lookup s) ↔
      Probeable s := by
  rw [DnsResolver.nameServers_singleton] at hregistered ⊢
  by_cases hhttps : startsWith (str "https://") s = true
  · obtain ⟨rest, rfl⟩ := List.isPrefixOf_iff_prefix.mp hhttps
    rw [probes_https rfl hregistered, probeable_https_iff]
  by_cases htls : startsWith (str "tls://") s = true
  · obtain ⟨rest, rfl⟩ := List.isPrefixOf_iff_prefix.mp htls
    rw [probes_tls rfl hregistered, probeable_tls_iff]
  rw [Bool.not_eq_true] at hhttps htls
  obtain ⟨hcheck, htest⟩ := configs_plain lookup hhttps htls
  rw [hcheck, htest, and_self, probeable_iff_of_plain hhttps htls]
  exact probes_iff_of_plain hregistered hhttps htls

/-- An upstream with an explicit scheme is registered, but both probes refuse it. -/
theorem not_probes_udp :
    DnsResolver.nameServers (fun _ => none) ⟨[str "udp://1.1.1.1"], false⟩ ≠ [] ∧
      checkConfig (fun _ => none) (str "udp://1.1.1.1") = none ∧
      testConfig (fun _ => none) (str "udp://1.1.1.1") = none ∧
      -- the last group of an IPv6 address is taken for the port
      DnsResolver.nameServers (fun _ => none) ⟨[str "1::2:3"], false⟩ =
        [⟨.udp, ⟨IpAddr.ofGroups [1, 0, 0, 0, 0, 0, 2, 3], 0, 53⟩, none⟩] ∧
      checkConfig (fun _ => none) (str "1::2:3") =
        some [⟨.udp, ⟨IpAddr.ofGroups [1, 0, 0, 0, 0, 0, 0, 2], 0, 3⟩, none⟩] := by
  decide +kernel

/-- A plain IPv4 address is probed rightly. -/
theorem probes_ipv4 :
    DnsResolver.nameServers (fun _ => none) ⟨[str "9.9.9.9:5353"], true⟩ ≠ [] ∧
      Probes (DnsResolver.nameServers (fun _ => none) ⟨[str "9.9.9.9:5353"], true⟩)
        (checkConfig (fun _ => none) (str "9.9.9.9:5353")) ∧
      Probes (DnsResolver.nameServers (fun _ => none) ⟨[str "9.9.9.9:5353"], true⟩)
        (testConfig (fun _ => none) (str "9.9.9.9:5353")) := by
  have hregistered : DnsResolver.nameServers (fun _ => none) ⟨[str "9.9.9.9:5353"], true⟩ ≠ [] := by
    decide +kernel
  refine ⟨hregistered, (probes_iff _ _ _ hregistered).mpr (.plain _ (Or.inr ?_))⟩
  exact ⟨⟨.v4 9 9 9 9, 0, 5353⟩, by decide +kernel, rfl⟩

end RustDns.Api.Connectivity
