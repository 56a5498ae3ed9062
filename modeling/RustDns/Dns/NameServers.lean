import RustDns.Dns.Upstream
import RustDns.Net.SocketAddr
import RustDns.TextPieces

/-!
# The addresses of an upstream

`DnsResolver::with_upstreams` reads each of its strings as an address with one of
several schemes and registers name servers for it.  Names are looked up by the
operating system; what it returns is the parameter `HostLookup`.
-/

namespace RustDns

open Text

/-- `Protocol`, as far as it is used. -/
inductive Protocol where
  | udp
  | tcp
  | tls
  | https
deriving DecidableEq

/-- `NameServerConfig`: where to connect to, and the name that an encrypted
connection asks for. -/
structure NameServer where
  protocol : Protocol
  socketAddr : SocketAddr
  tlsDnsName : Option Str
deriving DecidableEq

/-- The protocol, the host and the port of a name server.  The host of an encrypted
connection is its name, otherwise it is the address. -/
def NameServer.endpoint (server : NameServer) : Protocol × (Str ⊕ IpAddr × UInt32) × UInt16 :=
  (server.protocol,
    server.tlsDnsName.elim (.inr (server.socketAddr.ip, server.socketAddr.scopeId)) .inl,
    server.socketAddr.port)

/-- `to_socket_addrs` on `host:port`, of which only the addresses are used. -/
abbrev HostLookup := Str → Option (List IpAddr)

/-! ## Reading a URL -/

def authority (rest : Str) : Str := splitNext '/' rest

def splitPort (defaultPort : UInt16) (authority : Str) : Option (Str × UInt16) :=
  match rsplitOnce ':' authority with
  | some (host, port) => (parseU16 port).map (host, ·)
  | none => some (authority, defaultPort)

/-- Host and port of an authority.  A host in brackets is taken without them. -/
def hostPort (defaultPort : UInt16) (authority : Str) : Option (Str × UInt16) :=
  match authority with
  | '[' :: inner => do
    let (host, portPart) ← rsplitOnce ']' inner
    if portPart.isEmpty then return (host, defaultPort)
    else
      let port ← (stripPrefix (str ":") portPart).bind parseU16
      return (host, port)
  | _ => splitPort defaultPort authority

def parseDotUrl (url : Str) : Option (Str × UInt16) := do
  let rest ← stripPrefix (str "tls://") url
  if rest.isEmpty then none
  else
    let (host, port) ← hostPort 853 (authority rest)
    if host.isEmpty then none else some (host, port)

def parseDohUrl (url : Str) : Option (Str × UInt16 × Str) := do
  let rest ← stripPrefix (str "https://") url
  if rest.isEmpty then none
  else
    let path := if '/' ∈ rest then rest.dropWhile (· != '/') else str "/dns-query"
    let (host, port) ← hostPort 443 (authority rest)
    if host.isEmpty then none else some (host, port, path)

/-! ## Registering name servers -/

/-- `NameServerConfigGroup::from_ips_tls` and `from_ips_https` for the addresses
of a host, if it has any that are kept. -/
def encryptedServers (lookup : HostLookup) (keep : IpAddr → Bool) (protocol : Protocol) (host : Str)
    (port : UInt16) : Option (List NameServer) := do
  let ips ← lookup (host ++ str ":" ++ str (toString port))
  let ips := ips.filter keep
  if ips.isEmpty then none
  else some (ips.map fun ip => ⟨protocol, ⟨ip, 0, port⟩, some host⟩)

/-- An address without encryption: a socket address, or an IP address and
port 53. -/
def plainServer (preferIpv4 : Bool) (protocol : Protocol) (text : Str) : List NameServer :=
  match SocketAddr.parse text with
  | some address =>
    if preferIpv4 && !address.ip.isIpv4 then [] else [⟨protocol, address, none⟩]
  | none =>
    match IpAddr.parse text with
    | some ip => if preferIpv4 && !ip.isIpv4 then [] else [⟨protocol, ⟨ip, 0, 53⟩, none⟩]
    | none => []

/-- The body of the loop of `with_upstreams`: the name servers of one string. -/
def nameServersOf (lookup : HostLookup) (preferIpv4 : Bool) (upstream : Str) : List NameServer :=
  let upstream := trim upstream
  let keep (ip : IpAddr) : Bool := !preferIpv4 || ip.isIpv4
  if startsWith (str "https://") upstream then
    ((parseDohUrl upstream).bind fun (host, port, _) =>
      encryptedServers lookup keep .https host port).getD []
  else if startsWith (str "tls://") upstream then
    ((parseDotUrl upstream).bind fun (host, port) =>
      encryptedServers lookup keep .tls host port).getD []
  else match stripPrefix (str "udp://") upstream with
    | some rest => plainServer preferIpv4 .udp rest
    | none =>
      match stripPrefix (str "tcp://") upstream with
      | some rest => plainServer preferIpv4 .tcp rest
      | none => plainServer preferIpv4 .udp upstream

/-- The name servers that `with_upstreams` registers.  If there is none, it uses
those of Cloudflare. -/
def DnsResolver.nameServers (lookup : HostLookup) (resolver : DnsResolver) : List NameServer :=
  resolver.upstreams.flatMap (nameServersOf lookup resolver.preferIpv4)

theorem DnsResolver.nameServers_singleton (lookup : HostLookup) (s : Str) (preferIpv4 : Bool) :
    DnsResolver.nameServers lookup ⟨[s], preferIpv4⟩ = nameServersOf lookup preferIpv4 s :=
  List.flatMap_singleton _ _

theorem parseDotUrl_append (rest : Str) :
    parseDotUrl (str "tls://" ++ rest) =
      (hostPort 853 (authority rest)).filter fun read => !read.1.isEmpty := by
  have hstrip : stripPrefix (str "tls://") (str "tls://" ++ rest) = some rest :=
    stripPrefix_eq_some.mpr rfl
  unfold parseDotUrl
  rw [hstrip]
  simp only [Option.bind_eq_bind, Option.bind_some]
  split_ifs with hempty
  · rw [List.isEmpty_iff.mp hempty]
    rfl
  · rcases hostPort 853 (authority rest) with _ | ⟨_ | ⟨c, host⟩, port⟩ <;> rfl

theorem parseDohUrl_append (rest : Str) :
    (parseDohUrl (str "https://" ++ rest)).map (fun read => (read.1, read.2.1)) =
      (hostPort 443 (authority rest)).filter fun read => !read.1.isEmpty := by
  have hstrip : stripPrefix (str "https://") (str "https://" ++ rest) = some rest :=
    stripPrefix_eq_some.mpr rfl
  unfold parseDohUrl
  rw [hstrip]
  by_cases hempty : rest = []
  · rw [hempty]
    rfl
  · simp only [Option.bind_eq_bind, Option.bind_some, List.isEmpty_iff, hempty, if_false]
    rcases hostPort 443 (authority rest) with _ | ⟨_ | ⟨c, host⟩, port⟩ <;> rfl

theorem hostPort_eq_splitPort {defaultPort : UInt16} {authority : Str}
    (hbracket : startsWith (str "[") authority = false) :
    hostPort defaultPort authority = splitPort defaultPort authority := by
  unfold hostPort
  split
  · simp [startsWith, str] at hbracket
  · rfl

variable {lookup : HostLookup} {keep : IpAddr → Bool} {protocol : Protocol} {host : Str}
  {port : UInt16}

theorem encryptedServers_eq_some {servers : List NameServer}
    (hservers : encryptedServers lookup keep protocol host port = some servers) :
    servers ≠ [] ∧ ∀ server ∈ servers, server.endpoint = (protocol, .inl host, port) := by
  unfold encryptedServers at hservers
  obtain ⟨ips, -, hips⟩ := Option.bind_eq_some_iff.mp hservers
  dsimp only at hips
  split_ifs at hips with hempty
  cases hips
  refine ⟨by simpa using hempty, ?_⟩
  simp only [List.mem_map]
  rintro server ⟨ip, -, rfl⟩
  rfl

theorem isSome_encryptedServers
    (hservers : (encryptedServers lookup keep protocol host port).isSome = true) :
    (encryptedServers lookup (fun _ => true) protocol host port).isSome = true := by
  unfold encryptedServers at hservers ⊢
  cases hips : lookup (host ++ str ":" ++ str (toString port)) with
  | none =>
    rw [hips] at hservers
    cases hservers
  | some ips =>
    rw [hips] at hservers
    cases ips with
    | nil => simp at hservers
    | cons ip rest => simp

end RustDns
