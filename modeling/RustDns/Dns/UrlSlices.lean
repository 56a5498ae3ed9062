import RustDns.Dns.NameServers
import RustDns.TextSlices

/-!
# The URLs of encrypted upstreams, read by position

`parse_dot_url` and `parse_doh_url` slice the URL at the positions of slashes,
brackets and colons.  Here the two functions are written with these slices, any of
which could panic, and with the texts of their errors.  `NameServers.lean` has what
they compute without the positions.

`Agrees` relates a parser that can panic to one that cannot: both return the same,
or the first returns an error and the second nothing.  It is kept by `bind`
(`Agrees.bind`), so that each slice is looked at once, where it is taken: behind a
character of one byte, where there is a boundary.
-/

namespace RustDns.UrlSlices

open Text

inductive Failure where
  | error (message : Str)
  | panics
deriving DecidableEq

def index (found : Option Str) : Except Failure Str := found.elim (.error .panics) .ok

/-- `Option::ok_or_else`, and `Result::map_err` for a result whose error is not
looked at. -/
def okOrElse {α : Type} (found : Option α) (message : Str) : Except Failure α :=
  found.elim (.error (.error message)) .ok

def bracketPort (defaultPort : UInt16) (url portPart : Str) : Except Failure UInt16 :=
  if portPart.isEmpty then .ok defaultPort
  else
    okOrElse ((stripPrefix (str ":") portPart).bind parseU16) (str "Invalid port in URL: " ++ url)

/-- The host and the port of the authority of `url`, which the two parsers read in
the same way. -/
def hostPort (defaultPort : UInt16) (url authority : Str) : Except Failure (Str × UInt16) :=
  if startsWith (str "[") authority then do
    let endBracket ← okOrElse (rfind ']' authority) (str "Malformed IPv6 address in URL: " ++ url)
    let hostPart ← index (slice authority 1 endBracket)
    let portPart ← index (sliceFrom authority (endBracket + 1))
    let port ← bracketPort defaultPort url portPart
    return (hostPart, port)
  else
    match rfind ':' authority with
    | some idx => do
      let hostPart ← index (sliceTo authority idx)
      let portStr ← index (sliceFrom authority (idx + 1))
      let port ← okOrElse (parseU16 portStr)
        (str "Invalid port '" ++ portStr ++ str "' in URL: " ++ url)
      return (hostPart, port)
    | none => .ok (authority, defaultPort)

def dotAuthority (rest : Str) : Except Failure Str :=
  match find '/' rest with
  | some idx => index (sliceTo rest idx)
  | none => .ok rest

def dohAuthority (rest : Str) : Except Failure (Str × Str) :=
  match find '/' rest with
  | some idx => do
    let authority ← index (sliceTo rest idx)
    let path ← index (sliceFrom rest idx)
    return (authority, path)
  | none => .ok (rest, str "/dns-query")

def parseDotUrl (url : Str) : Except Failure (Str × UInt16) := do
  let rest ← okOrElse (stripPrefix (str "tls://") url) (str "URL must start with tls://: " ++ url)
  if rest.isEmpty then .error (.error (str "Empty host in DoT URL: " ++ url))
  else
    let authority ← dotAuthority rest
    let (host, port) ← hostPort 853 url authority
    if host.isEmpty then .error (.error (str "Empty host in DoT URL: " ++ url))
    else .ok (host, port)

def parseDohUrl (url : Str) : Except Failure (Str × UInt16 × Str) := do
  let rest ← okOrElse (stripPrefix (str "https://") url)
    (str "URL must start with https://: " ++ url)
  if rest.isEmpty then .error (.error (str "Empty host in DoH URL: " ++ url))
  else
    let (authority, path) ← dohAuthority rest
    let (host, port) ← hostPort 443 url authority
    if host.isEmpty then .error (.error (str "Empty host in DoH URL: " ++ url))
    else .ok (host, port, path)

/-! ## No slice panics -/

/-- A parser that does not panic and returns `read`, or an error if that is
`none`. -/
def Agrees {α : Type} : Except Failure α → Option α → Prop
  | .ok found, read => read = some found
  | .error (.error _), read => read = none
  | .error .panics, _ => False

section Agrees

variable {α β : Type} {parsed : Except Failure α} {read : Option α}

theorem Agrees.ne_panics (h : Agrees parsed read) : parsed ≠ .error .panics := by
  rintro rfl
  exact h

theorem Agrees.eq_ok {found : α} (h : Agrees parsed (some found)) : parsed = .ok found := by
  match parsed, h with
  | .ok _, h => rw [Option.some.inj h]

theorem agrees_okOrElse (message : Str) : Agrees (okOrElse read message) read := by
  cases read <;> rfl

theorem Agrees.bind {next : α → Except Failure β} {then_ : α → Option β} (h : Agrees parsed read)
    (hnext : ∀ found, Agrees (next found) (then_ found)) :
    Agrees (parsed >>= next) (read.bind then_) := by
  match parsed, h with
  | .ok found, h =>
    rw [show read = some found from h]
    exact hnext found
  | .error (.error _), h =>
    rw [show read = none from h]
    rfl

end Agrees

@[simp]
theorem index_some_bind {α : Type} (s : Str) (next : Str → Except Failure α) :
    (index (some s) >>= next) = next s := rfl

theorem agrees_bracketPort (defaultPort : UInt16) (url portPart : Str) :
    Agrees (bracketPort defaultPort url portPart)
      (if portPart.isEmpty then some defaultPort
        else (stripPrefix (str ":") portPart).bind parseU16) := by
  unfold bracketPort
  split_ifs
  · rfl
  · exact agrees_okOrElse _

theorem agrees_hostPort_bracket (defaultPort : UInt16) (url inner : Str) :
    Agrees (hostPort defaultPort url ('[' :: inner))
      (RustDns.hostPort defaultPort ('[' :: inner)) := by
  have hstart : startsWith (str "[") ('[' :: inner) = true := by simp [startsWith, str]
  rw [hostPort, if_pos hstart]
  cases hfind : rfind ']' inner with
  | none =>
    have hnot := rfind_eq_none.mp hfind
    have hnone : rfind ']' ('[' :: inner) = none := rfind_eq_none.mpr (by simp [hnot])
    rw [hnone, RustDns.hostPort, rsplitOnce_eq_none.mpr hnot]
    rfl
  | some position =>
    obtain ⟨host, portPart, rfl, hback, rfl⟩ := exists_append_of_rfind hfind
    have hend : rfind ']' ('[' :: (host ++ ']' :: portPart)) = some (len ['['] + len host) := by
      rw [rfind, hfind]
      rfl
    have hslice : slice ('[' :: (host ++ ']' :: portPart)) 1 (len ['['] + len host) =
        some host := slice_append ['['] host (']' :: portPart)
    have hrest : sliceFrom ('[' :: (host ++ ']' :: portPart)) (len ['['] + len host + 1) =
        some portPart := by
      rw [← len_append]
      exact sliceFrom_append_cons (['['] ++ host) ']' portPart
    have hread : RustDns.hostPort defaultPort ('[' :: (host ++ ']' :: portPart)) =
        (if portPart.isEmpty then some defaultPort
          else (stripPrefix (str ":") portPart).bind parseU16).bind fun port =>
            some (host, port) := by
      rw [RustDns.hostPort, rsplitOnce_append host hback]
      cases portPart <;> rfl
    rw [hend, hread]
    change Agrees (index (slice _ 1 (len ['['] + len host)) >>= fun hostPart =>
      index (sliceFrom _ (len ['['] + len host + 1)) >>= fun portPart =>
        bracketPort defaultPort url portPart >>= fun port => .ok (hostPart, port)) _
    rw [hslice, hrest, index_some_bind, index_some_bind]
    exact (agrees_bracketPort defaultPort url portPart).bind fun port => rfl

theorem agrees_hostPort (defaultPort : UInt16) (url authority : Str) :
    Agrees (hostPort defaultPort url authority) (RustDns.hostPort defaultPort authority) := by
  by_cases hbracket : startsWith (str "[") authority = true
  · obtain ⟨inner, rfl⟩ := List.isPrefixOf_iff_prefix.mp hbracket
    exact agrees_hostPort_bracket defaultPort url inner
  · rw [hostPort, if_neg hbracket, hostPort_eq_splitPort (by simpa using hbracket), splitPort]
    cases hfind : rfind ':' authority with
    | none =>
      rw [rsplitOnce_eq_none.mpr (rfind_eq_none.mp hfind)]
      rfl
    | some position =>
      obtain ⟨host, portStr, rfl, hback, rfl⟩ := exists_append_of_rfind hfind
      rw [rsplitOnce_append host hback]
      dsimp only
      rw [sliceTo_append, index_some_bind,
        show len host + 1 = len host + ':'.utf8Size from rfl, sliceFrom_append_cons,
        index_some_bind, Option.map_eq_bind]
      exact (agrees_okOrElse _).bind fun port => rfl

theorem authority_of_find_eq_none {rest : Str} (hfind : find '/' rest = none) :
    authority rest = rest := by
  have hhead : ∀ d ∈ ([] : Str).head?, d = '/' := by simp
  have hwhole := splitNext_append (find_eq_none.mp hfind) hhead
  rwa [List.append_nil] at hwhole

theorem dotAuthority_eq (rest : Str) : dotAuthority rest = .ok (authority rest) := by
  unfold dotAuthority
  cases hfind : find '/' rest with
  | none => rw [authority_of_find_eq_none hfind]
  | some position =>
    dsimp only
    rw [sliceTo_of_find hfind]
    rfl

theorem dohAuthority_eq (rest : Str) :
    dohAuthority rest = .ok (authority rest,
      if '/' ∈ rest then rest.dropWhile (· != '/') else str "/dns-query") := by
  unfold dohAuthority
  cases hfind : find '/' rest with
  | none => rw [authority_of_find_eq_none hfind, if_neg (find_eq_none.mp hfind)]
  | some position =>
    have hslash : '/' ∈ rest := by
      by_contra hnot
      rw [find_eq_none.mpr hnot] at hfind
      cases hfind
    dsimp only
    rw [sliceTo_of_find hfind, sliceFrom_of_find hfind, if_pos hslash]
    rfl

/-- **No slice of `parse_dot_url` panics**, and it computes what `parseDotUrl` of
`NameServers.lean` does. -/
theorem agrees_parseDotUrl (url : Str) : Agrees (parseDotUrl url) (RustDns.parseDotUrl url) := by
  unfold parseDotUrl RustDns.parseDotUrl
  refine (agrees_okOrElse _).bind fun rest => ?_
  by_cases hempty : rest.isEmpty = true
  · rw [if_pos hempty, if_pos hempty]
    rfl
  · rw [if_neg hempty, if_neg hempty, dotAuthority_eq]
    refine (agrees_hostPort 853 url (authority rest)).bind fun (host, port) => ?_
    dsimp only
    split_ifs <;> rfl

theorem agrees_parseDohUrl (url : Str) : Agrees (parseDohUrl url) (RustDns.parseDohUrl url) := by
  unfold parseDohUrl RustDns.parseDohUrl
  refine (agrees_okOrElse _).bind fun rest => ?_
  by_cases hempty : rest.isEmpty = true
  · rw [if_pos hempty, if_pos hempty]
    rfl
  · rw [if_neg hempty, if_neg hempty, dohAuthority_eq]
    refine (agrees_hostPort 443 url (authority rest)).bind fun (host, port) => ?_
    dsimp only
    split_ifs <;> rfl

/-! ## A URL and its parts -/

inductive UrlHost where
  | name (text : Str) (hne : text ≠ []) (hplain : ∀ c ∈ str "/:[]", c ∉ text)
  | literal (text : Str) (hread : (IpAddr.parseIpv6 text).isSome = true)

def UrlHost.host : UrlHost → Str
  | .name text _ _ => text
  | .literal text _ => text

def UrlHost.text : UrlHost → Str
  | .name text _ _ => text
  | .literal text _ => str "[" ++ text ++ str "]"

structure UrlPath where
  text : Str
  rooted : text = [] ∨ text.head? = some '/'

def portText : Option UInt16 → Str
  | some port => str ":" ++ Decimal.showNat port.toNat
  | none => []

def urlText (scheme : Str) (host : UrlHost) (port : Option UInt16) (path : UrlPath) : Str :=
  scheme ++ (host.text ++ portText port ++ path.text)

theorem notMem_portText {c : Char} (hcolon : c ≠ ':') (hdigit : c.isDigit = false)
    (port : Option UInt16) : c ∉ portText port := by
  cases port with
  | none => exact List.not_mem_nil
  | some port =>
    have hshow : c ∉ Decimal.showNat port.toNat := fun hmem => by
      rw [Decimal.isDigit_of_mem_showNat hmem] at hdigit
      cases hdigit
    simpa [portText, str, hcolon] using hshow

theorem UrlHost.host_ne_nil (host : UrlHost) : host.host ≠ [] := by
  cases host with
  | name text hne _ => exact hne
  | literal text hread =>
    rintro rfl
    exact absurd hread (by decide +kernel)

theorem UrlHost.text_ne_nil (host : UrlHost) : host.text ≠ [] := by
  cases host with
  | name text hne _ => exact hne
  | literal text _ => exact List.cons_ne_nil _ _

theorem UrlHost.slash_notMem_text (host : UrlHost) : '/' ∉ host.text := by
  cases host with
  | name text _ hplain => exact hplain '/' (by decide)
  | literal text hread =>
    obtain ⟨ip, hparse⟩ :=
      Option.isSome_iff_exists.mp ((IpAddr.isSome_parse_iff text).mpr (Or.inr hread))
    have hslash : '/' ∉ text := fun hmem =>
      absurd (IpAddr.isLiteralChar_of_parse hparse '/' hmem) (by decide)
    simpa [UrlHost.text, str] using hslash

theorem hostPort_text (defaultPort : UInt16) (host : UrlHost) (port : Option UInt16) :
    RustDns.hostPort defaultPort (host.text ++ portText port) =
      some (host.host, port.getD defaultPort) := by
  cases host with
  | name text hne hplain =>
    have hbracket : startsWith (str "[") (text ++ portText port) = false := by
      cases text with
      | nil => exact absurd rfl hne
      | cons c rest =>
        have hc : c ≠ '[' := fun heq => hplain '[' (by decide) (by simp [heq])
        exact startsWith_cons_eq_false hc _ _
    have hcolon : ':' ∉ text := hplain ':' (by decide)
    change RustDns.hostPort defaultPort (text ++ portText port) = _
    rw [hostPort_eq_splitPort hbracket, splitPort]
    cases port with
    | none =>
      rw [portText, List.append_nil, rsplitOnce_eq_none.mpr hcolon]
      rfl
    | some port =>
      have hport := parseU16_showNat port
      have hdigits : ':' ∉ Decimal.showNat port.toNat :=
        IpAddr.not_mem_of_parseU16 hport (by decide) (by decide)
      have hsplit : rsplitOnce ':' (text ++ portText (some port)) =
          some (text, Decimal.showNat port.toNat) := rsplitOnce_append text hdigits
      rw [hsplit]
      dsimp only
      rw [hport]
      rfl
  | literal text hread =>
    have hback : ']' ∉ portText port := notMem_portText (by decide) (by decide) port
    have hauthority : (UrlHost.literal text hread).text ++ portText port =
        '[' :: (text ++ ']' :: portText port) := by simp [UrlHost.text, str]
    rw [hauthority, RustDns.hostPort, rsplitOnce_append text hback]
    cases port with
    | none => rfl
    | some port =>
      have hstrip : stripPrefix (str ":") (portText (some port)) =
          some (Decimal.showNat port.toNat) := stripPrefix_eq_some.mpr rfl
      change ((stripPrefix (str ":") (portText (some port))).bind parseU16).bind
        (fun port => some (text, port)) = _
      rw [hstrip, Option.bind_some, parseU16_showNat]
      rfl

/-- What `parse_doh_url` returns for a path. -/
def UrlPath.orDefault (path : UrlPath) : Str :=
  if path.text.isEmpty then str "/dns-query" else path.text

section Parts

variable (host : UrlHost) (port : Option UInt16) (path : UrlPath)

theorem slash_notMem_authority : '/' ∉ host.text ++ portText port := by
  simp [host.slash_notMem_text, notMem_portText]

omit host port in
theorem UrlPath.head_eq : ∀ c ∈ path.text.head?, c = '/' := by
  rcases path.rooted with hnil | hslash
  · simp [hnil]
  · simp [hslash]

theorem authority_append_path :
    authority (host.text ++ portText port ++ path.text) = host.text ++ portText port :=
  splitNext_append (slash_notMem_authority host port) path.head_eq

theorem path_append_path :
    (if '/' ∈ host.text ++ portText port ++ path.text then
      (host.text ++ portText port ++ path.text).dropWhile (· != '/') else str "/dns-query") =
        path.orDefault := by
  have hslash := slash_notMem_authority host port
  rw [dropWhile_append hslash path.head_eq, UrlPath.orDefault]
  rcases path.rooted with hnil | hhead
  · rw [hnil, List.append_nil, if_neg hslash]
    rfl
  · have hmem : '/' ∈ path.text := List.mem_of_mem_head? hhead
    have hne : ¬ path.text.isEmpty = true := by simpa using List.ne_nil_of_mem hmem
    rw [if_pos (List.mem_append_right _ hmem), if_neg hne]

theorem parseDotUrl_urlText :
    RustDns.parseDotUrl (urlText (str "tls://") host port path) =
      some (host.host, port.getD 853) := by
  rw [urlText, parseDotUrl_append, authority_append_path, hostPort_text]
  simp [host.host_ne_nil]

theorem parseDohUrl_urlText :
    RustDns.parseDohUrl (urlText (str "https://") host port path) =
      some (host.host, port.getD 443, path.orDefault) := by
  have hstrip : stripPrefix (str "https://") (urlText (str "https://") host port path) =
      some (host.text ++ portText port ++ path.text) := stripPrefix_eq_some.mpr rfl
  have hne : (host.text ++ portText port ++ path.text).isEmpty = false := by
    simp [host.text_ne_nil]
  rw [RustDns.parseDohUrl, hstrip]
  simp only [Option.bind_eq_bind, Option.bind_some, hne, path_append_path, authority_append_path,
    hostPort_text]
  simp [host.host_ne_nil]

end Parts

/-- **URLs are read back.**  No string makes one of the two parsers panic, and a URL
that is put together from a host, a port and a path is read as these, with the
default for what is left out. -/
theorem parses_urlText :
    (∀ url, parseDohUrl url ≠ .error .panics ∧ parseDotUrl url ≠ .error .panics) ∧
      ∀ (host : UrlHost) (port : Option UInt16) (path : UrlPath),
        parseDohUrl (urlText (str "https://") host port path) =
            .ok (host.host, port.getD 443, path.orDefault) ∧
          parseDotUrl (urlText (str "tls://") host port path) =
            .ok (host.host, port.getD 853) := by
  refine ⟨fun url => ⟨(agrees_parseDohUrl url).ne_panics, (agrees_parseDotUrl url).ne_panics⟩, ?_⟩
  intro host port path
  have hdoh := agrees_parseDohUrl (urlText (str "https://") host port path)
  have hdot := agrees_parseDotUrl (urlText (str "tls://") host port path)
  rw [parseDohUrl_urlText] at hdoh
  rw [parseDotUrl_urlText] at hdot
  exact ⟨hdoh.eq_ok, hdot.eq_ok⟩

end RustDns.UrlSlices
