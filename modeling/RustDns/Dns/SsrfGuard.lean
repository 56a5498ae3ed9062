import RustDns.Net.Url

/-!
# The guard of the downloads

`validate_filter_url` refuses the URL of a filter list if its host is an address within a private
network, and `fetch_remote_filter` asks it before it sends a request.  The guard parses the text of
the host as an address.  `Url::host_str` puts an IPv6 address in brackets, and with the brackets it
is no address for the parser: the URL passes like one with a host name.

So of the private addresses the guard refuses the IPv4 ones, in whatever notation the URL has them,
and none of the IPv6 ones (`refuses_iff_isIpv4`).
-/

namespace RustDns.SsrfGuard

open Text

/-- `anyhow::Error`: its messages, the outermost first. -/
abbrev Messages := List Str

def context {α : Type} (message : String) (result : Except Messages α) : Except Messages α :=
  result.mapError (str message :: ·)

/-! ## Private addresses -/

/-- `is_private_ip` on an IPv4 address. -/
def isPrivateIpv4 (a b c d : UInt8) : Bool :=
  -- loopback
  a == 127
  -- private
  || a == 10 || (a == 172 && 16 ≤ b && b ≤ 31) || (a == 192 && b == 168)
  -- link-local
  || (a == 169 && b == 254)
  -- broadcast
  || (a == 255 && b == 255 && c == 255 && d == 255)
  -- documentation
  || (a == 192 && b == 0 && c == 2) || (a == 198 && b == 51 && c == 100)
  || (a == 203 && b == 0 && c == 113)
  -- unspecified
  || (a == 0 && b == 0 && c == 0 && d == 0)

/-- `is_private_ip` on an IPv6 address. -/
def isPrivateIpv6 (segments : Fin 8 → UInt16) : Bool :=
  -- loopback and unspecified
  List.ofFn segments == [0, 0, 0, 0, 0, 0, 0, 1] || List.ofFn segments == [0, 0, 0, 0, 0, 0, 0, 0]
  -- unique local
  || (segments 0 &&& 0xfe00) == 0xfc00
  -- link-local
  || (segments 0 &&& 0xffc0) == 0xfe80

def isPrivateIp : IpAddr → Bool
  | .v4 a b c d => isPrivateIpv4 a b c d
  | .v6 segments => isPrivateIpv6 segments

/-! ## The guard and the download -/

def maxResponseSize : ℕ := 10 * 1024 * 1024

structure Response where
  status : Str
  isSuccess : Bool
  contentLength : Option ℕ
  bytes : Except Messages (List UInt8)

/-- `reqwest`: whether a client can be built, and what a request comes back with. -/
structure Reqwest where
  build : Except Messages Unit
  send : Str → Except Messages Response

section Guard

variable [UrlCrate]

def validateFilterUrl (url : Str) : Except Messages Unit := do
  let parsed ← context "Invalid URL" ((UrlCrate.parse url).mapError ([·]))
  let scheme := UrlCrate.scheme parsed
  if scheme ≠ str "http" ∧ scheme ≠ str "https" then
    throw [str "Disallowed URL scheme '" ++ scheme ++
      str "': only http and https are permitted"]
  match UrlCrate.hostStr parsed with
  | none => throw [str "URL has no host"]
  | some host =>
    match IpAddr.parse host with
    | some ip =>
      if isPrivateIp ip then
        throw [str "Filter list URL points to a private/loopback IP '" ++ ip.display ++
          str "' — SSRF not allowed"]
      else pure ()
    -- a name is left to the resolver
    | none => pure ()

omit [UrlCrate] in
/-- What `fetch_remote_filter` makes of a response. -/
def readResponse (response : Response) : Except Messages Str := do
  if !response.isSuccess then throw [str "HTTP error: " ++ response.status]
  if let some len := response.contentLength then
    if maxResponseSize < len then
      throw [str "Response too large: " ++ Decimal.showNat len ++ str " bytes (Content-Length)"]
  let bytes ← context "Failed to read response body" response.bytes
  if maxResponseSize < bytes.length then
    throw [str "Response too large: " ++ Decimal.showNat bytes.length ++ str " bytes"]
  match String.fromUTF8? ⟨bytes.toArray⟩ with
  | some content => pure content.toList
  | none => throw [str "Filter list response is not valid UTF-8"]

/-- `fetch_remote_filter`: the URLs that a request is sent to, and the result. -/
def fetchRemoteFilter (reqwest : Reqwest) (url : Str) : List Str × Except Messages Str :=
  match context "Filter list URL rejected by SSRF guard" (validateFilterUrl url) with
  | .error error => ([], .error error)
  | .ok () =>
    match context "Failed to create HTTP client" reqwest.build with
    | .error error => ([], .error error)
    | .ok () =>
      ([url], context "Failed to fetch filter list" (reqwest.send url) >>= readResponse)

def Refuses (url : Str) : Prop :=
  (∃ error, validateFilterUrl url = .error error) ∧
    ∀ reqwest, (fetchRemoteFilter reqwest url).1 = []

theorem refuses_iff (url : Str) : Refuses url ↔ ∃ error, validateFilterUrl url = .error error := by
  refine ⟨And.left, fun hrefused => ⟨hrefused, fun reqwest => ?_⟩⟩
  obtain ⟨error, herror⟩ := hrefused
  unfold fetchRemoteFilter
  rw [herror]
  rfl

theorem validateFilterUrl_eq {url : Str} {parsed : UrlCrate.Url} {host : Str}
    (hparse : UrlCrate.parse url = .ok parsed)
    (hscheme : UrlCrate.scheme parsed = str "http" ∨ UrlCrate.scheme parsed = str "https")
    (hhost : UrlCrate.hostStr parsed = some host) :
    (∃ error, validateFilterUrl url = .error error) ↔
      ∃ ip, IpAddr.parse host = some ip ∧ isPrivateIp ip = true := by
  have haccepted : ¬ (UrlCrate.scheme parsed ≠ str "http" ∧
      UrlCrate.scheme parsed ≠ str "https") := by
    rintro ⟨hhttp, hhttps⟩
    exact hscheme.elim hhttp hhttps
  have hguard : validateFilterUrl url = match IpAddr.parse host with
      | some ip =>
        if isPrivateIp ip then
          .error [str "Filter list URL points to a private/loopback IP '" ++ ip.display ++
            str "' — SSRF not allowed"]
        else .ok ()
      | none => .ok () := by
    unfold validateFilterUrl
    rw [hparse]
    simp only [context, Except.mapError, bind, Except.bind, if_neg haccepted, hhost]
    rfl
  rw [hguard]
  cases IpAddr.parse host with
  | none => simp
  | some ip => cases hprivate : isPrivateIp ip <;> simp [hprivate]

/-- **What the guard refuses.**  A URL whose host is a private address is refused, and not asked
for, if and only if the address is an IPv4 address. -/
theorem refuses_iff_isIpv4 [LawfulUrlCrate] {url : Str} {parsed : UrlCrate.Url} {ip : IpAddr}
    (hparse : UrlCrate.parse url = .ok parsed)
    (hscheme : UrlCrate.scheme parsed = str "http" ∨ UrlCrate.scheme parsed = str "https")
    (hhost : UrlCrate.host parsed = some (.ip ip)) (hprivate : isPrivateIp ip = true) :
    Refuses url ↔ ip.isIpv4 = true := by
  rw [refuses_iff]
  cases ip with
  | v4 a b c d =>
    have htext := LawfulUrlCrate.hostStr_v4 hhost
    rw [validateFilterUrl_eq hparse hscheme htext]
    exact iff_of_true ⟨_, IpAddr.parse_showIpv4 a b c d, hprivate⟩ rfl
  | v6 segments =>
    obtain ⟨text, htext⟩ := LawfulUrlCrate.hostStr_v6 hhost
    rw [validateFilterUrl_eq hparse hscheme htext]
    refine iff_of_false ?_ nofun
    rintro ⟨found, hfound, -⟩
    -- no address begins with a bracket
    have hnone : IpAddr.parse (str "[" ++ text ++ str "]") = none :=
      IpAddr.parse_cons_eq_none (c := '[') (by decide) (by decide) _
    rw [hnone] at hfound
    cases hfound

end Guard

section Loopback

attribute [local instance] UrlCrate.plain LawfulUrlCrate.plain

/-- The loopback address of IPv6 passes, and the request is sent. -/
theorem not_refuses_loopback6 :
    isPrivateIp (IpAddr.ofGroups [0, 0, 0, 0, 0, 0, 0, 1]) = true ∧
      UrlCrate.parse (str "http://[::1]/list.txt") =
        .ok (str "http", Host.ip (IpAddr.ofGroups [0, 0, 0, 0, 0, 0, 0, 1])) ∧
      ¬ Refuses (str "http://[::1]/list.txt") := by
  refine ⟨by decide +kernel, rfl, ?_⟩
  rintro ⟨⟨error, herror⟩, -⟩
  have hok : validateFilterUrl (str "http://[::1]/list.txt") = .ok () := rfl
  rw [hok] at herror
  cases herror

/-- That of IPv4 does not. -/
theorem refuses_loopback4 : Refuses (str "https://127.0.0.1/list.txt") :=
  (@refuses_iff_isIpv4 _ _ _ _ (.v4 127 0 0 1) rfl (Or.inr rfl) rfl (by decide)).mpr rfl

end Loopback

end RustDns.SsrfGuard
