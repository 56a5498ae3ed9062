import RustDns.Dns.Wire
import RustDns.Net.Url
import RustDns.Api.LoginWindows

/-!
# The address of a client

`api/middleware/client_ip.rs`: the address that a request is taken to come from, which the limiter
of logins uses as its key.  A peer on a loopback or private address is taken for a proxy, and then
the first entry of `X-Forwarded-For` is the address, or else `X-Real-IP`; any other peer is the
client itself.

A proxy appends the address of its client to what the client has sent in `X-Forwarded-For`, so the
first entry is the client's own unless it has sent none.  `fromRequestParts_forwarded` says what the
client can send for the result to be its address all the same.  A client that the limiter turns away
gets the next attempt under an address that it makes up (`login_forged`).
-/

namespace RustDns.Api.ClientIp

open Text IpAddr

/-! ## Headers -/

inductive HeaderName where
  | xForwardedFor
  | xRealIp
  | other (name : Str)
deriving DecidableEq

abbrev HeaderValue := Bytes

/-- `HeaderMap`: the headers in their order. -/
abbrev HeaderMap := List (HeaderName × HeaderValue)

def valuesOf (name : HeaderName) (headers : HeaderMap) : List HeaderValue :=
  (headers.filter (·.1 = name)).map (·.2)

/-- `HeaderMap::get`: the first value. -/
def getHeader (headers : HeaderMap) (name : HeaderName) : Option HeaderValue :=
  (valuesOf name headers).head?

/-- `is_visible_ascii` of the `http` crate. -/
def isVisibleAscii (b : UInt8) : Bool := (32 ≤ b && b < 127) || b == 9

/-- The bytes of a value as characters. -/
def textOf (value : HeaderValue) : Str := value.map fun b => Char.ofNat b.toNat

/-- The `http` crate: `HeaderValue::to_str` reads a value of visible characters. -/
class HttpCrate where
  toStr : HeaderValue → Option Str
  toStr_eq : ∀ value, toStr value = if value.all isVisibleAscii then some (textOf value) else none

@[reducible] def HttpCrate.visible : HttpCrate where
  toStr value := if value.all isVisibleAscii then some (textOf value) else none
  toStr_eq _ := rfl

/-- The value with the given text. -/
def headerValue (text : Str) : HeaderValue := text.map fun c => UInt8.ofNat c.toNat

/-! ## The extractor -/

def isTrustedPeer : IpAddr → Bool
  | .v4 a b _ _ =>
    -- loopback
    a == 127
    -- private
    || a == 10 || (a == 172 && 16 ≤ b && b ≤ 31) || (a == 192 && b == 168)
  | .v6 segments => List.ofFn segments == [0, 0, 0, 0, 0, 0, 0, 1]

/-- `Parts`: the peer of the connection, if it is known, and the headers. -/
structure Parts where
  peer : Option IpAddr
  headers : HeaderMap

def nonBlank (text : Str) : Option Str :=
  let text := trim text
  if text.isEmpty then none else some text

/-- The address from `X-Forwarded-For`. -/
def forwardedFor [HttpCrate] (headers : HeaderMap) : Option Str := do
  let value ← getHeader headers .xForwardedFor
  let text ← HttpCrate.toStr value
  nonBlank (splitNext ',' text)

/-- The address from `X-Real-IP`. -/
def realIp [HttpCrate] (headers : HeaderMap) : Option Str := do
  let value ← getHeader headers .xRealIp
  let text ← HttpCrate.toStr value
  nonBlank text

def peerText (peer : Option IpAddr) : Str := (peer.map display).getD (str "unknown")

def fromRequestParts [HttpCrate] (parts : Parts) : Str :=
  let trusted := (parts.peer.map isTrustedPeer).getD false
  let fromHeaders :=
    if trusted then (forwardedFor parts.headers).orElse fun _ => realIp parts.headers else none
  fromHeaders.getD (peerText parts.peer)

/-! ## A proxy -/

/-- What a proxy sends on in `X-Forwarded-For`: what it has got, and the address of its client. -/
def forwardedValue (sent : List HeaderValue) (client : IpAddr) : HeaderValue :=
  sent.foldr (fun value rest => value ++ headerValue (str ", ") ++ rest)
    (headerValue (display client))

def forward (client : IpAddr) (headers : HeaderMap) : HeaderMap :=
  (HeaderName.xForwardedFor, forwardedValue (valuesOf .xForwardedFor headers) client) ::
    headers.filter (·.1 ≠ .xForwardedFor)

/-- The first address of `X-Forwarded-For` as the client has sent it: what stands before the first
comma, if all of it can be read and that part is not blank. -/
def firstSent (sent : List HeaderValue) : Option Str :=
  if sent.all (·.all isVisibleAscii) then nonBlank (splitNext ',' (textOf (sent.headD [])))
  else none

/-- The client has sent no `X-Forwarded-For`, or its own address comes first there; if no address
does, then in `X-Real-IP`, or else it is the address of the peer. -/
def SendsOwnAddress [HttpCrate] (peer client : IpAddr) (headers : HeaderMap) : Prop :=
  let sent := valuesOf .xForwardedFor headers
  sent = [] ∨ ((firstSent sent).orElse fun _ => realIp headers).getD (display peer) = display client

instance [HttpCrate] (peer client : IpAddr) (headers : HeaderMap) :
    Decidable (SendsOwnAddress peer client headers) :=
  inferInstanceAs (Decidable (_ ∨ _))

/-! ## What the extractor finds -/

theorem valuesOf_filter_ne {name other : HeaderName} (hne : name ≠ other) (headers : HeaderMap) :
    valuesOf name (headers.filter (·.1 ≠ other)) = valuesOf name headers := by
  unfold valuesOf
  rw [List.filter_filter]
  congr 2
  funext header
  by_cases hname : header.1 = name
  · simp [hname, hne]
  · simp [hname]

variable (client : IpAddr)

theorem realIp_forward [HttpCrate] (headers : HeaderMap) :
    realIp (forward client headers) = realIp headers := by
  have hvalues : valuesOf .xRealIp (forward client headers) = valuesOf .xRealIp headers := by
    have hne : HeaderName.xRealIp ≠ .xForwardedFor := by decide
    rw [← valuesOf_filter_ne hne headers]
    simp [forward, valuesOf]
  unfold realIp getHeader
  rw [hvalues]

theorem getHeader_forward (headers : HeaderMap) :
    getHeader (forward client headers) .xForwardedFor =
      some (forwardedValue (valuesOf .xForwardedFor headers) client) := by
  simp [getHeader, valuesOf, forward]

structure IsPlainChar (c : Char) : Prop where
  visible : isVisibleAscii (UInt8.ofNat c.toNat) = true
  read : Char.ofNat (UInt8.ofNat c.toNat).toNat = c
  comma : (c != ',') = true
  dense : isWhitespace c = false

theorem isPlainChar_of_isAddressChar {c : Char} (hc : isAddressChar c = true) : IsPlainChar c := by
  have hall : (str "0123456789abcdef.:").all (fun c =>
      isVisibleAscii (UInt8.ofNat c.toNat) && Char.ofNat (UInt8.ofNat c.toNat).toNat == c &&
        (c != ',') && !isWhitespace c) = true := by
    decide +kernel
  have hchar := List.all_eq_true.mp hall c (List.contains_iff_mem.mp hc)
  rw [Bool.and_eq_true, Bool.and_eq_true, Bool.and_eq_true, beq_iff_eq, Bool.not_eq_true'] at hchar
  exact ⟨hchar.1.1.1, hchar.1.1.2, hchar.1.2, hchar.2⟩

theorem all_display : (headerValue (display client)).all isVisibleAscii = true := by
  rw [List.all_eq_true]
  intro b hb
  obtain ⟨c, hc, rfl⟩ := List.mem_map.mp hb
  exact (isPlainChar_of_isAddressChar (isAddressChar_of_mem_display client c hc)).visible

theorem toStr_display [HttpCrate] :
    HttpCrate.toStr (headerValue (display client)) = some (display client) := by
  have hplain := fun c hc => isPlainChar_of_isAddressChar (isAddressChar_of_mem_display client c hc)
  rw [HttpCrate.toStr_eq, if_pos (all_display client), textOf, headerValue, List.map_map]
  congr 1
  exact (List.map_congr_left fun c hc => (hplain c hc).read).trans (List.map_id _)

theorem nonBlank_display : nonBlank (splitNext ',' (display client)) = some (display client) := by
  have hplain := fun c hc => isPlainChar_of_isAddressChar (isAddressChar_of_mem_display client c hc)
  have hfirst : splitNext ',' (display client) = display client :=
    List.takeWhile_eq_self_iff.mpr fun c hc => (hplain c hc).comma
  have htrim : trim (display client) = display client :=
    trim_eq_self (fun c hc => (hplain c (List.mem_of_mem_head? hc)).dense)
      fun c hc => (hplain c (List.mem_of_mem_getLast? hc)).dense
  rw [hfirst, nonBlank, htrim, if_neg]
  simpa using display_ne_nil client

theorem all_forwardedValue (sent : List HeaderValue) (client : IpAddr) :
    (forwardedValue sent client).all isVisibleAscii = sent.all (·.all isVisibleAscii) := by
  induction sent with
  | nil =>
    rw [forwardedValue, List.foldr_nil, all_display]
    rfl
  | cons value rest ih =>
    change List.all (value ++ headerValue (str ", ") ++ forwardedValue rest client)
      isVisibleAscii = _
    rw [List.all_append, List.all_append, ih, List.all_cons,
      show (headerValue (str ", ")).all isVisibleAscii = true by decide, Bool.and_true]

theorem splitNext_forwardedValue (value : HeaderValue) (rest : List HeaderValue) (client : IpAddr) :
    splitNext ',' (textOf (forwardedValue (value :: rest) client)) =
      splitNext ',' (textOf value) := by
  have htext : textOf (forwardedValue (value :: rest) client) =
      textOf value ++ ',' :: ' ' :: textOf (forwardedValue rest client) := by
    change textOf ((value ++ headerValue (str ", ")) ++ forwardedValue rest client) = _
    simp [textOf, show headerValue (str ", ") = [44, 32] by decide]
  have hcomma : ∀ tail : Str, (',' :: tail).takeWhile (· != ',') = [] := by simp
  rw [htext, splitNext, splitNext, List.takeWhile_append]
  split_ifs with hwhole
  · rw [hcomma, List.append_nil]
    exact (( List.takeWhile_prefix _).eq_of_length hwhole).symm
  · rfl

variable {headers : HeaderMap}

theorem forwardedFor_forward_nil [HttpCrate] (hsent : valuesOf .xForwardedFor headers = []) :
    forwardedFor (forward client headers) = some (display client) := by
  rw [forwardedFor, getHeader_forward, hsent]
  change (HttpCrate.toStr (headerValue (display client))).bind _ = _
  rw [toStr_display]
  exact nonBlank_display client

theorem forwardedFor_forward_cons [HttpCrate] (hsent : valuesOf .xForwardedFor headers ≠ []) :
    forwardedFor (forward client headers) = firstSent (valuesOf .xForwardedFor headers) := by
  cases hvalues : valuesOf .xForwardedFor headers with
  | nil => exact absurd hvalues hsent
  | cons value rest =>
    rw [forwardedFor, getHeader_forward, hvalues, firstSent]
    change (HttpCrate.toStr (forwardedValue (value :: rest) client)).bind _ = _
    have hvisible := all_forwardedValue (value :: rest) client
    by_cases hall : (value :: rest).all (·.all isVisibleAscii) = true
    · rw [HttpCrate.toStr_eq, if_pos (hvisible.trans hall), if_pos hall]
      change nonBlank (splitNext ',' (textOf (forwardedValue (value :: rest) client))) =
        nonBlank (splitNext ',' (textOf value))
      rw [splitNext_forwardedValue]
    · rw [HttpCrate.toStr_eq, if_neg (by rwa [hvisible]), if_neg hall]
      rfl

theorem fromRequestParts_forward [HttpCrate] {peer : IpAddr} (htrusted : isTrustedPeer peer = true)
    (client : IpAddr) (headers : HeaderMap) :
    fromRequestParts ⟨some peer, forward client headers⟩ =
      ((forwardedFor (forward client headers)).orElse fun _ => realIp headers).getD
        (display peer) := by
  simp [fromRequestParts, htrusted, realIp_forward, peerText]

theorem fromRequestParts_untrusted [HttpCrate] {peer : Option IpAddr}
    (huntrusted : (peer.map isTrustedPeer).getD false = false) (headers : HeaderMap) :
    fromRequestParts ⟨peer, headers⟩ = peerText peer := by
  simp [fromRequestParts, huntrusted]

/-- **On what the address depends.**  Behind a proxy, what the client has sent in `X-Forwarded-For`
makes no difference if and only if it begins with the client's own address; from a peer that is not
trusted no header makes a difference. -/
theorem fromRequestParts_forwarded [HttpCrate] (peer : Option IpAddr) (client : IpAddr)
    (headers : HeaderMap) :
    (∀ proxy, peer = some proxy → isTrustedPeer proxy = true →
      let unsent := headers.filter (·.1 ≠ .xForwardedFor)
      fromRequestParts ⟨peer, forward client unsent⟩ = display client ∧
        (fromRequestParts ⟨peer, forward client headers⟩ =
            fromRequestParts ⟨peer, forward client unsent⟩ ↔
          SendsOwnAddress proxy client headers)) ∧
      ((peer.map isTrustedPeer).getD false = false →
        ∀ others, fromRequestParts ⟨peer, headers⟩ = fromRequestParts ⟨peer, others⟩) := by
  constructor
  · rintro proxy rfl htrusted unsent
    have hunsent : fromRequestParts ⟨some proxy, forward client unsent⟩ = display client := by
      have hnil : valuesOf .xForwardedFor unsent = [] := by
        simp [valuesOf, unsent]
      rw [fromRequestParts_forward htrusted, forwardedFor_forward_nil client hnil]
      rfl
    refine ⟨hunsent, ?_⟩
    rw [hunsent, fromRequestParts_forward htrusted, SendsOwnAddress]
    by_cases hsent : valuesOf .xForwardedFor headers = []
    · rw [forwardedFor_forward_nil client hsent]
      exact iff_of_true rfl (Or.inl hsent)
    · rw [forwardedFor_forward_cons client hsent, or_iff_right hsent]
  · intro huntrusted others
    rw [fromRequestParts_untrusted huntrusted, fromRequestParts_untrusted huntrusted]

section Forged

attribute [local instance] Login.plainPasswords HttpCrate.visible

def guessFrom (ip : Str) : Login.Attempt := ⟨⟨ip, str "admin", str "guess"⟩, 0, Login.adminOnly⟩

/-- Behind a proxy, after five wrong passwords, the client is turned away under its own address, but
not if it sends another one. -/
theorem login_forged :
    let proxy := IpAddr.v4 10 0 0 2
    let client := IpAddr.v4 203 0 113 7
    let own := fromRequestParts ⟨some proxy, forward client []⟩
    let forged := fromRequestParts
      ⟨some proxy, forward client [(.xForwardedFor, headerValue (str "198.51.100.1"))]⟩
    let book := Machine.run Login.attemptStep (.new 0) (List.replicate 5 (guessFrom own))
    isTrustedPeer proxy = true ∧ own = str "203.0.113.7" ∧ forged = str "198.51.100.1" ∧
      (Login.login book.shared (guessFrom own)).2 = .rejected ∧
      (Login.login book.shared (guessFrom forged)).2 = .failed := by
  decide +kernel

end Forged

end RustDns.Api.ClientIp
