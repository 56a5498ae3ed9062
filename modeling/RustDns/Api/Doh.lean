import RustDns.Base64
import RustDns.Decimal
import RustDns.TextPieces
import RustDns.Dns.Wire

/-!
# DNS over HTTPS

`api/handlers/doh.rs`: a DNS message comes in base64url as a parameter of a GET request, or as the
body of a POST request, and is handed to the DNS handler.  Both requests are limited, the one by the
length of the text, the other by the length of the message.

The limit of the text is a little too large.  The text of 65535 bytes has 87380 characters; 87384
are let through, and these are enough for three bytes more.  So the two transports treat a message
alike if and only if it has at most 65535 bytes or more than 65538 (`transportsAgree_iff`).
-/

namespace RustDns.Api.Doh

open Text

/-- `StatusCode`, as far as it is used. -/
inductive StatusCode where
  | ok
  | badRequest
  | payloadTooLarge
  | internalServerError
deriving DecidableEq

inductive Body where
  | message (bytes : Bytes)
  | text (text : Str)
deriving DecidableEq

structure Response where
  status : StatusCode
  contentType : Option Str
  cacheControl : Option Str
  body : Body
deriving DecidableEq

/-- What a request leads to: the messages that are passed to the DNS handler, each with the address
of the client, and the response. -/
structure Served where
  calls : List (Bytes × Str)
  response : Response

def dnsMessageContentType : Str := str "application/dns-message"

def maxDnsMessageBytes : ℕ := 65535

def maxDohGetParamLen : ℕ := 87384

/-- `(status, text).into_response()`. -/
def plainResponse (status : StatusCode) (text : String) : Response :=
  ⟨status, some (str "text/plain; charset=utf-8"), none, .text (str text)⟩

/-! ## The limit of the text -/

/-- `URL_SAFE_NO_PAD` of the `base64` crate. -/
class Base64Crate where
  encode : Bytes → Str
  decode : Str → Option Bytes
  decode_encode : ∀ message, decode (encode message) = some message
  len_encode : ∀ message, len (encode message) = (4 * message.length + 2) / 3

/-- The alphabet for URLs, without padding. -/
@[reducible] def Base64Crate.urlSafe : Base64Crate where
  encode := Base64.encode
  decode := Base64.decode
  decode_encode := Base64.decode_encode
  len_encode _ := by
    rw [len_eq_length fun _ => Base64.toNat_lt_of_mem_encode, Base64.length_encode]

theorem maxDohGetParamLen_lt_iff [Base64Crate] (message : Bytes) :
    maxDohGetParamLen < len (Base64Crate.encode message) ↔ 65538 < message.length := by
  rw [Base64Crate.len_encode, maxDohGetParamLen]
  omega

/-! ## The handlers -/

section Handlers

variable [Wire]

/-- The header that tells how long a response may be kept: for the shortest time to live among the
answers. -/
def cacheControl (response : Bytes) : Str :=
  match ((Wire.fromVec response).bind fun message =>
      (message.answers.map Record.ttl).min?).filter (0 < ·) with
  | some ttl => str "max-age=" ++ Decimal.showNat ttl.toNat
  | none => str "no-store"

variable [Base64Crate] (handle : Bytes → Str → Option Bytes)

def resolveDoh (data : Bytes) (clientIp : Str) : Served where
  calls := [(data, clientIp)]
  response :=
    match handle data clientIp with
    | some response =>
      ⟨.ok, some dnsMessageContentType, some (cacheControl response), .message response⟩
    | none => plainResponse .internalServerError "DNS resolution failed"

/-- `get_query`, for the parameter `dns`. -/
def getQuery (clientIp dns : Str) : Served :=
  if maxDohGetParamLen < len dns then
    ⟨[], plainResponse .badRequest "DNS message parameter too large"⟩
  else
    match Base64Crate.decode dns with
    | some data => resolveDoh handle data clientIp
    | none => ⟨[], plainResponse .badRequest "Invalid base64url encoding"⟩

def postQuery (clientIp : Str) (body : Bytes) : Served :=
  if maxDnsMessageBytes < body.length then
    ⟨[], plainResponse .payloadTooLarge "DNS message too large"⟩
  else resolveDoh handle body clientIp

/-- One transport passes a message exactly when the other does, and then both pass this one. -/
structure TransportsAgree (clientIp : Str) (message : Bytes) : Prop where
  both : (getQuery handle clientIp (Base64Crate.encode message)).calls ≠ [] ↔
    (postQuery handle clientIp message).calls ≠ []
  same : (getQuery handle clientIp (Base64Crate.encode message)).calls ≠ [] →
    (getQuery handle clientIp (Base64Crate.encode message)).calls = [(message, clientIp)] ∧
      (postQuery handle clientIp message).calls = [(message, clientIp)]

/-! ## What is passed -/

theorem calls_getQuery (clientIp : Str) (message : Bytes) :
    (getQuery handle clientIp (Base64Crate.encode message)).calls =
      if 65538 < message.length then [] else [(message, clientIp)] := by
  unfold getQuery
  simp only [maxDohGetParamLen_lt_iff, Base64Crate.decode_encode]
  split_ifs <;> rfl

omit [Base64Crate] in
theorem calls_postQuery (clientIp : Str) (message : Bytes) :
    (postQuery handle clientIp message).calls =
      if 65535 < message.length then [] else [(message, clientIp)] := by
  unfold postQuery maxDnsMessageBytes
  split_ifs <;> rfl

/-- The transports agree on a message unless it is one to three bytes too long. -/
theorem transportsAgree_iff (clientIp : Str) (message : Bytes) :
    TransportsAgree handle clientIp message ↔
      message.length ≤ 65535 ∨ 65538 < message.length := by
  constructor
  · rintro ⟨hboth, -⟩
    rw [calls_getQuery, calls_postQuery] at hboth
    by_contra hbetween
    rw [not_or, not_le, not_lt] at hbetween
    simp [hbetween.1, not_lt.mpr hbetween.2] at hboth
  · rintro (hshort | hlong)
    · have hget : ¬ 65538 < message.length := by omega
      have hpost : ¬ 65535 < message.length := by omega
      constructor <;> simp [calls_getQuery, calls_postQuery, hget, hpost]
    · have hpost : 65535 < message.length := by omega
      constructor <;> simp [calls_getQuery, calls_postQuery, hlong, hpost]

end Handlers

/-- The GET request passes 65536 bytes, which the POST request refuses. -/
theorem not_transportsAgree_replicate :
    ¬ @TransportsAgree Wire.plain Base64Crate.urlSafe (fun _ _ => none) (str "192.0.2.1")
      (List.replicate 65536 0) := by
  let _ := Wire.plain
  let _ := Base64Crate.urlSafe
  rintro ⟨hboth, -⟩
  rw [calls_getQuery, calls_postQuery, List.length_replicate, if_neg (by decide),
    if_pos (by decide)] at hboth
  exact hboth.mp (List.cons_ne_nil _ _) rfl

end RustDns.Api.Doh
