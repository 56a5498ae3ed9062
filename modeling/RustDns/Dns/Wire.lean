import RustDns.Codec
import RustDns.Dns.Message

/-!
# The wire format

`Message::to_vec` and `Message::from_vec` are a parameter.  A message with at
most one question and one record is always written, and what has been written is
read back.  The id of a message is in its first two bytes, the high one first.

`Wire.plain` is a format that keeps this layout of the id and writes the rest of
the message with byte codecs.
-/

namespace RustDns

abbrev Bytes := List UInt8

def toBeBytes (n : UInt16) : UInt8 × UInt8 := (.ofNat (n.toNat / 256), .ofNat (n.toNat % 256))

def fromBeBytes (high low : UInt8) : UInt16 := .ofNat (high.toNat * 256 + low.toNat)

theorem fromBeBytes_toBeBytes (n : UInt16) : fromBeBytes (toBeBytes n).1 (toBeBytes n).2 = n := by
  have hn := n.toNat_lt
  apply UInt16.toNat_inj.mp
  simp only [fromBeBytes, toBeBytes, UInt16.toNat_ofNat', UInt8.toNat_ofNat']
  omega

/-- The wire format of `hickory_proto`. -/
class Wire where
  /-- `message.to_vec().ok()`. -/
  toVec : Message → Option Bytes
  /-- `Message::from_vec(bytes).ok()`. -/
  fromVec : Bytes → Option Message
  /-- A small message is always written. -/
  isSome_toVec : ∀ message, message.queries.length ≤ 1 → message.answers.length ≤ 1 →
    (toVec message).isSome = true
  /-- What was written is read back. -/
  fromVec_toVec : ∀ {message bytes}, toVec message = some bytes → fromVec bytes = some message

/-- The wire format with the place of the id: the first two bytes hold it, and
the others do not depend on it. -/
class WireLayout extends Wire where
  exists_tail : ∀ {message bytes}, toVec message = some bytes → ∃ tail, ∀ id,
    toVec { message with id := id } = some ((toBeBytes id).1 :: (toBeBytes id).2 :: tail)

/-! ## A format -/

namespace PlainWire

open Codec

def text : Codec Str := list char

def recordType : Codec RecordType :=
  (sum bool text).retract
    (fun
      | .a => .inl false
      | .aaaa => .inl true
      | .other name => .inr name)
    (fun
      | .inl false => .a
      | .inl true => .aaaa
      | .inr name => .other name)
    fun qtype => by cases qtype <;> rfl

def messageType : Codec MessageType :=
  bool.retract (· == .response) (fun b => if b then .response else .query)
    fun type => by cases type <;> rfl

def opCode : Codec OpCode :=
  (option uint8).retract
    (fun
      | .query => none
      | .other code => some code)
    (fun code => code.elim .query .other)
    fun code => by cases code <;> rfl

def responseCode : Codec ResponseCode :=
  (sum (prod bool bool) uint16).retract
    (fun
      | .noError => .inl (false, false)
      | .servFail => .inl (false, true)
      | .nxDomain => .inl (true, false)
      | .refused => .inl (true, true)
      | .other code => .inr code)
    (fun
      | .inl (false, false) => .noError
      | .inl (false, true) => .servFail
      | .inl (true, false) => .nxDomain
      | .inl (true, true) => .refused
      | .inr code => .other code)
    fun code => by cases code <;> rfl

def query : Codec Query :=
  (prod text (prod recordType uint16)).retract
    (fun q => (q.name, q.queryType, q.queryClass)) (fun q => ⟨q.1, q.2.1, q.2.2⟩) fun _ => rfl

def rdata : Codec RData :=
  (sum (prod (prod uint8 uint8) (prod uint8 uint8)) (sum (list uint16) text)).retract
    (fun
      | .a a b c d => .inl ((a, b), c, d)
      | .aaaa segments => .inr (.inl (List.ofFn segments))
      | .other text => .inr (.inr text))
    (fun
      | .inl ((a, b), c, d) => .a a b c d
      | .inr (.inl segments) => .aaaa fun i => segments.getD i 0
      | .inr (.inr text) => .other text)
    fun data => by
      cases data with
      | a a b c d => rfl
      | aaaa segments =>
        refine congrArg RData.aaaa (funext fun i => ?_)
        rw [List.getD_eq_getElem _ _ (by simp), List.getElem_ofFn]
      | other text => rfl

def record : Codec Record :=
  (prod text (prod recordType (prod uint32 (option rdata)))).retract
    (fun r => (r.name, r.recordType, r.ttl, r.data)) (fun r => ⟨r.1, r.2.1, r.2.2.1, r.2.2.2⟩)
    fun _ => rfl

def body : Codec (MessageType × OpCode × ResponseCode × Bool × Bool × List Query × List Record) :=
  prod messageType (prod opCode (prod responseCode (prod bool (prod bool
    (prod (list query) (list record))))))

def write (message : Message) : Bytes :=
  (toBeBytes message.id).1 :: (toBeBytes message.id).2 ::
    body.encode (message.messageType, message.opCode, message.responseCode,
      message.recursionDesired, message.recursionAvailable, message.queries, message.answers)

def read : Bytes → Option Message
  | high :: low :: rest =>
    (body.decode rest).map fun ((type, op, code, rd, ra, queries, answers), _) =>
      ⟨fromBeBytes high low, type, op, code, rd, ra, queries, answers⟩
  | _ => none

theorem read_write (message : Message) : read (write message) = some message := by
  have hbody := body.decode_encode (message.messageType, message.opCode, message.responseCode,
    message.recursionDesired, message.recursionAvailable, message.queries, message.answers) []
  rw [List.append_nil] at hbody
  simp [read, write, hbody, fromBeBytes_toBeBytes]

end PlainWire

@[reducible] def Wire.plain : Wire where
  toVec message := some (PlainWire.write message)
  fromVec := PlainWire.read
  isSome_toVec _ _ _ := rfl
  fromVec_toVec := by
    rintro message bytes hbytes
    obtain rfl := Option.some.inj hbytes
    exact PlainWire.read_write message

@[reducible] def WireLayout.plain : WireLayout where
  toWire := Wire.plain
  exists_tail := fun {message _} _ =>
    ⟨(PlainWire.write message).drop 2, fun _ => rfl⟩

end RustDns
