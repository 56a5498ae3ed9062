import RustDns.Net.IpAddr

/-!
# DNS messages

The types of `hickory_proto` that the server handles, with the fields it reads
or sets.  A name is its text, as `Name::to_string` prints it.  Record types other
than `A` and `AAAA` are told apart by the name that `{:?}` prints, which is all
that is ever asked of them.
-/

namespace RustDns

inductive RecordType where
  | a
  | aaaa
  | other (name : Str)
deriving DecidableEq

/-- `format!("{:?}", qtype)`. -/
def RecordType.debug : RecordType → Str
  | a => str "A"
  | aaaa => str "AAAA"
  | other name => name

inductive MessageType where
  | query
  | response
deriving DecidableEq

inductive OpCode where
  | query
  | other (code : UInt8)
deriving DecidableEq

inductive ResponseCode where
  | noError
  | servFail
  | nxDomain
  | refused
  | other (code : UInt16)
deriving DecidableEq

structure Query where
  name : Str
  queryType : RecordType
  queryClass : UInt16
deriving DecidableEq

/-- `RData`; data other than an address is its text. -/
inductive RData where
  | a (a b c d : UInt8)
  | aaaa (segments : Fin 8 → UInt16)
  | other (text : Str)
deriving DecidableEq

structure Record where
  name : Str
  recordType : RecordType
  ttl : UInt32
  data : Option RData
deriving DecidableEq

structure Message where
  id : UInt16
  messageType : MessageType
  opCode : OpCode
  responseCode : ResponseCode
  recursionDesired : Bool
  recursionAvailable : Bool
  queries : List Query
  answers : List Record
deriving DecidableEq

def Message.new : Message := ⟨0, .query, .query, .noError, false, false, [], []⟩

end RustDns
