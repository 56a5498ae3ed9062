import RustDns.Net.IpAddr

/-!
# Networks

The `ipnet` crate is a parameter: a text may denote a network, and a network
contains some addresses.

`IpNetCrate.cidr` is the notation `address/length`: a network contains the
addresses of its family that agree with it in the first `length` bits.
-/

namespace RustDns

/-- The part of the `ipnet` crate that the code uses. -/
class IpNetCrate where
  /-- `ipnet::IpNet`. -/
  IpNet : Type
  /-- `text.parse::<IpNet>().ok()`. -/
  parse : Str → Option IpNet
  /-- `IpNet::contains`. -/
  contains : IpNet → IpAddr → Bool

namespace IpNet

def width : IpAddr → ℕ
  | .v4 .. => 32
  | .v6 _ => 128

def toNat : IpAddr → ℕ
  | .v4 a b c d => [a, b, c, d].foldl (fun acc part => acc * 2 ^ 8 + part.toNat) 0
  | .v6 segments => (List.ofFn segments).foldl (fun acc part => acc * 2 ^ 16 + part.toNat) 0

/-- Parse `address/length`. -/
def parseCidr (text : Str) : Option (IpAddr × ℕ) :=
  match text.splitOn '/' with
  | [address, length] => do
    let ip ← IpAddr.parse address
    let (bits, rest) ← IpAddr.readNumber 10 3 (width ip) false length
    if rest.isEmpty then some (ip, bits) else none
  | _ => none

def containsCidr (net : IpAddr × ℕ) (ip : IpAddr) : Bool :=
  width net.1 == width ip &&
    toNat net.1 >>> (width ip - net.2) == toNat ip >>> (width ip - net.2)

end IpNet

/-- Networks in the notation `address/length`. -/
@[reducible] def IpNetCrate.cidr : IpNetCrate where
  IpNet := IpAddr × ℕ
  parse := IpNet.parseCidr
  contains := IpNet.containsCidr

end RustDns
