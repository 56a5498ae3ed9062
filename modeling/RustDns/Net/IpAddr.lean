import RustDns.Text

/-!
# IP address literals

`IpAddr::from_str` of the standard library.  The parser reads from the front of
the text and hands on what is left; an address is accepted when nothing is left.

* An IPv4 literal is four decimal numbers below 256, each of one to three
  digits and without a leading zero, separated by dots.
* An IPv6 literal is eight groups of one to four hexadecimal digits separated by
  colons, the last two of which may be written as an IPv4 literal.  One run of
  zero groups may be left out, which is then written `::`.
-/

namespace RustDns

inductive IpAddr where
  | v4 (a b c d : UInt8)
  | v6 (segments : Fin 8 → UInt16)
deriving DecidableEq

namespace IpAddr

def toDigit (radix : ℕ) (c : Char) : Option ℕ :=
  let value :=
    if '0' ≤ c ∧ c ≤ '9' then some (c.toNat - '0'.toNat)
    else if 'a' ≤ c ∧ c ≤ 'z' then some (c.toNat - 'a'.toNat + 10)
    else if 'A' ≤ c ∧ c ≤ 'Z' then some (c.toNat - 'A'.toNat + 10)
    else none
  value.filter (· < radix)

/-- `Parser::read_number`: as many digits as there are, at most `maxDigits` of
them, for a number at most `maxValue`. -/
def readNumber (radix maxDigits maxValue : ℕ) (allowZeroPrefix : Bool) (s : Str) :
    Option (ℕ × Str) :=
  let digits := s.takeWhile fun c => (toDigit radix c).isSome
  let value := digits.foldl (fun acc c => acc * radix + (toDigit radix c).getD 0) 0
  if digits.isEmpty || maxDigits < digits.length then none
  else if !allowZeroPrefix && digits.head? == some '0' && 1 < digits.length then none
  else if maxValue < value then none
  else some (value, s.drop digits.length)

/-- `Parser::read_separator`: every element but the first follows a separator. -/
def readSeparator {α : Type} (separator : Char) (index : ℕ) (read : Str → Option (α × Str))
    (s : Str) : Option (α × Str) :=
  if index = 0 then read s
  else match s with
    | c :: rest => if c = separator then read rest else none
    | [] => none

def readIpv4Addr (s : Str) : Option ((UInt8 × UInt8 × UInt8 × UInt8) × Str) := do
  let octet := readNumber 10 3 255 false
  let (a, s) ← readSeparator '.' 0 octet s
  let (b, s) ← readSeparator '.' 1 octet s
  let (c, s) ← readSeparator '.' 2 octet s
  let (d, s) ← readSeparator '.' 3 octet s
  return ((.ofNat a, .ofNat b, .ofNat c, .ofNat d), s)

/-- `read_groups` of `Parser::read_ipv6_addr`: up to `room` groups, the first of
which has number `index`.  The flag tells whether the last two were written as
an IPv4 literal, which needs room for two. -/
def readGroups : (room index : ℕ) → Str → List UInt16 × Bool × Str
  | 0, _, s => ([], false, s)
  | room + 1, index, s =>
    let embedded := if 0 < room then readSeparator ':' index readIpv4Addr s else none
    match embedded with
    | some ((a, b, c, d), rest) =>
      ([a.toUInt16 * 256 + b.toUInt16, c.toUInt16 * 256 + d.toUInt16], true, rest)
    | none =>
      match readSeparator ':' index (readNumber 16 4 0xFFFF true) s with
      | some (group, rest) =>
        let (groups, embedded, rest) := readGroups room (index + 1) rest
        (.ofNat group :: groups, embedded, rest)
      | none => ([], false, s)

def ofGroups (groups : List UInt16) : IpAddr := .v6 fun i => groups.getD i 0

def readIpv6Addr (s : Str) : Option (IpAddr × Str) :=
  let (head, headV4, rest) := readGroups 8 0 s
  if head.length = 8 then some (ofGroups head, rest)
  else if headV4 then none
  else match rest with
    | ':' :: ':' :: rest =>
      let (tail, _, rest) := readGroups (8 - (head.length + 1)) 0 rest
      let zeros := List.replicate (8 - head.length - tail.length) 0
      some (ofGroups (head ++ zeros ++ tail), rest)
    | _ => none

/-- `IpAddr::from_str`, with `none` for the error.  An IPv4 literal that is
followed by more text is not tried again as IPv6. -/
def parse (s : Str) : Option IpAddr :=
  let read :=
    match readIpv4Addr s with
    | some ((a, b, c, d), rest) => some (IpAddr.v4 a b c d, rest)
    | none => readIpv6Addr s
  match read with
  | some (ip, []) => some ip
  | _ => none

/-- `Ipv4Addr::from_str`.  The standard library refuses a text that is longer than
the longest literal beforehand; the parser would not get to its end. -/
def parseIpv4 (s : Str) : Option IpAddr :=
  match readIpv4Addr s with
  | some ((a, b, c, d), []) => some (.v4 a b c d)
  | _ => none

/-- `Ipv6Addr::from_str`. -/
def parseIpv6 (s : Str) : Option IpAddr :=
  match readIpv6Addr s with
  | some (ip, []) => some ip
  | _ => none

theorem readIpv6Addr_eq_none {s : Str} {read : (UInt8 × UInt8 × UInt8 × UInt8) × Str}
    (hread : readIpv4Addr s = some read) : readIpv6Addr s = none := by
  obtain ⟨⟨a, b, c, d⟩, rest⟩ := read
  simp [readIpv6Addr, readGroups, readSeparator, hread]

theorem isSome_parse_iff (s : Str) :
    (parse s).isSome = true ↔ (parseIpv4 s).isSome = true ∨ (parseIpv6 s).isSome = true := by
  unfold parse parseIpv4 parseIpv6
  cases hread : readIpv4Addr s with
  | none => simp
  | some read =>
    obtain ⟨⟨a, b, c, d⟩, rest⟩ := read
    rw [readIpv6Addr_eq_none hread]
    cases rest <;> simp

theorem readNumber_eq_none {radix : ℕ} {c : Char} (hc : toDigit radix c = none)
    (maxDigits maxValue : ℕ) (allowZeroPrefix : Bool) (s : Str) :
    readNumber radix maxDigits maxValue allowZeroPrefix (c :: s) = none := by
  simp [readNumber, hc]

theorem parse_cons_eq_none {c : Char} (hdigit : toDigit 16 c = none) (hcolon : c ≠ ':')
    (s : Str) : parse (c :: s) = none := by
  have hdecimal : toDigit 10 c = none := by
    unfold toDigit at hdigit ⊢
    rw [Option.filter_eq_none_iff] at hdigit ⊢
    intro value hvalue hlt
    exact hdigit value hvalue (by simp only [decide_eq_true_eq] at hlt ⊢; omega)
  have hv4 : readIpv4Addr (c :: s) = none := by
    simp [readIpv4Addr, readSeparator, readNumber_eq_none hdecimal]
  have hgroups : readGroups 8 0 (c :: s) = ([], false, c :: s) := by
    simp [readGroups, readSeparator, hv4, readNumber_eq_none hdigit]
  have hv6 : readIpv6Addr (c :: s) = none := by
    unfold readIpv6Addr
    rw [hgroups]
    simp only [List.length_nil, Nat.reduceEqDiff, if_false, Bool.false_eq_true]
    split
    · rename_i heq
      exact absurd (List.cons.inj heq).1 hcolon
    · rfl
  rw [parse, hv4]
  dsimp only
  rw [hv6]

example : parse (str "192.168.1.10") = some (.v4 192 168 1 10) := by decide +kernel

example : parse (str "fe80::1") = some (ofGroups [0xfe80, 0, 0, 0, 0, 0, 0, 1]) := by
  decide +kernel

example : parse (str "10.0.0.256") = none := by decide +kernel

end IpAddr

end RustDns
