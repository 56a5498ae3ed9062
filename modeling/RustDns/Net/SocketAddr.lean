import RustDns.Decimal
import RustDns.Net.IpAddr

/-!
# Socket addresses

`SocketAddr::from_str` and `u16::from_str` of the standard library, and what the
parsers of `IpAddr.lean` do when a colon and more text are put after their input.

The reader of IPv6 groups goes on behind the colon exactly when it had come to the
end of its input (`readGroups_append`), so an IPv6 literal is never the literal
before its last colon once more, unless its last group is zero
(`ne_of_append_colon`).
-/

namespace RustDns

def IpAddr.isIpv4 : IpAddr → Bool
  | .v4 .. => true
  | .v6 _ => false

/-- `std::net::SocketAddr`.  The scope is that of an IPv6 address. -/
structure SocketAddr where
  ip : IpAddr
  scopeId : UInt32
  port : UInt16
deriving DecidableEq

/-- A number without the plus sign that may precede it. -/
def unsigned : Str → Str
  | '+' :: rest => rest
  | s => s

/-- `u16::from_str`: decimal digits, at least one, with a plus sign at most. -/
def parseU16 (s : Str) : Option UInt16 :=
  let digits := unsigned s
  let value := digits.foldl (fun acc c => acc * 10 + (IpAddr.toDigit 10 c).getD 0) 0
  if digits.isEmpty || !digits.all (fun c => (IpAddr.toDigit 10 c).isSome) then none
  else if 0xFFFF < value then none
  else some (.ofNat value)

namespace SocketAddr

open IpAddr

/-- `Parser::read_port`.  There is no bound on the number of digits. -/
def readPort : Str → Option (UInt16 × Str)
  | ':' :: rest =>
    (readNumber 10 rest.length 0xFFFF true rest).map fun read => (.ofNat read.1, read.2)
  | _ => none

def readScopeId : Str → Option (UInt32 × Str)
  | '%' :: rest =>
    (readNumber 10 rest.length 0xFFFFFFFF true rest).map fun read => (.ofNat read.1, read.2)
  | _ => none

def readSocketAddrV4 (s : Str) : Option (SocketAddr × Str) := do
  let ((a, b, c, d), s) ← readIpv4Addr s
  let (port, s) ← readPort s
  return (⟨.v4 a b c d, 0, port⟩, s)

/-- `Parser::read_socket_addr_v6`: the address in brackets, with a scope or
without. -/
def readSocketAddrV6 : Str → Option (SocketAddr × Str)
  | '[' :: s => do
    let (ip, s) ← readIpv6Addr s
    let (scopeId, s) := (readScopeId s).getD (0, s)
    match s with
    | ']' :: s => do
      let (port, s) ← readPort s
      return (⟨ip, scopeId, port⟩, s)
    | _ => none
  | _ => none

/-- `SocketAddr::from_str`. -/
def parse (s : Str) : Option SocketAddr :=
  match (readSocketAddrV4 s).orElse fun _ => readSocketAddrV6 s with
  | some (address, []) => some address
  | _ => none

example : parse (str "[fe80::1%2]:53") =
    some ⟨ofGroups [0xfe80, 0, 0, 0, 0, 0, 0, 1], 2, 53⟩ := by decide +kernel

end SocketAddr

/-! ## A colon after the text -/

namespace IpAddr

variable {radix index maxDigits value : ℕ} {c : Char} {s rest p : Str} {ip : IpAddr}

theorem readNumber_append (hc : toDigit radix c = none) (maxDigits maxValue : ℕ)
    (allowZeroPrefix : Bool) (s tail : Str) :
    readNumber radix maxDigits maxValue allowZeroPrefix (s ++ c :: tail) =
      (readNumber radix maxDigits maxValue allowZeroPrefix s).map
        fun read => (read.1, read.2 ++ c :: tail) := by
  have hdigits : (s ++ c :: tail).takeWhile (fun c => (toDigit radix c).isSome) =
      s.takeWhile fun c => (toDigit radix c).isSome := by
    induction s with
    | nil => simp [hc]
    | cons d rest ih =>
      rw [List.cons_append, List.takeWhile_cons, List.takeWhile_cons, ih]
  have hdrop : (s ++ c :: tail).drop (s.takeWhile fun c => (toDigit radix c).isSome).length =
      s.drop (s.takeWhile fun c => (toDigit radix c).isSome).length ++ c :: tail :=
    List.drop_append_of_le_length ( List.takeWhile_prefix _).length_le
  unfold readNumber
  dsimp only
  rw [hdigits, hdrop]
  split_ifs <;> rfl

/-- A reader that does not look beyond `c`. -/
def StopsAt {α : Type} (c : Char) (read : Str → Option (α × Str)) : Prop :=
  ∀ s tail, read (s ++ c :: tail) = (read s).map fun found => (found.1, found.2 ++ c :: tail)

variable {α : Type} {separator : Char} {room maxValue : ℕ} {groups : List UInt16} {allow : Bool}
  {port : UInt16}

theorem readSeparator_append {read : Str → Option (α × Str)} (hread : StopsAt c read)
    (hs : separator ≠ c ∨ index = 0 ∨ s ≠ []) (tail : Str) :
    readSeparator separator index read (s ++ c :: tail) =
      (readSeparator separator index read s).map fun found => (found.1, found.2 ++ c :: tail) := by
  unfold readSeparator
  split_ifs with hindex
  · exact hread s tail
  · cases s with
    | nil =>
      have hne : separator ≠ c := by simpa [hindex] using hs
      simp [Ne.symm hne]
    | cons d rest =>
      rw [List.cons_append]
      dsimp only
      split_ifs
      · exact hread rest tail
      · rfl

theorem readIpv4Addr_append (hc : toDigit 10 c = none) (hdot : c ≠ '.') :
    StopsAt c readIpv4Addr := by
  have hoctet : StopsAt c (readNumber 10 3 255 false) :=
    fun s tail => readNumber_append hc 3 255 false s tail
  have hsep : ∀ index s tail, readSeparator '.' index (readNumber 10 3 255 false) (s ++ c :: tail) =
      (readSeparator '.' index (readNumber 10 3 255 false) s).map
        fun found => (found.1, found.2 ++ c :: tail) :=
    fun index s tail => readSeparator_append hoctet (Or.inl (Ne.symm hdot)) tail
  intro s tail
  unfold readIpv4Addr
  dsimp only
  rw [hsep]
  cases readSeparator '.' 0 (readNumber 10 3 255 false) s with
  | none => rfl
  | some first =>
    simp only [Option.map_some, Option.bind_eq_bind, Option.bind_some]
    rw [hsep]
    cases readSeparator '.' 1 (readNumber 10 3 255 false) first.2 with
    | none => rfl
    | some second =>
      simp only [Option.map_some, Option.bind_some]
      rw [hsep]
      cases readSeparator '.' 2 (readNumber 10 3 255 false) second.2 with
      | none => rfl
      | some third =>
        simp only [Option.map_some, Option.bind_some]
        rw [hsep]
        cases readSeparator '.' 3 (readNumber 10 3 255 false) third.2 with
        | none => rfl
        | some fourth => rfl

theorem readIpv4Addr_append_colon : StopsAt ':' readIpv4Addr :=
  readIpv4Addr_append (by decide) (by decide)

theorem readGroups_nil (room index : ℕ) : readGroups room index [] = ([], false, []) := by
  cases room with
  | zero => rfl
  | succ room =>
    have hnumber : ∀ radix maxDigits maxValue allow,
        readNumber radix maxDigits maxValue allow [] = none := fun _ _ _ _ => rfl
    have hsep : ∀ {α : Type} (separator : Char) (index : ℕ) (read : Str → Option (α × Str)),
        read [] = none → readSeparator separator index read [] = none := by
      intro α separator index read hread
      unfold readSeparator
      split_ifs <;> [exact hread; rfl]
    have hv4 : readIpv4Addr [] = none := rfl
    simp [readGroups, hsep ':' index readIpv4Addr hv4,
      hsep ':' index (readNumber 16 4 0xFFFF true) (hnumber _ _ _ _)]

theorem readGroups_succ (room index : ℕ) (s : Str) :
    readGroups (room + 1) index s =
      match if 0 < room then readSeparator ':' index readIpv4Addr s else none with
      | some ((a, b, c, d), rest) =>
        ([a.toUInt16 * 256 + b.toUInt16, c.toUInt16 * 256 + d.toUInt16], true, rest)
      | none =>
        match readSeparator ':' index (readNumber 16 4 0xFFFF true) s with
        | some (group, rest) =>
          let (groups, embedded, rest) := readGroups room (index + 1) rest
          (.ofNat group :: groups, embedded, rest)
        | none => ([], false, s) := rfl

/-- **Reading on behind a colon.**  If the groups ended before the end of the text,
what is added makes no difference; otherwise they go on with it. -/
theorem readGroups_append (tail : Str) {embedded : Bool}
    (hread : readGroups room index s = (groups, embedded, rest)) :
    (rest ≠ [] ∨ embedded = true →
      readGroups room index (s ++ ':' :: tail) = (groups, embedded, rest ++ ':' :: tail)) ∧
    (rest = [] → embedded = false → ∀ more again left,
      readGroups (room - groups.length) (index + groups.length) (':' :: tail) =
          (more, again, left) →
        readGroups room index (s ++ ':' :: tail) = (groups ++ more, again, left)) := by
  induction room generalizing index s groups with
  | zero =>
    cases hread
    refine ⟨fun _ => rfl, ?_⟩
    rintro rfl - more again left hmore
    exact hmore
  | succ room ih =>
    by_cases hs : s = []
    · subst hs
      rw [readGroups_nil] at hread
      cases hread
      exact ⟨by simp, fun _ _ more again left hmore => by simpa using hmore⟩
    have hv4 : readSeparator ':' index readIpv4Addr (s ++ ':' :: tail) =
        (readSeparator ':' index readIpv4Addr s).map
          fun found => (found.1, found.2 ++ ':' :: tail) :=
      readSeparator_append readIpv4Addr_append_colon (Or.inr (Or.inr hs)) tail
    have hgroup : readSeparator ':' index (readNumber 16 4 0xFFFF true) (s ++ ':' :: tail) =
        (readSeparator ':' index (readNumber 16 4 0xFFFF true) s).map
          fun found => (found.1, found.2 ++ ':' :: tail) :=
      readSeparator_append (readNumber_append (by decide) 4 0xFFFF true) (Or.inr (Or.inr hs)) tail
    have hembedded : (if 0 < room then readSeparator ':' index readIpv4Addr (s ++ ':' :: tail)
        else none) = (if 0 < room then readSeparator ':' index readIpv4Addr s else none).map
          fun found => (found.1, found.2 ++ ':' :: tail) := by
      split_ifs
      · exact hv4
      · rfl
    rw [readGroups_succ] at hread
    rw [readGroups_succ, hembedded, hgroup]
    cases hfirst : (if 0 < room then readSeparator ':' index readIpv4Addr s else none) with
    | some found =>
      obtain ⟨⟨a, b, c, d⟩, left⟩ := found
      rw [hfirst] at hread
      cases hread
      exact ⟨fun _ => rfl, by simp⟩
    | none =>
      rw [hfirst] at hread
      cases hnumber : readSeparator ':' index (readNumber 16 4 0xFFFF true) s with
      | none =>
        rw [hnumber] at hread
        cases hread
        exact ⟨fun _ => rfl, fun hrest => absurd hrest hs⟩
      | some found =>
        obtain ⟨group, left⟩ := found
        rw [hnumber] at hread
        rcases hleft : readGroups room (index + 1) left with ⟨others, again, rest'⟩
        dsimp only at hread
        rw [hleft] at hread
        cases hread
        obtain ⟨hstop, hend⟩ := ih hleft
        constructor
        · intro hrest
          dsimp only [Option.map_none, Option.map_some]
          rw [hstop hrest]
        · intro hrest hflag more again' left' hmore
          have hroom : room + 1 - (UInt16.ofNat group :: others).length =
              room - others.length := by simp
          have hindex : index + (UInt16.ofNat group :: others).length =
              index + 1 + others.length := by
            rw [List.length_cons]
            omega
          rw [hroom, hindex] at hmore
          dsimp only [Option.map_none, Option.map_some]
          rw [hend hrest hflag more again' left' hmore]
          rfl

theorem length_readGroups_le (room index : ℕ) (s : Str) :
    (readGroups room index s).1.length ≤ room := by
  induction room generalizing index s with
  | zero => exact le_rfl
  | succ room ih =>
    rw [readGroups_succ]
    split
    · next found =>
      split_ifs at found with hroom
      simp only [List.length_cons, List.length_nil]
      omega
    · split
      · next group rest _ => simpa using ih (index + 1) rest
      · exact Nat.zero_le _

/-- The groups of an IPv6 literal: those before the `::` and those after it, of
which there is none if all eight are written. -/
theorem readIpv6Addr_eq_some (hread : readIpv6Addr s = some (ip, [])) :
    (∃ groups embedded, readGroups 8 0 s = (groups, embedded, []) ∧ groups.length = 8) ∨
      ∃ head tail embedded rest,
        readGroups 8 0 s = (head, false, ':' :: ':' :: rest) ∧ head.length < 8 ∧
          readGroups (8 - (head.length + 1)) 0 rest = (tail, embedded, []) ∧
            ip = ofGroups (head ++ List.replicate (8 - head.length - tail.length) 0 ++ tail) := by
  unfold readIpv6Addr at hread
  rcases hhead : readGroups 8 0 s with ⟨head, embedded, rest⟩
  have hlength : head.length ≤ 8 := by
    have := length_readGroups_le 8 0 s
    rwa [hhead] at this
  rw [hhead] at hread
  dsimp only at hread
  split_ifs at hread with hfull hembedded
  · obtain ⟨-, rfl⟩ := Prod.mk.inj (Option.some.inj hread)
    exact Or.inl ⟨head, embedded, rfl, hfull⟩
  · split at hread
    · next rest' =>
      rcases htail : readGroups (8 - (head.length + 1)) 0 rest' with ⟨tail, again, left⟩
      rw [htail] at hread
      cases hread
      rw [Bool.not_eq_true] at hembedded
      subst hembedded
      exact Or.inr ⟨head, tail, again, rest', rfl, by omega, htail, rfl⟩
    · cases hread

/-! ### What the readers take -/

def Takes {α : Type} (p : Char → Prop) (read : Str → Option (α × Str)) : Prop :=
  ∀ s found rest, read s = some (found, rest) → ∃ front, s = front ++ rest ∧ ∀ c ∈ front, p c

section Takes

variable {p : Char → Prop}

theorem takes_readNumber {radix : ℕ} (hdigit : ∀ c, (toDigit radix c).isSome = true → p c)
    (maxDigits maxValue : ℕ) (allow : Bool) :
    Takes p (readNumber radix maxDigits maxValue allow) := by
  intro s value rest hread
  unfold readNumber at hread
  dsimp only at hread
  split_ifs at hread
  cases hread
  refine ⟨_, ( List.prefix_iff_eq_append.mp ( List.takeWhile_prefix _)).symm, fun c hc => ?_⟩
  exact hdigit c (List.mem_takeWhile_imp (p := fun c => (toDigit radix c).isSome) hc)

theorem takes_readSeparator {α : Type} {separator : Char} (hseparator : p separator)
    {read : Str → Option (α × Str)} (hread : Takes p read) (index : ℕ) :
    Takes p (readSeparator separator index read) := by
  intro s found rest hfound
  unfold readSeparator at hfound
  split_ifs at hfound
  · exact hread s found rest hfound
  · cases s with
    | nil => cases hfound
    | cons d tail =>
      dsimp only at hfound
      split_ifs at hfound with hd
      obtain ⟨front, rfl, hfront⟩ := hread tail found rest hfound
      exact ⟨d :: front, rfl, List.forall_mem_cons.mpr ⟨hd ▸ hseparator, hfront⟩⟩

theorem takes_readIpv4Addr (hdigit : ∀ c, (toDigit 10 c).isSome = true → p c)
    (hdot : p '.') : Takes p readIpv4Addr := by
  have hoctet := takes_readSeparator hdot (takes_readNumber hdigit 3 255 false)
  intro s octets rest hread
  unfold readIpv4Addr at hread
  obtain ⟨⟨a, sa⟩, ha, hread⟩ := Option.bind_eq_some_iff.mp hread
  obtain ⟨⟨b, sb⟩, hb, hread⟩ := Option.bind_eq_some_iff.mp hread
  obtain ⟨⟨c, sc⟩, hc, hread⟩ := Option.bind_eq_some_iff.mp hread
  obtain ⟨⟨d, sd⟩, hd, hread⟩ := Option.bind_eq_some_iff.mp hread
  cases hread
  obtain ⟨fa, rfl, hfa⟩ := hoctet _ _ _ _ ha
  obtain ⟨fb, rfl, hfb⟩ := hoctet _ _ _ _ hb
  obtain ⟨fc, rfl, hfc⟩ := hoctet _ _ _ _ hc
  obtain ⟨fd, rfl, hfd⟩ := hoctet _ _ _ _ hd
  refine ⟨fa ++ (fb ++ (fc ++ fd)), by simp, ?_⟩
  simp only [List.forall_mem_append]
  exact ⟨hfa, hfb, hfc, hfd⟩

end Takes

theorem not_mem_of_readNumber
    (hread : readNumber radix maxDigits maxValue allow s = some (value, rest)) (hs : c ∉ s) :
    c ∉ rest := by
  obtain ⟨front, rfl, -⟩ := takes_readNumber (fun _ h => h) maxDigits maxValue allow _ _ _ hread
  exact fun hmem => hs (List.mem_append_right front hmem)

theorem readSeparator_eq_none (index : ℕ) (hindex : index ≠ 0) (read : Str → Option (α × Str))
    (hs : separator ∉ s) : readSeparator separator index read s = none := by
  unfold readSeparator
  rw [if_neg hindex]
  cases s with
  | nil => rfl
  | cons c rest =>
    have hc : c ≠ separator := by
      rintro rfl
      exact hs List.mem_cons_self
    exact if_neg hc

theorem readIpv4Addr_eq_none (hs : '.' ∉ s) : readIpv4Addr s = none := by
  unfold readIpv4Addr
  dsimp only
  cases hfirst : readSeparator '.' 0 (readNumber 10 3 255 false) s with
  | none => rfl
  | some first =>
    obtain ⟨value, rest⟩ := first
    have hrest : '.' ∉ rest := not_mem_of_readNumber hfirst hs
    simp only [Option.bind_eq_bind, Option.bind_some,
      readSeparator_eq_none 1 (by decide) _ hrest, Option.bind_none]

theorem readGroups_eq_nil (hindex : index ≠ 0) (room : ℕ) (hs : ':' ∉ s) :
    readGroups room index s = ([], false, s) := by
  cases room with
  | zero => rfl
  | succ room =>
    rw [readGroups_succ, readSeparator_eq_none _ hindex _ hs, readSeparator_eq_none _ hindex _ hs]
    simp

theorem exists_group_of_readGroups {more : List UInt16} {again : Bool} (hdot : '.' ∉ p)
    (hcolon : ':' ∉ p) (hread : readGroups room index (':' :: p) = (more, again, [])) :
    ∃ group, readNumber 16 4 0xFFFF true p = some (group, []) ∧ more = [.ofNat group] := by
  cases room with
  | zero => cases hread
  | succ room =>
    by_cases hindex : index = 0
    · -- the first group does not begin with a colon
      subst hindex
      have hv4 : readSeparator ':' 0 readIpv4Addr (':' :: p) = none := rfl
      have hnumber : readSeparator ':' 0 (readNumber 16 4 0xFFFF true) (':' :: p) = none := rfl
      rw [readGroups_succ, hv4, hnumber] at hread
      simp at hread
    · have hv4 : readSeparator ':' index readIpv4Addr (':' :: p) = none := by
        simp [readSeparator, hindex, readIpv4Addr_eq_none hdot]
      have hnumber : readSeparator ':' index (readNumber 16 4 0xFFFF true) (':' :: p) =
          readNumber 16 4 0xFFFF true p := by
        simp [readSeparator, hindex]
      rw [readGroups_succ, hv4, hnumber] at hread
      simp only [ite_self] at hread
      cases hgroup : readNumber 16 4 0xFFFF true p with
      | none =>
        rw [hgroup] at hread
        cases hread
      | some found =>
        obtain ⟨group, rest⟩ := found
        have hrest : ':' ∉ rest := not_mem_of_readNumber hgroup hcolon
        rw [hgroup] at hread
        dsimp only at hread
        rw [readGroups_eq_nil (Nat.succ_ne_zero index) room hrest] at hread
        cases hread
        exact ⟨group, rfl, rfl⟩

/-! ### Literals and ports -/

theorem toDigit_whitespace (hc : Text.isWhitespace c = true) (radix : ℕ) :
    toDigit radix c = none := by
  have halnum := Text.isAlphanum_of_isWhitespace hc
  rw [← Bool.not_eq_true, Text.isAlphanum_iff_toNat] at halnum
  have hle : ∀ a b : Char, a ≤ b ↔ a.toNat ≤ b.toNat := fun _ _ => Iff.rfl
  simp only [toDigit, hle, Option.filter_eq_none_iff]
  intro value hvalue
  rw [if_neg, if_neg, if_neg] at hvalue
  · cases hvalue
  · exact fun h => halnum (Or.inl (Or.inl h))
  · exact fun h => halnum (Or.inl (Or.inr h))
  · exact fun h => halnum (Or.inr h)

theorem colon_mem_of_readIpv6Addr (hread : readIpv6Addr s = some (ip, [])) : ':' ∈ s := by
  by_contra hcolon
  have hgroups : (readGroups 8 0 s).1.length ≤ 2 ∧
      ((readGroups 8 0 s).2.1 = true ∨ ':' ∉ (readGroups 8 0 s).2.2) := by
    rw [readGroups_succ]
    split
    · simp
    · split
      · next group rest hgroup =>
        have hrest : ':' ∉ rest := not_mem_of_readNumber hgroup hcolon
        rw [readGroups_eq_nil (Nat.succ_ne_zero 0) 7 hrest]
        simp [hrest]
      · simp [hcolon]
  rcases readIpv6Addr_eq_some hread with ⟨groups, embedded, hread, height⟩ | ⟨head, tail, embedded,
    rest, hread, -⟩
  · have hlength := hgroups.1
    rw [hread] at hlength
    dsimp only at hlength
    omega
  · have hrest := hgroups.2
    rw [hread] at hrest
    simp at hrest

theorem foldl_digits_eq_zero (hradix : radix ≠ 0) (digit : Char → ℕ) (s : Str) (acc : ℕ) :
    s.foldl (fun acc c => acc * radix + digit c) acc = 0 ↔ acc = 0 ∧ ∀ c ∈ s, digit c = 0 := by
  induction s generalizing acc with
  | nil => simp
  | cons c rest ih =>
    rw [List.foldl_cons, ih, List.forall_mem_cons]
    constructor
    · rintro ⟨hacc, hrest⟩
      have hzero : acc * radix = 0 ∧ digit c = 0 := by omega
      exact ⟨(Nat.mul_eq_zero.mp hzero.1).resolve_right hradix, hzero.2, hrest⟩
    · rintro ⟨rfl, hc, hrest⟩
      exact ⟨by rw [hc]; simp, hrest⟩

theorem value_le_of_readNumber
    (hread : readNumber radix maxDigits maxValue allow s = some (value, rest)) :
    value ≤ maxValue := by
  unfold readNumber at hread
  dsimp only at hread
  split_ifs at hread with hdigits hzero hvalue
  obtain ⟨rfl, -⟩ := Prod.mk.inj (Option.some.inj hread)
  exact not_lt.mp hvalue

theorem readNumber_eq_some_nil
    (hread : readNumber radix maxDigits maxValue allow s = some (value, [])) :
    s ≠ [] ∧ (∀ c ∈ s, (toDigit radix c).isSome = true) ∧
      value = s.foldl (fun acc c => acc * radix + (toDigit radix c).getD 0) 0 := by
  unfold readNumber at hread
  dsimp only at hread
  split_ifs at hread with hdigits hzero hvalue
  obtain ⟨rfl, hdrop⟩ := Prod.mk.inj (Option.some.inj hread)
  have hwhole : s.takeWhile (fun c => (toDigit radix c).isSome) = s :=
    ( List.takeWhile_prefix _).eq_of_length_le (List.drop_eq_nil_iff.mp hdrop)
  rw [hwhole] at hdigits ⊢
  refine ⟨?_, ?_, rfl⟩
  · rintro rfl
    simp at hdigits
  · intro c hc
    rw [← hwhole] at hc
    exact List.mem_takeWhile_imp (p := fun c => (toDigit radix c).isSome) hc

theorem parseU16_of_readNumber (hread : readNumber 10 maxDigits 0xFFFF true p = some (value, [])) :
    parseU16 p = some (.ofNat value) := by
  obtain ⟨hne, hdigits, hvalue⟩ := readNumber_eq_some_nil hread
  have hle := value_le_of_readNumber hread
  have hplus : unsigned p = p := by
    unfold unsigned
    split
    · exact absurd (hdigits '+' List.mem_cons_self) (by decide)
    · rfl
  unfold parseU16
  dsimp only
  rw [hplus, ← hvalue, if_neg, if_neg (not_lt.mpr hle)]
  simpa [hne, ← Option.isSome_iff_ne_none] using hdigits

theorem not_mem_of_parseU16 (hport : parseU16 p = some port) (hdigit : toDigit 10 c = none)
    (hplus : c ≠ '+') : c ∉ p := by
  unfold parseU16 at hport
  dsimp only at hport
  split_ifs at hport with hdigits hvalue
  simp only [Bool.or_eq_true, Bool.not_eq_true', not_or, Bool.not_eq_false,
    List.all_eq_true] at hdigits
  intro hc
  have hmem : c ∈ unsigned p := by
    unfold unsigned
    split
    · exact (List.mem_cons.mp hc).resolve_left hplus
    · exact hc
  have hsome := hdigits.2 c hmem
  rw [hdigit] at hsome
  cases hsome

theorem parseU16_eq_zero (hport : parseU16 p = some port)
    (hgroup : readNumber 16 4 0xFFFF true p = some (0, [])) : port = 0 := by
  obtain ⟨hne, hdigits, hvalue⟩ := readNumber_eq_some_nil hgroup
  have hzeros := ((foldl_digits_eq_zero (by decide) _ _ _).mp hvalue.symm).2
  have hzero : ∀ c ∈ p, toDigit 10 c = some 0 := by
    intro c hc
    obtain ⟨value, hsome⟩ := Option.isSome_iff_exists.mp (hdigits c hc)
    have hval := hzeros c hc
    rw [hsome, Option.getD_some] at hval
    subst hval
    unfold toDigit at hsome ⊢
    rw [Option.filter_eq_some_iff] at hsome ⊢
    exact ⟨hsome.1, by decide⟩
  have hread : readNumber 10 p.length 0xFFFF true p = some (0, []) := by
    have hwhole : p.takeWhile (fun c => (toDigit 10 c).isSome) = p :=
      List.takeWhile_eq_self_iff.mpr fun c hc => by rw [hzero c hc]; rfl
    have hsum : p.foldl (fun acc c => acc * 10 + (toDigit 10 c).getD 0) 0 = 0 :=
      (foldl_digits_eq_zero (by decide) _ _ _).mpr
        ⟨rfl, fun c hc => by rw [hzero c hc, Option.getD_some]⟩
    simp [readNumber, hwhole, hsum, hne]
  rw [parseU16_of_readNumber hread] at hport
  exact (Option.some.inj hport).symm

theorem ofGroups_injective {others : List UInt16} (hgroups : groups.length = 8)
    (hothers : others.length = 8) (heq : ofGroups groups = ofGroups others) : groups = others := by
  apply List.ext_getElem (hgroups.trans hothers.symm)
  intro i hi hi'
  have hsegment : groups.getD i 0 = others.getD i 0 :=
    congrFun (IpAddr.v6.inj heq) ⟨i, by omega⟩
  rwa [List.getD_eq_getElem _ _ hi, List.getD_eq_getElem _ _ hi'] at hsegment

/-- **An IPv6 literal is not that before its last colon once more**, if the part
behind it, read as a port, is not zero. -/
theorem ne_of_append_colon {t : Str} {other : IpAddr}
    (hs : readIpv6Addr (t ++ ':' :: p) = some (ip, [])) (ht : readIpv6Addr t = some (other, []))
    (hport : parseU16 p = some port) (hne : port ≠ 0) : ip ≠ other := by
  have hdot : '.' ∉ p := not_mem_of_parseU16 hport (by decide) (by decide)
  have hcolon : ':' ∉ p := not_mem_of_parseU16 hport (by decide) (by decide)
  rcases readIpv6Addr_eq_some ht with ⟨groups, embedded, hread, height⟩ |
    ⟨head, tail, embedded, rest, hhead, hlt, htail, rfl⟩
  · -- there is no room for another group
    obtain ⟨hstop, hend⟩ := readGroups_append p hread
    have hgroups : ∃ again, readGroups 8 0 (t ++ ':' :: p) = (groups, again, ':' :: p) := by
      cases embedded with
      | true => exact ⟨true, hstop (Or.inr rfl)⟩
      | false =>
        refine ⟨false, ?_⟩
        have hmore := hend rfl rfl [] false (':' :: p) (by rw [height]; rfl)
        rwa [List.append_nil] at hmore
    obtain ⟨again, hgroups⟩ := hgroups
    rcases readIpv6Addr_eq_some hs with ⟨_, _, hother, -⟩ | ⟨_, _, _, _, hother, hlt, -⟩
    · rw [hgroups] at hother
      cases hother
    · rw [hgroups] at hother
      cases hother
      omega
  · have hhead' := (readGroups_append p hhead).1 (Or.inl (List.cons_ne_nil _ _))
    obtain ⟨hstop, hend⟩ := readGroups_append p htail
    rcases readIpv6Addr_eq_some hs with ⟨_, _, hother, -⟩ | ⟨head', tail', again, rest', hother, -,
      htail', rfl⟩
    · rw [hhead'] at hother
      cases hother
    · rw [hhead'] at hother
      cases hother
      cases embedded with
      | true =>
        change readGroups _ 0 (rest ++ ':' :: p) = _ at htail'
        rw [hstop (Or.inr rfl)] at htail'
        cases htail'
      | false =>
        -- the group behind the colon is the last one, in the place of a zero
        rcases hmore : readGroups (8 - (head.length + 1) - tail.length) (0 + tail.length)
          (':' :: p) with ⟨more, flag, left⟩
        change readGroups _ 0 (rest ++ ':' :: p) = _ at htail'
        rw [hend rfl rfl more flag left hmore] at htail'
        cases htail'
        obtain ⟨group, hgroup, rfl⟩ := exists_group_of_readGroups hdot hcolon hmore
        have hroom : (tail ++ [UInt16.ofNat group]).length ≤ 8 - (head.length + 1) := by
          have hle := length_readGroups_le (8 - (head.length + 1)) 0 (rest ++ ':' :: p)
          rwa [hend rfl rfl _ _ [] hmore] at hle
        rw [List.length_append, List.length_singleton] at hroom
        intro heq
        have hlists := ofGroups_injective (by simp; omega) (by simp; omega) heq
        have hsum := congrArg (fun groups => (groups.map UInt16.toNat).sum) hlists
        have hzero : group = 0 := by
          have hle := value_le_of_readNumber hgroup
          simp at hsum
          omega
        subst hzero
        exact hne (parseU16_eq_zero hport hgroup)

/-! ### The two kinds of literals -/

theorem isIpv4_of_readIpv6Addr (hread : readIpv6Addr s = some (ip, rest)) : ip.isIpv4 = false := by
  unfold readIpv6Addr at hread
  dsimp only at hread
  split_ifs at hread
  · rw [← (Prod.mk.inj (Option.some.inj hread)).1]
    rfl
  · split at hread
    · rw [← (Prod.mk.inj (Option.some.inj hread)).1]
      rfl
    · cases hread

theorem parse_eq_some (hparse : parse s = some ip) :
    ip.isIpv4 = true ∧ (∃ octets, readIpv4Addr s = some (octets, [])) ∨
      ip.isIpv4 = false ∧ readIpv6Addr s = some (ip, []) := by
  unfold parse at hparse
  cases hv4 : readIpv4Addr s with
  | some read =>
    obtain ⟨⟨a, b, c, d⟩, rest⟩ := read
    rw [hv4] at hparse
    cases rest with
    | nil =>
      cases hparse
      exact Or.inl ⟨rfl, _, rfl⟩
    | cons c rest => cases hparse
  | none =>
    rw [hv4] at hparse
    cases hv6 : readIpv6Addr s with
    | none =>
      rw [hv6] at hparse
      cases hparse
    | some read =>
      obtain ⟨found, rest⟩ := read
      rw [hv6] at hparse
      cases rest with
      | nil =>
        cases hparse
        exact Or.inr ⟨isIpv4_of_readIpv6Addr hv6, rfl⟩
      | cons c rest => cases hparse

/-! ## The characters of a literal -/

def isLiteralChar (c : Char) : Bool := (toDigit 16 c).isSome || c == '.' || c == ':'

theorem isLiteralChar_of_digit (hc : (toDigit 10 c).isSome = true) : isLiteralChar c = true := by
  obtain ⟨value, hvalue⟩ := Option.isSome_iff_exists.mp hc
  have hsixteen : toDigit 16 c = some value := by
    unfold toDigit at hvalue ⊢
    rw [Option.filter_eq_some_iff, decide_eq_true_eq] at hvalue ⊢
    exact ⟨hvalue.1, by omega⟩
  simp [isLiteralChar, hsixteen]

theorem isLiteralChar_of_isWhitespace (hc : Text.isWhitespace c = true) :
    isLiteralChar c = false := by
  have hne : c ≠ '.' ∧ c ≠ ':' := by
    constructor <;> (rintro rfl; exact absurd hc (by decide))
  simp [isLiteralChar, toDigit_whitespace hc, hne]

theorem exists_front_of_readGroups (room index : ℕ) (s : Str) :
    ∃ front, s = front ++ (readGroups room index s).2.2 ∧ ∀ c ∈ front, isLiteralChar c = true := by
  have hv4 : ∀ index, Takes (isLiteralChar · = true) (readSeparator ':' index readIpv4Addr) :=
    takes_readSeparator (by decide)
      (takes_readIpv4Addr (fun _ => isLiteralChar_of_digit) (by decide))
  have hgroup : ∀ index, Takes (isLiteralChar · = true)
      (readSeparator ':' index (readNumber 16 4 0xFFFF true)) :=
    takes_readSeparator (by decide)
      (takes_readNumber (fun c hc => by simp [isLiteralChar, hc]) _ _ _)
  induction room generalizing index s with
  | zero => exact ⟨[], rfl, by simp⟩
  | succ room ih =>
    rw [readGroups_succ]
    split
    · next hembedded =>
      split_ifs at hembedded
      exact hv4 index _ _ _ hembedded
    · split
      · next hread =>
        obtain ⟨front, rfl, hfront⟩ := hgroup index _ _ _ hread
        obtain ⟨others, hrest, hothers⟩ := ih (index + 1) _
        refine ⟨front ++ others, ?_, List.forall_mem_append.mpr ⟨hfront, hothers⟩⟩
        rw [List.append_assoc]
        exact congrArg (front ++ ·) hrest
      · exact ⟨[], rfl, by simp⟩

theorem isLiteralChar_of_readIpv6Addr (hread : readIpv6Addr s = some (ip, [])) :
    ∀ c ∈ s, isLiteralChar c = true := by
  obtain ⟨front, hs, hfront⟩ := exists_front_of_readGroups 8 0 s
  rcases readIpv6Addr_eq_some hread with ⟨groups, embedded, hgroups, -⟩ |
    ⟨head, tail, embedded, rest, hhead, -, htail, -⟩
  · rw [hgroups, List.append_nil] at hs
    rwa [hs]
  · obtain ⟨back, hback, hothers⟩ := exists_front_of_readGroups (8 - (head.length + 1)) 0 rest
    rw [htail, List.append_nil] at hback
    rw [hs, hhead, hback]
    simp only [List.forall_mem_append, List.forall_mem_cons]
    exact ⟨hfront, rfl, rfl, hothers⟩

theorem isLiteralChar_of_parse (hparse : parse s = some ip) : ∀ c ∈ s, isLiteralChar c = true := by
  rcases parse_eq_some hparse with ⟨-, octets, hread⟩ | ⟨-, hread⟩
  · obtain ⟨front, rfl, hfront⟩ := takes_readIpv4Addr (p := (isLiteralChar · = true))
      (fun _ => isLiteralChar_of_digit) rfl _ _ _ hread
    rwa [List.append_nil]
  · exact isLiteralChar_of_readIpv6Addr hread

theorem colon_notMem_of_isIpv4 (hparse : parse s = some ip) (hv4 : ip.isIpv4 = true) : ':' ∉ s := by
  rcases parse_eq_some hparse with ⟨-, octets, hread⟩ | ⟨hv6, -⟩
  · obtain ⟨front, rfl, hfront⟩ := takes_readIpv4Addr (p := (· ≠ ':'))
      (fun c hc => by rintro rfl; exact absurd hc (by decide)) (by decide) _ _ _ hread
    rw [List.append_nil]
    exact fun hmem => hfront ':' hmem rfl
  · rw [hv6] at hv4
    cases hv4

theorem toDigit_of_isDigit (hc : c.isDigit = true) : toDigit 10 c = some (c.toNat - '0'.toNat) := by
  have hrange : '0' ≤ c ∧ c ≤ '9' := by simpa [Char.isDigit, Char.le_def] using hc
  have hlt : c.toNat - 48 < 10 := by
    have hle : c.toNat ≤ 57 := hrange.2
    omega
  simp [toDigit, hrange, hlt]

end IpAddr

open Decimal in
theorem parseU16_showNat (port : UInt16) : parseU16 (showNat port.toNat) = some port := by
  have hdigits : ∀ c ∈ showNat port.toNat, IpAddr.toDigit 10 c = some (c.toNat - '0'.toNat) :=
    fun c hc => IpAddr.toDigit_of_isDigit (isDigit_of_mem_showNat hc)
  have hplus : unsigned (showNat port.toNat) = showNat port.toNat := by
    unfold unsigned
    split
    · next rest heq =>
      have hplus := hdigits '+' (by rw [heq]; exact List.mem_cons_self)
      exact absurd hplus (by decide)
    · rfl
  have hvalue : (showNat port.toNat).foldl
      (fun acc c => acc * 10 + (IpAddr.toDigit 10 c).getD 0) 0 = port.toNat := by
    calc (showNat port.toNat).foldl (fun acc c => acc * 10 + (IpAddr.toDigit 10 c).getD 0) 0
      _ = Nat.ofDigitChars 10 (showNat port.toNat) 0 := by
          refine List.foldl_ext _ _ _ fun acc c hc => ?_
          rw [hdigits c hc, Option.getD_some, mul_comm]
      _ = port.toNat := Nat.ofDigitChars_ten_toDigits
  have hsome : ¬ ((showNat port.toNat).isEmpty ||
      !(showNat port.toNat).all fun c => (IpAddr.toDigit 10 c).isSome) = true := by
    have hall : ((showNat port.toNat).all fun c => (IpAddr.toDigit 10 c).isSome) = true :=
      List.all_eq_true.mpr fun c hc => by rw [hdigits c hc]; rfl
    simp [hall, showNat_ne_nil]
  have hle := port.toNat_lt
  unfold parseU16
  dsimp only
  rw [hplus, hvalue, if_neg hsome, if_neg (by omega), UInt16.ofNat_toNat]

namespace SocketAddr

open IpAddr

theorem exists_of_readPort {s : Str} {port : UInt16} (hread : readPort s = some (port, [])) :
    ∃ digits, s = ':' :: digits ∧ ':' ∉ digits ∧ parseU16 digits = some port := by
  unfold readPort at hread
  split at hread
  · next digits =>
    obtain ⟨⟨value, rest⟩, hnumber, heq⟩ := Option.map_eq_some_iff.mp hread
    cases heq
    have hport := parseU16_of_readNumber hnumber
    exact ⟨digits, rfl, not_mem_of_parseU16 hport (by decide) (by decide), hport⟩
  · cases hread

/-- The socket addresses: an IPv4 literal, a colon and a port, or an IPv6 literal
in brackets. -/
theorem parse_eq_some {s : Str} {address : SocketAddr} (hparse : parse s = some address) :
    (address.ip.isIpv4 = true ∧ address.scopeId = 0 ∧ ∃ text digits, s = text ++ ':' :: digits ∧
        ':' ∉ digits ∧ IpAddr.parse text = some address.ip ∧
        parseU16 digits = some address.port) ∨
      address.ip.isIpv4 = false ∧ ∃ rest, s = '[' :: rest := by
  unfold parse at hparse
  cases hv4 : readSocketAddrV4 s with
  | some read =>
    obtain ⟨found, rest⟩ := read
    rw [hv4, Option.orElse_some] at hparse
    cases rest with
    | cons c rest => cases hparse
    | nil =>
      cases hparse
      obtain ⟨⟨⟨a, b, c, d⟩, left⟩, hread, hport⟩ := Option.bind_eq_some_iff.mp hv4
      obtain ⟨⟨port, rest⟩, hport, heq⟩ := Option.bind_eq_some_iff.mp hport
      cases heq
      obtain ⟨digits, rfl, hcolon, hdigits⟩ := exists_of_readPort hport
      obtain ⟨text, rfl, -⟩ := takes_readIpv4Addr (fun _ _ => trivial) trivial _ _ _ hread
      refine Or.inl ⟨rfl, rfl, text, digits, rfl, hcolon, ?_, hdigits⟩
      -- the reader stops at the colon, so it reads all of the text before it
      rw [readIpv4Addr_append_colon text digits] at hread
      obtain ⟨⟨octets, rest⟩, htext, heq⟩ := Option.map_eq_some_iff.mp hread
      obtain ⟨rfl, hrest⟩ := Prod.mk.inj heq
      obtain rfl : rest = [] := List.append_left_eq_self.mp hrest
      simp [IpAddr.parse, htext]
  | none =>
    rw [hv4, Option.orElse_none] at hparse
    cases hv6 : readSocketAddrV6 s with
    | none =>
      rw [hv6] at hparse
      cases hparse
    | some read =>
      obtain ⟨found, rest⟩ := read
      rw [hv6] at hparse
      cases rest with
      | cons c rest => cases hparse
      | nil =>
        cases hparse
        unfold readSocketAddrV6 at hv6
        split at hv6
        · next inner =>
          obtain ⟨⟨ip, left⟩, hread, hv6⟩ := Option.bind_eq_some_iff.mp hv6
          refine Or.inr ⟨?_, inner, rfl⟩
          dsimp only at hv6
          split at hv6
          · obtain ⟨⟨port, rest⟩, -, heq⟩ := Option.bind_eq_some_iff.mp hv6
            rw [← (Prod.mk.inj (Option.some.inj heq)).1]
            exact isIpv4_of_readIpv6Addr hread
          · cases hv6
        · cases hv6

end SocketAddr

end RustDns
