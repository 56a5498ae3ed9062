import Mathlib

/-!
# Base64 for URLs

Three bytes are written as four symbols of six bits each.  The alphabet is the one for URLs, and
there is no padding: one byte at the end is two symbols, two bytes are three, and their last bits
are zero.  A text with other characters, with one symbol at the end, or with last bits that are not
zero is not read.

What was written is read back (`decode_encode`), and the length of a text is that of the bytes times
four thirds, rounded up (`length_encode`).
-/

namespace Base64

/-- The symbol of a number below 64: the capital letters, the small ones, the digits, and two
more. -/
def symbol (n : ℕ) : Char :=
  if n < 26 then .ofNat ('A'.toNat + n)
  else if n < 52 then .ofNat ('a'.toNat + (n - 26))
  else if n < 62 then .ofNat ('0'.toNat + (n - 52))
  else if n = 62 then '-'
  else '_'

def value (c : Char) : Option ℕ :=
  if c.isUpper then some (c.toNat - 'A'.toNat)
  else if c.isLower then some (c.toNat - 'a'.toNat + 26)
  else if c.isDigit then some (c.toNat - '0'.toNat + 52)
  else if c = '-' then some 62
  else if c = '_' then some 63
  else none

def encode : List UInt8 → List Char
  | [] => []
  | [a] => [symbol (a.toNat / 4), symbol (a.toNat % 4 * 16)]
  | [a, b] =>
    [symbol (a.toNat / 4), symbol (a.toNat % 4 * 16 + b.toNat / 16), symbol (b.toNat % 16 * 4)]
  | a :: b :: c :: rest =>
    symbol (a.toNat / 4) :: symbol (a.toNat % 4 * 16 + b.toNat / 16) ::
      symbol (b.toNat % 16 * 4 + c.toNat / 64) :: symbol (c.toNat % 64) :: encode rest

def decode : List Char → Option (List UInt8)
  | [] => some []
  | [_] => none
  | [w, x] => do
    let w ← value w
    let x ← value x
    if x % 16 = 0 then some [.ofNat (w * 4 + x / 16)] else none
  | [w, x, y] => do
    let w ← value w
    let x ← value x
    let y ← value y
    if y % 4 = 0 then some [.ofNat (w * 4 + x / 16), .ofNat (x % 16 * 16 + y / 4)] else none
  | w :: x :: y :: z :: rest => do
    let w ← value w
    let x ← value x
    let y ← value y
    let z ← value z
    let bytes ← decode rest
    return .ofNat (w * 4 + x / 16) :: .ofNat (x % 16 * 16 + y / 4) :: .ofNat (y % 4 * 64 + z) ::
      bytes

/-! ## Symbols -/

variable {n : ℕ}

theorem value_symbol (hn : n < 64) : value (symbol n) = some n := by
  have hall : ∀ n < 64, value (symbol n) = some n := by decide +kernel
  exact hall n hn

theorem toNat_symbol_lt (n : ℕ) : (symbol n).toNat < 128 := by
  rcases Nat.lt_or_ge n 64 with hn | hn
  · have hall : ∀ n < 64, (symbol n).toNat < 128 := by decide +kernel
    exact hall n hn
  · have hlast : symbol n = '_' := by
      rw [symbol, if_neg (by omega), if_neg (by omega), if_neg (by omega), if_neg (by omega)]
    rw [hlast]
    decide

theorem ofNat_eq_of_toNat {a : UInt8} (hn : n = a.toNat) : UInt8.ofNat n = a := by
  rw [hn, UInt8.ofNat_toNat]

/-! ## Reading back -/

/-- The symbols of the first byte and a number below 16, which is what the second symbol has of
the next byte. -/
theorem first_byte (a : UInt8) (hn : n < 16) :
    value (symbol (a.toNat / 4)) = some (a.toNat / 4) ∧
      value (symbol (a.toNat % 4 * 16 + n)) = some (a.toNat % 4 * 16 + n) ∧
      UInt8.ofNat (a.toNat / 4 * 4 + (a.toNat % 4 * 16 + n) / 16) = a := by
  have ha := a.toNat_lt
  exact ⟨value_symbol (by omega), value_symbol (by omega), ofNat_eq_of_toNat (by omega)⟩

theorem second_byte (a b : UInt8) (hn : n < 4) :
    value (symbol (b.toNat % 16 * 4 + n)) = some (b.toNat % 16 * 4 + n) ∧
      UInt8.ofNat ((a.toNat % 4 * 16 + b.toNat / 16) % 16 * 16 +
        (b.toNat % 16 * 4 + n) / 4) = b := by
  have hb := b.toNat_lt
  exact ⟨value_symbol (by omega), ofNat_eq_of_toNat (by omega)⟩

theorem third_byte (b c : UInt8) :
    value (symbol (c.toNat % 64)) = some (c.toNat % 64) ∧
      UInt8.ofNat ((b.toNat % 16 * 4 + c.toNat / 64) % 4 * 64 + c.toNat % 64) = c := by
  have hc := c.toNat_lt
  exact ⟨value_symbol (by omega), ofNat_eq_of_toNat (by omega)⟩

theorem decode_encode (bytes : List UInt8) : decode (encode bytes) = some bytes := by
  induction bytes using encode.induct with
  | case1 => rfl
  | case2 a =>
    obtain ⟨hw, hx, ha⟩ := first_byte a (n := 0) (by omega)
    rw [Nat.add_zero] at hx ha
    have hzero : a.toNat % 4 * 16 % 16 = 0 := Nat.mul_mod_left _ _
    simp only [encode, decode, hw, hx, hzero, ha, if_true, Option.bind_eq_bind, Option.bind_some]
  | case3 a b =>
    obtain ⟨hw, hx, ha⟩ := first_byte a (n := b.toNat / 16) (by have := b.toNat_lt; omega)
    obtain ⟨hy, hb⟩ := second_byte a b (n := 0) (by omega)
    rw [Nat.add_zero] at hy hb
    have hzero : b.toNat % 16 * 4 % 4 = 0 := Nat.mul_mod_left _ _
    simp only [encode, decode, hw, hx, hy, hzero, ha, hb, if_true, Option.bind_eq_bind,
      Option.bind_some]
  | case4 a b c rest ih =>
    obtain ⟨hw, hx, ha⟩ := first_byte a (n := b.toNat / 16) (by have := b.toNat_lt; omega)
    obtain ⟨hy, hb⟩ := second_byte a b (n := c.toNat / 64) (by have := c.toNat_lt; omega)
    obtain ⟨hz, hc⟩ := third_byte b c
    simp only [encode, decode, hw, hx, hy, hz, ih, ha, hb, hc, Option.bind_eq_bind,
      Option.bind_some, Option.pure_def]

/-! ## The text -/

theorem length_encode (bytes : List UInt8) :
    (encode bytes).length = (4 * bytes.length + 2) / 3 := by
  induction bytes using encode.induct with
  | case1 => rfl
  | case2 a => simp [encode]
  | case3 a b => simp [encode]
  | case4 a b c rest ih =>
    simp only [encode, List.length_cons, ih]
    omega

theorem toNat_lt_of_mem_encode {bytes : List UInt8} {c : Char} (hc : c ∈ encode bytes) :
    c.toNat < 128 := by
  induction bytes using encode.induct with
  | case1 => cases hc
  | case2 a =>
    simp only [encode, List.mem_cons, List.not_mem_nil, or_false] at hc
    rcases hc with rfl | rfl <;> exact toNat_symbol_lt _
  | case3 a b =>
    simp only [encode, List.mem_cons, List.not_mem_nil, or_false] at hc
    rcases hc with rfl | rfl | rfl <;> exact toNat_symbol_lt _
  | case4 a b c' rest ih =>
    simp only [encode, List.mem_cons] at hc
    rcases hc with rfl | rfl | rfl | rfl | hc
    · exact toNat_symbol_lt _
    · exact toNat_symbol_lt _
    · exact toNat_symbol_lt _
    · exact toNat_symbol_lt _
    · exact ih hc

end Base64
