import Mathlib

/-!
# Byte codecs

A codec writes values as bytes and reads them back from the front of a byte
string.  Reading undoes writing and leaves what follows, which is what lets
codecs be put in sequence.  The combinators below cover products, sums, lists and
fixed-width numbers; any other type is a retract of one of these.
-/

structure Codec (α : Type) where
  encode : α → List UInt8
  decode : List UInt8 → Option (α × List UInt8)
  decode_encode : ∀ a rest, decode (encode a ++ rest) = some (a, rest)

namespace Codec

variable {α β : Type}

def unit : Codec Unit where
  encode _ := []
  decode bytes := some ((), bytes)
  decode_encode _ _ := rfl

def prod (first : Codec α) (second : Codec β) : Codec (α × β) where
  encode pair := first.encode pair.1 ++ second.encode pair.2
  decode bytes := do
    let (a, bytes) ← first.decode bytes
    let (b, bytes) ← second.decode bytes
    return ((a, b), bytes)
  decode_encode := by
    rintro ⟨a, b⟩ rest
    simp [List.append_assoc, first.decode_encode, second.decode_encode]

def sum (left : Codec α) (right : Codec β) : Codec (α ⊕ β) where
  encode
    | .inl a => 0 :: left.encode a
    | .inr b => 1 :: right.encode b
  decode
    | [] => none
    | tag :: bytes =>
      if tag = 0 then (left.decode bytes).map fun (a, bytes) => (.inl a, bytes)
      else (right.decode bytes).map fun (b, bytes) => (.inr b, bytes)
  decode_encode := by
    rintro (a | b) rest
    · simp [left.decode_encode]
    · simp [right.decode_encode]

/-- A type whose values can be recovered from those of another. -/
def retract (codec : Codec β) (forth : α → β) (back : β → α)
    (hback : ∀ a, back (forth a) = a) : Codec α where
  encode a := codec.encode (forth a)
  decode bytes := (codec.decode bytes).map fun (b, bytes) => (back b, bytes)
  decode_encode a rest := by simp [codec.decode_encode, hback]

/-! ## Lists -/

def readCount : List UInt8 → Option (ℕ × List UInt8)
  | [] => none
  | byte :: rest =>
    if byte = 1 then (readCount rest).map fun (count, rest) => (count + 1, rest)
    else some (0, rest)

theorem readCount_replicate (count : ℕ) (rest : List UInt8) :
    readCount (List.replicate count 1 ++ 0 :: rest) = some (count, rest) := by
  induction count with
  | zero => rfl
  | succ count ih => simp [List.replicate_succ, readCount, ih]

def readMany (codec : Codec α) : ℕ → List UInt8 → Option (List α × List UInt8)
  | 0, bytes => some ([], bytes)
  | count + 1, bytes => do
    let (a, bytes) ← codec.decode bytes
    let (rest, bytes) ← readMany codec count bytes
    return (a :: rest, bytes)

theorem readMany_flatMap (codec : Codec α) (elements : List α) (rest : List UInt8) :
    readMany codec elements.length (elements.flatMap codec.encode ++ rest) =
      some (elements, rest) := by
  induction elements with
  | nil => rfl
  | cons a elements ih => simp [readMany, List.append_assoc, codec.decode_encode, ih]

def list (codec : Codec α) : Codec (List α) where
  encode elements :=
    List.replicate elements.length 1 ++ 0 :: elements.flatMap codec.encode
  decode bytes := do
    let (count, bytes) ← readCount bytes
    readMany codec count bytes
  decode_encode elements rest := by
    rw [List.append_assoc, List.cons_append]
    simp [readCount_replicate, readMany_flatMap]

/-! ## Fixed-width numbers -/

def digits : ℕ → ℕ → List UInt8
  | 0, _ => []
  | width + 1, n => .ofNat (n % 256) :: digits width (n / 256)

def readDigits : ℕ → List UInt8 → Option (ℕ × List UInt8)
  | 0, bytes => some (0, bytes)
  | _ + 1, [] => none
  | width + 1, byte :: bytes =>
    (readDigits width bytes).map fun (n, bytes) => (byte.toNat + 256 * n, bytes)

theorem readDigits_digits {width n : ℕ} (hn : n < 256 ^ width) (rest : List UInt8) :
    readDigits width (digits width n ++ rest) = some (n, rest) := by
  induction width generalizing n with
  | zero =>
    obtain rfl : n = 0 := by simpa using hn
    rfl
  | succ width ih =>
    have hquotient : n / 256 < 256 ^ width := by
      rw [Nat.div_lt_iff_lt_mul (by decide)]
      simpa [pow_succ] using hn
    have hdigit : n % 256 + 256 * (n / 256) = n := Nat.mod_add_div n 256
    simp [digits, readDigits, ih hquotient, hdigit]

def fin (width : ℕ) : Codec (Fin (256 ^ width)) where
  encode n := digits width n
  decode bytes := (readDigits width bytes).bind fun (n, bytes) =>
    if hn : n < 256 ^ width then some (⟨n, hn⟩, bytes) else none
  decode_encode n rest := by simp [readDigits_digits n.isLt]

def uint8 : Codec UInt8 :=
  (fin 1).retract (fun n => ⟨n.toNat, by have hn := n.toNat_lt; omega⟩) (fun n => .ofNat n)
    fun n => by simp

def uint16 : Codec UInt16 :=
  (fin 2).retract (fun n => ⟨n.toNat, by have hn := n.toNat_lt; omega⟩) (fun n => .ofNat n)
    fun n => by simp

def uint32 : Codec UInt32 :=
  (fin 4).retract (fun n => ⟨n.toNat, by have hn := n.toNat_lt; omega⟩) (fun n => .ofNat n)
    fun n => by simp

theorem char_toNat_lt (c : Char) : c.toNat < 256 ^ 3 := by
  have hvalid := c.valid
  simp only [UInt32.isValidChar, Nat.isValidChar] at hvalid
  have hval : c.toNat = c.val.toNat := rfl
  omega

def char : Codec Char :=
  (fin 3).retract (fun c => ⟨c.toNat, char_toNat_lt c⟩) (fun n => .ofNat n) fun c => by simp

def bool : Codec Bool :=
  (sum unit unit).retract (fun b => if b then .inr () else .inl ()) Sum.isRight
    fun b => by cases b <;> rfl

def option (codec : Codec α) : Codec (Option α) :=
  (sum unit codec).retract (fun a => a.elim (.inl ()) .inr) Sum.getRight?
    fun a => by cases a <;> rfl

end Codec
