import Mathlib

/-!
# Numbers in decimal

Natural numbers and integers as texts.  A text is read as a number if it is a row of digits,
with a minus sign before it for an integer; what was written is read back
(`parseNat_showNat`, `parseInt_showInt`).
-/

namespace Decimal

def showNat (n : ℕ) : List Char := Nat.toDigits 10 n

def showInt : ℤ → List Char
  | .ofNat n => showNat n
  | .negSucc n => '-' :: showNat (n + 1)

def parseNat (text : List Char) : Option ℕ :=
  if text ≠ [] ∧ text.all Char.isDigit then some (Nat.ofDigitChars 10 text 0) else none

def parseInt (text : List Char) : Option ℤ :=
  if text.head? = some '-' then (parseNat text.tail).map fun n => -(n : ℤ)
  else (parseNat text).map Int.ofNat

theorem isDigit_of_mem_showNat {n : ℕ} {c : Char} (hc : c ∈ showNat n) : c.isDigit = true :=
  Nat.isDigit_of_mem_toDigits (by decide) le_rfl hc

theorem showNat_ne_nil (n : ℕ) : showNat n ≠ [] := Nat.toDigits_ne_nil

theorem parseNat_showNat (n : ℕ) : parseNat (showNat n) = some n := by
  have hdigits : (showNat n).all Char.isDigit = true :=
    List.all_eq_true.mpr fun _ => isDigit_of_mem_showNat
  rw [parseNat, if_pos ⟨showNat_ne_nil n, hdigits⟩]
  exact congrArg some Nat.ofDigitChars_ten_toDigits

theorem head_showNat_ne (n : ℕ) : (showNat n).head? ≠ some '-' := by
  intro hhead
  have hdigit := isDigit_of_mem_showNat (List.mem_of_mem_head? hhead)
  exact absurd hdigit (by decide)

theorem parseInt_showInt (n : ℤ) : parseInt (showInt n) = some n := by
  cases n with
  | ofNat n =>
    rw [showInt, parseInt, if_neg (head_showNat_ne n), parseNat_showNat]
    rfl
  | negSucc n =>
    rw [showInt, parseInt, List.head?_cons, if_pos rfl, List.tail_cons, parseNat_showNat]
    rfl

end Decimal
