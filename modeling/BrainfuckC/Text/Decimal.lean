import BrainfuckC.Text

/-!
# Decimal numerals

Line numbers, columns and depths are integers without bounds and are written
in base ten: no leading zeros, no sign for zero, a hyphen before a negative
number.
-/

namespace BrainfuckC

namespace Decimal

def ofNat (n : Nat) : Text := Nat.toDigits 10 n

def ofInt : Int → Text
  | .ofNat n => ofNat n
  | .negSucc n => '-' :: ofNat (n + 1)

@[simp] theorem ofInt_natCast (n : Nat) : ofInt (n : Int) = ofNat n := rfl

theorem ofInt_neg_succ (n : Nat) : ofInt (-((n : Int) + 1)) = '-' :: ofNat (n + 1) := by
  have h : -((n : Int) + 1) = Int.negSucc n := by omega
  rw [h]
  rfl

theorem isDigit_of_mem_ofNat {c : Char} {n : Nat} (h : c ∈ ofNat n) : c.isDigit :=
  Nat.isDigit_of_mem_toDigits (by decide) (by decide) h

theorem isDigit_of_mem_ofInt {c : Char} {n : Int} (h : c ∈ ofInt n) : c = '-' ∨ c.isDigit := by
  cases n with
  | ofNat n => exact .inr (isDigit_of_mem_ofNat h)
  | negSucc n => exact (List.mem_cons.1 h).imp_right isDigit_of_mem_ofNat

end Decimal

end BrainfuckC
