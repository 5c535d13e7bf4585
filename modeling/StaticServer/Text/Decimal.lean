import StaticServer.Text.Radix

/-!
# Decimal numbers

Lengths are written in decimal, with no sign and no leading zero, and read from one or more ASCII digits.

* `value?_digits`: a number is read back from its digits.
-/

namespace StaticServer

namespace Decimal

/-- The decimal digits of a number, the most significant first. -/
def digits (n : Nat) : List Char := Nat.toDigits 10 n

/-- The number written by one or more digits. -/
def value? (cs : List Char) : Option Nat := if cs.isEmpty then none else Radix.value? 10 cs

theorem digit?_digitChar {d : Nat} (h : d < 10) : Radix.digit? 10 (Nat.digitChar d) = some d := by
  revert d
  decide

theorem extend?_digits (n : Nat) : Radix.extend? 10 0 (digits n) = some n := by
  induction n using Nat.strongRecOn with
  | ind n ih =>
    rw [digits, Nat.toDigits_eq_if (by decide)]
    split
    · next h => simp [Radix.extend?, digit?_digitChar h]
    · next h =>
      have hd : n % 10 < 10 := Nat.mod_lt _ (by decide)
      have hq : Radix.extend? 10 0 (Nat.toDigits 10 (n / 10)) = some (n / 10) := ih _ (by omega)
      rw [Radix.extend?_append, hq]
      simp [Radix.extend?, digit?_digitChar hd]
      omega

theorem digits_ne_nil (n : Nat) : digits n ≠ [] := by
  rw [digits, Nat.toDigits_eq_if (by decide)]
  split <;> simp

theorem value?_digits (n : Nat) : value? (digits n) = some n := by
  rw [value?, List.isEmpty_eq_false_iff.2 (digits_ne_nil n)]
  exact extend?_digits n

end Decimal

end StaticServer
