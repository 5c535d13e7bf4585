/-!
# Numbers in a base

Digits of a base of at most sixteen, and the numbers they write, the most significant digit first. Letters of either
case stand for the digits above nine.

* `extend?_append`: digits put behind a number continue it.
-/

namespace StaticServer

namespace Radix

/-- The value of a digit. -/
def digit? (base : Nat) (c : Char) : Option Nat :=
  let value :=
    if '0' ≤ c ∧ c ≤ '9' then c.toNat - 48
    else if 'a' ≤ c ∧ c ≤ 'f' then c.toNat - 87
    else if 'A' ≤ c ∧ c ≤ 'F' then c.toNat - 55
    else base
  if value < base then some value else none

/-- The number that digits write behind those of `n`. -/
def extend? (base n : Nat) : List Char → Option Nat
  | [] => some n
  | c :: rest => (digit? base c).bind fun d => extend? base (n * base + d) rest

/-- The number that digits write; no digits write zero. -/
def value? (base : Nat) (cs : List Char) : Option Nat := extend? base 0 cs

theorem extend?_append (base n : Nat) (a b : List Char) :
    extend? base n (a ++ b) = (extend? base n a).bind fun m => extend? base m b := by
  induction a generalizing n with
  | nil => rfl
  | cons c rest ih =>
    simp only [List.cons_append, extend?]
    cases digit? base c with
    | none => rfl
    | some d => simp [ih]

end Radix

end StaticServer
