/-!
# Punycode

A label with characters beyond ASCII can be written in ASCII alone: first its ASCII characters and a hyphen, then, in
letters and digits, where each of the others goes. A place is counted over all code points and all places at once, and
is written as a number whose digits have weights of their own, which follow the numbers written before.

* `Punycode.decode?`: the characters of a label.
-/

namespace StaticServer

namespace Target

namespace Host

namespace Punycode

/-- The value of a digit: the lower-case letters, and then the decimal digits. -/
def digit? (c : Char) : Option Nat :=
  if 'a' ≤ c ∧ c ≤ 'z' then some (c.toNat - 97) else if '0' ≤ c ∧ c ≤ '9' then some (c.toNat - 22) else none

/-- A digit below the threshold of its place ends a number. -/
def threshold (bias place : Nat) : Nat := min 26 (max 1 (place - bias))

/-- Numbers and weights stay below this bound. -/
def bound : Nat := UInt32.size

/-- The number that digits add to `n`, and what follows them. -/
def number? (bias : Nat) (n weight place : Nat) : List Char → Option (Nat × List Char)
  | [] => none
  | c :: rest =>
    match digit? c with
    | none => none
    | some d =>
      let n := n + d * weight
      let weightier := weight * (36 - threshold bias place)
      if bound ≤ n then none
      else if d < threshold bias place then some (n, rest)
      else if bound ≤ weightier then none
      else number? bias n weightier (place + 36) rest

/-- The bias that goes with a number scaled down. -/
def biasOf (bias n : Nat) : Nat :=
  if _h : n ≤ 455 then bias + 36 * n / (n + 38) else biasOf (bias + 36) (n / 35)
termination_by n
decreasing_by omega

/-- The bias behind a number that put in a character, as one of `count`. -/
def adapt (n count : Nat) (first : Bool) : Nat :=
  let n := if first then n / 700 else n / 2
  biasOf 0 (n + n / count)

/-- A code point of a character. -/
def isCode (code : Nat) : Bool := code < 0xD800 || (0xDFFF < code && code ≤ 0x10FFFF)

theorem length_lt_of_number? {bias n weight place m : Nat} {cs rest : List Char}
    (h : number? bias n weight place cs = some (m, rest)) : rest.length < cs.length := by
  fun_induction number? bias n weight place cs with
  | case1 => cases h
  | case2 => cases h
  | case3 => cases h
  | case4 =>
    simp only [Option.some.injEq, Prod.mk.injEq] at h
    simp [h.2]
  | case5 => cases h
  | case6 n weight place c behind d _ _ _ _ _ _ ih =>
    have := ih h
    simp only [List.length_cons]
    omega

/-- Puts in the characters that the digits write, from a code point and a place on. -/
def insert? (bias code place : Nat) (first : Bool) (label digits : List Char) : Option (List Char) :=
  if digits.isEmpty then some label
  else
    match h : number? bias 0 1 36 digits with
    | none => none
    | some (n, rest) =>
      let count := label.length + 1
      let code := code + (place + n) / count
      let place := (place + n) % count
      if isCode code then
        insert? (adapt n count first) code (place + 1) false (label.insertIdx place (Char.ofNat code)) rest
      else none
termination_by digits.length
decreasing_by exact length_lt_of_number? h

/-- The ASCII characters of a label and the digits behind them. The last hyphen stands in between, unless nothing
comes before it. -/
def split (cs : List Char) : List Char × List Char :=
  let digits := (cs.reverse.takeWhile (· != '-')).reverse
  let count := cs.length - digits.length - 1
  if count = 0 then ([], cs) else (cs.take count, digits)

/-- The characters of a label written in ASCII. -/
def decode? (cs : List Char) : Option (List Char) :=
  let (ascii, digits) := split cs
  if ascii.all (·.toNat < 128) then insert? 72 128 0 true ascii digits else none

end Punycode

end Host

end Target

end StaticServer
