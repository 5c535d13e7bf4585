import StaticServer.Text.Decimal
import StaticServer.Text.Radix

/-!
# Numeric hosts

A host whose last label is a number has to be an IPv4 address, and a host in square brackets an IPv6 address.

An IPv4 address has one to four parts. Each part is decimal, octal behind a zero, or hexadecimal behind `0x`; the last
part fills the octets that the parts before it leave. An IPv6 address has eight groups of up to four hexadecimal
digits, of which two colons in a row stand for one or more zero groups; four decimal octets may write the last two
groups.

* `ipv4?`: the number of an IPv4 address.
* `ipv6?`: the groups of an IPv6 address.
-/

namespace StaticServer

namespace Target

namespace Host

/-- The pieces between the separators, at least one. -/
def pieces (separator : Char) : List Char → List (List Char)
  | [] => [[]]
  | c :: rest =>
    if c = separator then [] :: pieces separator rest
    else
      match pieces separator rest with
      | piece :: more => (c :: piece) :: more
      | [] => [[c]]

/-! ## IPv4 -/

/-- The value of one part of an IPv4 address. -/
def part? : List Char → Option Nat
  | [] => none
  | '0' :: 'x' :: rest => Radix.value? 16 rest
  | '0' :: 'X' :: rest => Radix.value? 16 rest
  | ['0'] => some 0
  | '0' :: rest => Radix.value? 8 rest
  | cs => Radix.value? 10 cs

/-- The labels of a host, an empty one at the end left out. -/
def labels (host : List Char) : List (List Char) :=
  let all := pieces '.' host
  if all.getLast? = some [] then all.dropLast else all

/-- The last label is a number, so the host has to be an IPv4 address. -/
def endsInNumber (host : List Char) : Bool :=
  match (labels host).getLast? with
  | none => false
  | some last => (!last.isEmpty && last.all Char.isDigit) || (part? last).isSome

/-- The number of an IPv4 address, if the parts make one. -/
def ipv4? (host : List Char) : Option Nat :=
  let parts := labels host
  match parts.getLast?.bind part?, parts.dropLast.mapM part? with
  | some last, some leading =>
    if leading.length < 4 && leading.all (· ≤ 255) && last < 1 <<< (8 * (4 - leading.length)) then
      some (leading.foldl (fun n part => n * 256 + part) 0 <<< (8 * (4 - leading.length)) + last)
    else none
  | _, _ => none

/-! ## IPv6 -/

/-- The number of one group of up to four hexadecimal digits. -/
def group? (cs : List Char) : Option Nat := if cs.isEmpty || 4 < cs.length then none else Radix.value? 16 cs

/-- A decimal number up to 255 without a leading zero. -/
def octet? (cs : List Char) : Option Nat := (Decimal.value? cs).filter fun n => n ≤ 255 && Decimal.digits n == cs

/-- The two groups that four decimal octets write. -/
def dottedQuad? (cs : List Char) : Option (List Nat) :=
  match (pieces '.' cs).mapM octet? with
  | some [a, b, c, d] => some [a * 256 + b, c * 256 + d]
  | _ => none

/-- The groups that the pieces of one side of an address write, if they write groups. Four decimal octets may write the
last two groups of an address. -/
def groups? (atEnd : Bool) : List (List Char) → Option (List Nat)
  | [] => some []
  | [last] =>
    match group? last with
    | some n => some [n]
    | none => if atEnd then dottedQuad? last else none
  | group :: rest =>
    match group? group, groups? atEnd rest with
    | some n, some ns => some (n :: ns)
    | _, _ => none

/-- The groups of one side of an address, which may be empty. -/
def side? (atEnd : Bool) (cs : List Char) : Option (List Nat) :=
  if cs.isEmpty then some [] else groups? atEnd (pieces ':' cs)

/-- The text before and behind the first two colons in a row. -/
def splitDoubleColon : List Char → Option (List Char × List Char)
  | ':' :: ':' :: rest => some ([], rest)
  | c :: rest => (splitDoubleColon rest).map fun (before, behind) => (c :: before, behind)
  | [] => none

/-- The number of groups of an IPv6 address. -/
def groupCount : Nat := 8

/-- The groups of an IPv6 address. -/
def ipv6? (cs : List Char) : Option (List Nat) :=
  match splitDoubleColon cs with
  | none => (groups? true (pieces ':' cs)).filter fun groups => groups.length == groupCount
  | some (before, behind) =>
    match side? false before, side? true behind with
    | some a, some b =>
      if a.length + b.length < groupCount then some (a ++ List.replicate (groupCount - a.length - b.length) 0 ++ b)
      else none
    | _, _ => none

end Host

end Target

end StaticServer
