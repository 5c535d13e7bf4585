import StaticServer.Target.Host
import StaticServer.Target.Segment

/-!
# Request targets

The target of a request is a path, or a path behind `http://` and an authority. It is reduced to the path that is
served: dot segments are carried out, the query and the fragment are dropped, and escapes are read.

The reference that a target makes is read the way addresses are read everywhere: blanks at its end and tabs and line
ends anywhere do not count, a backslash is a slash, and two separators at its start introduce an authority, which has
to be valid and is then dropped.

* `origin?`: the part of a target that starts with a slash.
* `reference?`: the segments that a reference addresses.
* `normalize?`: the path served for a target.
-/

namespace StaticServer

namespace Target

/-! ## Authority -/

/-- A character that ends an authority. -/
def endsAuthority (c : Char) : Bool := isSeparator c || endsPath c

/-- What follows the last at sign, or all if there is none. -/
def dropUser (authority : List Char) : List Char := (authority.reverse.takeWhile (· != '@')).reverse

/-- The host of an authority without user, and what follows it: a colon ends the host unless it is inside square
brackets. -/
def splitPort (inBrackets : Bool) : List Char → List Char × List Char
  | [] => ([], [])
  | c :: rest =>
    if c = ':' ∧ inBrackets = false then ([], c :: rest)
    else
      let (host, port) := splitPort (if c = '[' then true else if c = ']' then false else inBrackets) rest
      (c :: host, port)

/-- A colon and the number of a port, which may be missing. -/
def isPort : List Char → Bool
  | [] => true
  | ':' :: cs => (Radix.value? 10 cs).any (· ≤ 65535)
  | _ => false

/-- A valid authority. -/
def isAuthority (authority : List Char) : Bool :=
  let (host, port) := splitPort false (dropUser authority)
  !host.isEmpty && Host.isValid host && isPort port

/-- The segments addressed by an authority with a path behind it. -/
def afterAuthority? (cs : List Char) : Option (List (List Char)) :=
  if isAuthority (cs.takeWhile fun c => !endsAuthority c) then
    match cs.dropWhile fun c => !endsAuthority c with
    | [] => some (resolve [])
    | c :: rest => some (resolve (if isSeparator c then rest else c :: rest))
  else none

/-! ## References -/

/-- Controls and the space, which do not count at the end of a reference. -/
def isTrailing (c : Char) : Bool := c.toNat ≤ 32

/-- Tabs and line ends, which do not count anywhere in a reference. -/
def isIgnored (c : Char) : Bool := c == '\t' || c == '\n' || c == '\r'

/-- The characters of a reference that count. -/
def significant (cs : List Char) : List Char :=
  (cs.reverse.dropWhile isTrailing).reverse.filter fun c => !isIgnored c

/-- The segments that a reference starting with a slash addresses. Two separators at its start introduce an authority;
unless both are slashes, all separators there do. -/
def reference? (cs : List Char) : Option (List (List Char)) :=
  match (significant cs).drop 1 with
  | [] => some (resolve [])
  | c :: rest =>
    if c = '/' then afterAuthority? rest
    else if isSeparator c then afterAuthority? (rest.dropWhile isSeparator)
    else some (resolve (c :: rest))

/-! ## Targets -/

/-- What comes before the authority in the absolute form of a target. -/
def scheme : List Char := ['h', 't', 't', 'p', ':', '/', '/']

/-- The part of a target that starts with a slash: all of it, or, in the absolute form, what starts at the first slash
behind the scheme. -/
def origin? (target : List Char) : Option (List Char) :=
  let origin :=
    if Text.sameLetters (target.take scheme.length) scheme then (target.drop scheme.length).dropWhile (· != '/')
    else target
  if origin.head? = some '/' then some origin else none

/-- The text that a path with escapes stands for, if it is one and holds no zero character. -/
def decode? (path : List Char) : Option String :=
  match Bytes.text? (Text.unescape (Bytes.ofText (String.ofList path))) with
  | none => none
  | some s => if s.toList.contains (Char.ofNat 0) then none else some s

/-- The path served for a target. The slashes at the start of the target count as one, so that the first segment is
not taken for an authority. -/
def normalize? (target : String) : Option String := do
  let origin ← origin? target.toList
  let path ← reference? ('/' :: origin.dropWhile (· == '/'))
  decode? (join path)

end Target

end StaticServer
