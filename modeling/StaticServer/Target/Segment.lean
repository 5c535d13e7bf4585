import StaticServer.Text.Words

/-!
# Path segments

A path is cut into segments at slashes and backslashes, up to a question mark or a number sign. A segment of one dot
is left out, and a segment of two dots takes the segment before it away. A dot may be written as an escape in either
case. A drive letter (an ASCII letter with a colon or a bar behind it) is never taken away.

* `resolve_plain`: a path without dot segments keeps every segment.
-/

namespace StaticServer

namespace Target

/-- A slash or a backslash. -/
def isSeparator (c : Char) : Bool := c == '/' || c == '\\'

/-- A character that ends the path of a target. -/
def endsPath (c : Char) : Bool := c == '?' || c == '#'

/-- The segments of a path, at least one. -/
def segments : List Char → List (List Char)
  | [] => [[]]
  | c :: rest =>
    if isSeparator c then [] :: segments rest
    else
      match segments rest with
      | segment :: more => (c :: segment) :: more
      | [] => [[c]]

/-- What a segment does to the path before it. -/
inductive SegmentKind
  | plain
  | here
  | up
  deriving DecidableEq, Repr

/-- The spellings of one dot. -/
def dotSpellings : List (List Char) := [['.'], ['%', '2', 'e']]

/-- The spellings of two dots. -/
def dotDotSpellings : List (List Char) := dotSpellings.flatMap fun a => dotSpellings.map fun b => a ++ b

/-- The kind of a segment. -/
def SegmentKind.of (segment : List Char) : SegmentKind :=
  let folded := segment.map Char.toLower
  if folded ∈ dotSpellings then .here else if folded ∈ dotDotSpellings then .up else .plain

/-- A drive letter, which stays where it is. -/
def isDriveLetter : List Char → Bool
  | [letter, mark] => letter.isAlpha && (mark == ':' || mark == '|')
  | _ => false

/-- The path before a segment of two dots, the last segment first. -/
def parent : List (List Char) → List (List Char)
  | [] => []
  | last :: before => if isDriveLetter last then last :: before else before

/-- Places segments behind the segments already placed, of which the last comes first. A dot segment at the very end
leaves an empty segment behind. -/
def place (placed : List (List Char)) : List (List Char) → List (List Char)
  | [] => placed.reverse
  | [last] =>
    match SegmentKind.of last with
    | .plain => (last :: placed).reverse
    | .here => ([] :: placed).reverse
    | .up => ([] :: parent placed).reverse
  | segment :: rest =>
    match SegmentKind.of segment with
    | .plain => place (segment :: placed) rest
    | .here => place placed rest
    | .up => place (parent placed) rest

/-- The segments of a path with its dot segments carried out. -/
def resolve (path : List Char) : List (List Char) := place [] (segments (path.takeWhile fun c => !endsPath c))

/-- The path with these segments, a slash before each. -/
def join (segments : List (List Char)) : List Char := segments.flatMap fun segment => '/' :: segment

theorem place_plain {placed rest : List (List Char)} (h : ∀ s ∈ rest, SegmentKind.of s = .plain) :
    place placed rest = placed.reverse ++ rest := by
  induction rest generalizing placed with
  | nil => simp [place]
  | cons segment more ih =>
    have hs := h segment List.mem_cons_self
    cases more with
    | nil => simp [place, hs]
    | cons next more' =>
      rw [place, hs]
      · simp [ih fun s hs => h s (List.mem_cons_of_mem _ hs)]
      · simp

/-- A path without dot segments keeps every segment. -/
theorem resolve_plain {path : List Char}
    (h : ∀ s ∈ segments (path.takeWhile fun c => !endsPath c), SegmentKind.of s = .plain) :
    resolve path = segments (path.takeWhile fun c => !endsPath c) := by
  rw [resolve, place_plain h]
  rfl

end Target

end StaticServer
