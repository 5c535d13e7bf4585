/-!
# YAML text

A YAML text is a sequence of characters, read with an eye on where each one stands in its line: indentation has a
meaning. Line ends come in several spellings that count as one; two more separate lines and keep their spelling.

* `Source.ofText?`: the characters of a text, if it holds none that YAML refuses.
* `Source.advance`: the text behind its first character.
-/

namespace StaticServer

namespace Yaml

/-! ## Characters -/

/-- The mark that may start a line, where it does not count. -/
def byteOrderMark : Char := Char.ofNat 0xFEFF

/-- A character that a YAML text may hold. -/
def isAllowed (c : Char) : Bool :=
  let n := c.toNat
  n == 0x9 || n == 0xA || n == 0xD || (0x20 ≤ n && n ≤ 0x7E) || n == 0x85 || (0xA0 ≤ n && n ≤ 0xD7FF) ||
    (0xE000 ≤ n && n ≤ 0xFFFD) || 0x10000 ≤ n

/-- A space or a tab. -/
def isBlank (c : Char) : Bool := c == ' ' || c == '\t'

/-- A character that ends a line, with the spellings of the plain line end already made one. -/
def isBreak (c : Char) : Bool := c == '\n' || c.toNat == 0x2028 || c.toNat == 0x2029

/-- A blank or the end of a line. -/
def isSpace (c : Char) : Bool := isBlank c || isBreak c

/-- A letter, a digit, a hyphen or a low line. -/
def isWord (c : Char) : Bool := c.isAlphanum || c == '-' || c == '_'

/-- The next character is a space, ends the line or ends the text. -/
def spaceNext (cs : List Char) : Bool := (cs.head?.map isSpace).getD true

/-- The next character ends the line or the text. -/
def lineEndNext (cs : List Char) : Bool := (cs.head?.map isBreak).getD true

/-- The text with each spelling of the plain line end made a line feed. -/
def unifyBreaks : List Char → List Char
  | [] => []
  | '\r' :: '\n' :: rest => '\n' :: unifyBreaks rest
  | c :: rest => (if c = '\r' ∨ c.toNat = 0x85 then '\n' else c) :: unifyBreaks rest

/-! ## Texts with a place -/

/-- A text still to be read, and the place of its first character: how many octets come before it, its line and its
column, in which a character counts one. -/
structure Source where
  rest : List Char
  index : Nat := 0
  line : Nat := 0
  column : Nat := 0
  deriving DecidableEq, Repr

namespace Source

/-- The text behind the first character. -/
def advance (s : Source) : Source :=
  match s.rest with
  | [] => s
  | c :: rest =>
    if isBreak c then { rest := rest, index := s.index + c.utf8Size, line := s.line + 1, column := 0 }
    else { s with rest := rest, index := s.index + c.utf8Size, column := s.column + 1 }

/-- The text behind the first `count` characters. -/
def drop (s : Source) : (count : Nat) → Source
  | 0 => s
  | count + 1 => s.advance.drop count

/-- The text behind its leading characters of a kind. -/
def dropWhile (s : Source) (p : Char → Bool) : Source := s.drop (s.rest.takeWhile p).length

/-- The next characters are these. -/
def startsWith (s : Source) (cs : List Char) : Bool := cs.isPrefixOf s.rest

/-- A line starts here with a mark of three characters that stands alone. -/
def startsMark (s : Source) (mark : Char) : Bool :=
  s.column == 0 && s.startsWith [mark, mark, mark] && spaceNext (s.rest.drop 3)

/-- A document starts or ends here. -/
def startsDocumentMark (s : Source) : Bool := s.startsMark '-' || s.startsMark '.'

/-- The text behind the blanks and the comment at the end of a line, if nothing else comes there. -/
def dropLineEnd? (s : Source) : Option Source :=
  let s := s.dropWhile isBlank
  let s := if s.startsWith ['#'] then s.dropWhile (fun c => !isBreak c) else s
  if lineEndNext s.rest then some (s.drop 1) else none

/-- The characters of a text, if it holds none that YAML refuses. -/
def ofText? (text : List Char) : Option Source :=
  if text.all isAllowed then some { rest := unifyBreaks text } else none

end Source

end Yaml

end StaticServer
