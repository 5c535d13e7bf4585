import StaticServer.Text.Radix
import StaticServer.Yaml.Source

/-!
# YAML scalars

A scalar is a text written plainly, between quotes, or as an indented block. Where a plain or quoted text goes on
over several lines, a single line end is folded to a space and further ones are kept; a block keeps its line ends, or
folds them between lines that start with no blank.

* `Plain.scan`, `Quoted.scan`, `Block.scan`: the text of a scalar, and the source behind it.
-/

namespace StaticServer

namespace Yaml

/-- How a scalar is written. -/
inductive ScalarStyle
  | plain
  | singleQuoted
  | doubleQuoted
  | literal
  | folded
  deriving DecidableEq, Repr

/-! ## White space inside a scalar -/

/-- White space between two parts of a scalar: blanks, or line ends of which the first may fold. -/
structure Gap where
  blanks : List Char := []
  /-- A line end has been seen, or was escaped. -/
  broken : Bool := false
  firstBreak : Option Char := none
  moreBreaks : List Char := []

namespace Gap

/-- The gap with one more character of white space. Blanks next to a line end do not count. -/
def add (g : Gap) (c : Char) : Gap :=
  if isBlank c then if g.broken then g else { g with blanks := g.blanks ++ [c] }
  else if g.broken then { g with moreBreaks := g.moreBreaks ++ [c] }
  else { blanks := [], broken := true, firstBreak := some c }

/-- The text that a gap stands for: a single line end is folded to a space. -/
def text (g : Gap) : List Char :=
  if !g.broken then g.blanks
  else if g.firstBreak = some '\n' then if g.moreBreaks.isEmpty then [' '] else g.moreBreaks
  else g.firstBreak.toList ++ g.moreBreaks

end Gap

/-! ## Plain scalars -/

namespace Plain

/-- The characters that structure a flow collection. -/
def isFlowIndicator (c : Char) : Bool := c == ',' || c == '[' || c == ']' || c == '{' || c == '}'

/-- The characters up to white space or to what ends a plain scalar. Inside a flow collection a colon must not be
followed by an indicator. -/
def run? (inFlow : Bool) : List Char → Option (List Char)
  | [] => some []
  | c :: rest =>
    if isSpace c then some []
    else if inFlow && c == ':' && (rest.head?.any fun d => isFlowIndicator d || d == '?') then none
    else if (c == ':' && spaceNext rest) || (inFlow && isFlowIndicator c) then some []
    else (run? inFlow rest).map fun run => c :: run

/-- Reads the white space of a gap. After a line end, a tab must not stand where indentation belongs. -/
def gap? (indent : Int) (s : Source) (g : Gap) : List Char → Option (Gap × Source)
  | [] => some (g, s)
  | c :: rest =>
    if isSpace c then
      if c == '\t' && g.broken && (s.column : Int) < indent then none
      else gap? indent s.advance (g.add c) rest
    else some (g, s)

/-- A plain scalar whose text so far is `text`: its whole text, the source behind it, and whether a line end came
last. -/
def scan (inFlow : Bool) (indent : Int) (text : List Char) (g : Gap) (s : Source) :
    (fuel : Nat) → Option (List Char × Source × Bool)
  | 0 => some (text, s, g.broken)
  | fuel + 1 =>
    if s.startsDocumentMark || s.startsWith ['#'] then some (text, s, g.broken)
    else
      match run? inFlow s.rest with
      | none => none
      | some run =>
        let (text, g) := if run.isEmpty then (text, g) else (text ++ g.text ++ run, { g with broken := false, blanks := [] })
        let s := s.drop run.length
        if !(s.rest.head?.any isSpace) then some (text, s, g.broken)
        else
          match gap? indent s {} s.rest with
          | none => none
          | some (g, s) =>
            if !inFlow && (s.column : Int) < indent then some (text, s, g.broken)
            else scan inFlow indent text g s fuel

end Plain

/-! ## Quoted scalars -/

namespace Quoted

/-- The number written by the first `count` characters in hexadecimal digits, and what follows them. -/
def hex? (count : Nat) (cs : List Char) : Option (Nat × List Char) :=
  if cs.length < count then none else (Radix.value? 16 (cs.take count)).map fun n => (n, cs.drop count)

/-- The character of a code, unless the code is a surrogate or too large. -/
def char? (code : Nat) : Option Char :=
  if (0xD800 ≤ code ∧ code ≤ 0xDFFF) ∨ 0x10FFFF < code then none else some (Char.ofNat code)

/-- The letters of the escapes for a single character, and the codes they stand for. -/
def letters : List (Char × Nat) :=
  [('0', 0), ('a', 7), ('b', 8), ('t', 9), ('\t', 9), ('n', 10), ('v', 11), ('f', 12), ('r', 13), ('e', 27), (' ', 32),
    ('\x22', 34), ('/', 47), ('\\', 92), ('N', 0x85), ('_', 0xA0), ('L', 0x2028), ('P', 0x2029)]

/-- The letters of the escapes with a code in hexadecimal digits, and how many digits they have. -/
def codeLetters : List (Char × Nat) := [('x', 2), ('u', 4), ('U', 8)]

/-- The character of an escape whose backslash has been read, and the number of characters of the escape. -/
def escape? : List Char → Option (Char × Nat)
  | [] => none
  | c :: rest =>
    match letters.lookup c with
    | some code => some (Char.ofNat code, 1)
    | none =>
      match codeLetters.lookup c with
      | none => none
      | some count => ((hex? count rest).bind fun (code, _) => char? code).map fun d => (d, count + 1)

/-- What ends a run of characters inside quotes. -/
inductive RunEnd
  /-- White space, the closing quote or the end of the text. -/
  | here
  /-- A backslash in front of a line end, which both do not count. -/
  | escapedBreak
  deriving DecidableEq

/-- The characters up to white space or the closing quote, with escapes read; how many characters they were written
with, and what ended them. -/
def run? (single : Bool) (text : List Char) (length : Nat) (cs : List Char) :
    (fuel : Nat) → Option (List Char × Nat × RunEnd)
  | 0 => some (text, length, .here)
  | fuel + 1 =>
    match cs with
    | [] => some (text, length, .here)
    | c :: rest =>
      if isSpace c then some (text, length, .here)
      else if single then
        if c != '\x27' then run? single (text ++ [c]) (length + 1) rest fuel
        else if rest.head? = some '\x27' then run? single (text ++ [c]) (length + 2) (rest.drop 1) fuel
        else some (text, length, .here)
      else if c == '\x22' then some (text, length, .here)
      else if c != '\\' then run? single (text ++ [c]) (length + 1) rest fuel
      else if rest.head?.any isBreak then some (text, length + 2, .escapedBreak)
      else
        match escape? rest with
        | none => none
        | some (d, n) => run? single (text ++ [d]) (length + 1 + n) (rest.drop n) fuel

/-- Reads the white space of a gap. -/
def gap (s : Source) (g : Gap) : List Char → Gap × Source
  | [] => (g, s)
  | c :: rest => if isSpace c then gap s.advance (g.add c) rest else (g, s)

/-- A quoted scalar whose text so far is `text`, its opening quote read: its whole text and the source behind the
closing quote. -/
def scan (single : Bool) (text : List Char) (s : Source) : (fuel : Nat) → Option (List Char × Source)
  | 0 => none
  | fuel + 1 =>
    if s.startsDocumentMark || s.rest.isEmpty then none
    else
      match run? single [] 0 s.rest (s.rest.length + 1) with
      | none => none
      | some (run, length, ending) =>
        let text := text ++ run
        let s := s.drop length
        if s.rest.head? = some (if single then '\x27' else '\x22') then some (text, s.drop 1)
        else
          let (g, s) := gap s { broken := ending == .escapedBreak } s.rest
          scan single (text ++ g.text) s fuel

end Quoted

/-! ## Block scalars -/

namespace Block

/-- What is kept of the line ends behind a block. -/
inductive Chomping
  | strip
  | clip
  | keep
  deriving DecidableEq, Repr

/-- The header of a block: what it keeps, its indentation if that is given, and the source behind the header. -/
def header? (s : Source) : Option (Chomping × Option Nat × Source) :=
  let chomping? (c : Char) : Option Chomping := if c == '+' then some .keep else if c == '-' then some .strip else none
  let result :=
    match s.rest with
    | c :: rest =>
      match chomping? c, Radix.digit? 10 c with
      | some chomping, _ =>
        match rest.head?.bind (Radix.digit? 10) with
        | some n => (chomping, some n, 2)
        | none => (chomping, none, 1)
      | none, some n =>
        match rest.head?.bind chomping? with
        | some chomping => (chomping, some n, 2)
        | none => (.clip, some n, 1)
      | none, none => (.clip, none, 0)
    | [] => (.clip, none, 0)
  let (chomping, increment, length) := result
  if increment = some 0 then none else ((s.drop length).dropLineEnd?).map fun s => (chomping, increment, s)

/-- The empty lines before a line of a block: their line ends, the largest indentation among them and the next line,
and the source at the next line. The indentation is zero where it is still to be found. A tab must not stand where
indentation belongs. -/
def emptyLines? (indent : Nat) (breaks : List Char) (widest : Nat) (s : Source) :
    (fuel : Nat) → Option (List Char × Nat × Source)
  | 0 => some (breaks, widest, s)
  | fuel + 1 =>
    let spaces := (s.rest.takeWhile (· == ' ')).length
    let s := s.drop (if indent = 0 then spaces else min spaces (indent - s.column))
    let widest := max widest s.column
    if (indent = 0 ∨ s.column < indent) ∧ s.rest.head? = some '\t' then none
    else
      match s.rest with
      | [] => some (breaks, widest, s)
      | c :: _ => if isBreak c then emptyLines? indent (breaks ++ [c]) widest s.advance fuel else some (breaks, widest, s)

/-- The lines of a block. `firstBreak` is the line end before the next line and `moreBreaks` are those of the empty
lines behind it; `blankLed` says that the line before starts with a blank. -/
def lines? (folds : Bool) (indent : Nat) (text firstBreak moreBreaks : List Char) (blankLed : Bool) (s : Source) :
    (fuel : Nat) → Option (List Char × List Char × List Char × Source)
  | 0 => some (text, firstBreak, moreBreaks, s)
  | fuel + 1 =>
    if s.column != indent || s.rest.isEmpty then some (text, firstBreak, moreBreaks, s)
    else
      let blankNext := s.rest.head?.any isBlank
      let joined :=
        if folds && firstBreak == ['\n'] && !blankLed && !blankNext then if moreBreaks.isEmpty then [' '] else []
        else firstBreak
      let line := s.rest.takeWhile fun c => !isBreak c
      let s := s.drop line.length
      let lineEnd := (s.rest.take 1)
      match emptyLines? indent [] 0 (s.drop 1) s.rest.length with
      | none => none
      | some (breaks, _, s) =>
        lines? folds indent (text ++ joined ++ moreBreaks ++ line) lineEnd breaks blankNext s fuel

/-- A block scalar whose indicator has been read, inside an indentation: its text and the source behind it. -/
def scan (folds : Bool) (outer : Int) (s : Source) : Option (List Char × Source) :=
  match header? s with
  | none => none
  | some (chomping, increment, s) =>
    let given := increment.map fun n => if 0 ≤ outer then outer.toNat + n else n
    match emptyLines? (given.getD 0) [] 0 s (s.rest.length + 1) with
    | none => none
    | some (breaks, widest, s) =>
      let indent := given.getD (max (max widest (outer + 1).toNat) 1)
      match lines? folds indent [] [] breaks false s (s.rest.length + 1) with
      | none => none
      | some (text, firstBreak, moreBreaks, s) =>
        some (text ++ (if chomping = .strip then [] else firstBreak) ++ (if chomping = .keep then moreBreaks else []), s)

end Block

end Yaml

end StaticServer
