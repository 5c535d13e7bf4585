import StaticServer.Octets
import StaticServer.Text.Decimal
import StaticServer.Yaml.Scalar

/-!
# YAML tokens

A YAML text is cut into tokens: scalars, indicators, and the starts and ends of blocks that indentation makes. A
scalar may turn out to be the key of a mapping only at the colon behind it; the tokens that say so are then put in
front of it. That works on one line and over a limited number of octets.

The text of a tag is a string of octets, since its escapes may write any. It ends at a zero octet.

* `Token.ofText?`: the tokens of a text, if it can be cut into tokens.
-/

namespace StaticServer

namespace Yaml

/-- A token. -/
inductive Token
  | versionDirective (major minor : Nat)
  | tagDirective (handle : List Char) (expansion : Bytes)
  | documentStart
  | documentEnd
  | blockSequenceStart
  | blockMappingStart
  | blockEnd
  | flowSequenceStart
  | flowSequenceEnd
  | flowMappingStart
  | flowMappingEnd
  | blockEntry
  | flowEntry
  | key
  | value
  | alias (name : List Char)
  | anchor (name : List Char)
  | tag (handle : List Char) (suffix : Bytes)
  | scalar (style : ScalarStyle) (text : List Char)
  deriving DecidableEq, Repr

/-! ## Names and tags -/

namespace Token

/-- The name of an anchor or alias whose indicator has been read, and the source behind it. -/
def anchorName? (s : Source) : Option (List Char × Source) :=
  let name := s.rest.takeWhile isWord
  let s := s.drop name.length
  let ended := spaceNext s.rest || s.rest.head?.any fun c => "?:,]\x7d%@".toList.contains c || c.toNat == 96
  if name.isEmpty || !ended then none else some (name, s)

/-- The characters of a tag, escapes apart; a tag in angle brackets or of a directive may hold more. -/
def isTagChar (wide : Bool) (c : Char) : Bool :=
  isWord c || ";/?:@&=+$.%!~*\x27()".toList.contains c || (wide && ",[]".toList.contains c)

/-- The number of octets that an escaped character starting with this octet has. -/
def escapedLength? (octet : Nat) : Option Nat :=
  if octet < 0x80 then some 1
  else if 0xC0 ≤ octet ∧ octet < 0xE0 then some 2
  else if 0xE0 ≤ octet ∧ octet < 0xF0 then some 3
  else if 0xF0 ≤ octet ∧ octet < 0xF8 then some 4
  else none

/-- `count` escaped octets, each of the kind that continues a character unless it comes first. -/
def escapedOctets? (first : Bool) (cs : List Char) : (count : Nat) → Option (Bytes × List Char)
  | 0 => some ([], cs)
  | count + 1 =>
    match cs with
    | '%' :: digits =>
      match Quoted.hex? 2 digits with
      | none => none
      | some (octet, rest) =>
        if !first && !(0x80 ≤ octet && octet < 0xC0) then none
        else (escapedOctets? false rest count).map fun (more, rest) => (octet.toUInt8 :: more, rest)
    | _ => none

/-- The octets of a tag with its escapes read, and what follows it. -/
def tagText? (wide : Bool) (cs : List Char) : (fuel : Nat) → Option (Bytes × List Char)
  | 0 => some ([], cs)
  | fuel + 1 =>
    match cs with
    | '%' :: digits =>
      match (Quoted.hex? 2 digits).bind fun (octet, _) => escapedLength? octet with
      | none => none
      | some count =>
        match escapedOctets? true cs count with
        | none => none
        | some (text, rest) => (tagText? wide rest fuel).map fun (more, rest) => (text ++ more, rest)
    | c :: rest =>
      if isTagChar wide c then (tagText? wide rest fuel).map fun (more, rest) => (c.toNat.toUInt8 :: more, rest)
      else some ([], cs)
    | [] => some ([], [])

/-- The source behind what has been read of it. -/
def behind (s : Source) (rest : List Char) : Source := s.drop (s.rest.length - rest.length)

/-- The octets of a tag, and the source behind it. -/
def tagUri? (wide : Bool) (s : Source) : Option (Bytes × Source) :=
  (tagText? wide s.rest (s.rest.length + 1)).map fun (text, rest) => (text, behind s rest)

/-- The octets in front of the first zero octet. -/
def untilZero (octets : Bytes) : Bytes := octets.takeWhile (· != 0)

/-- The tag that is an exclamation mark alone. -/
def loneTag : Bytes := Bytes.ofText "!"

/-- The handle at the start of a tag: an exclamation mark, or two around a word; the word is part of the handle even
if the second mark is missing. -/
def tagHandle (s : Source) : List Char × Source :=
  let word := (s.rest.drop 1).takeWhile isWord
  let s := s.drop (word.length + 1)
  if s.startsWith ['!'] then ('!' :: word ++ ['!'], s.drop 1) else ('!' :: word, s)

/-- The handle and the suffix of a tag, and the source behind it. -/
def tag? (inFlow : Bool) (s : Source) : Option (Token × Source) :=
  let parts :=
    if s.startsWith ['!', '<'] then
      match tagUri? true (s.drop 2) with
      | some (uri, s) => if uri.isEmpty || !s.startsWith ['>'] then none else some ([], untilZero uri, s.drop 1)
      | none => none
    else
      let (handle, s) := tagHandle s
      if 2 ≤ handle.length ∧ handle.getLast? = some '!' then
        match tagUri? false s with
        | some (uri, s) => if uri.isEmpty then none else some (handle, untilZero uri, s)
        | none => none
      else
        match tagUri? false s with
        | some (uri, s) =>
          let suffix := untilZero (Bytes.ofText (String.ofList (handle.drop 1)) ++ uri)
          some (if suffix.isEmpty then ([], loneTag, s) else (['!'], suffix, s))
        | none => none
  match parts with
  | none => none
  | some (handle, suffix, s) =>
    if (inFlow && s.startsWith [',']) || spaceNext s.rest then some (.tag handle suffix, s) else none

/-! ## Directives -/

/-- A number of at most nine digits, and the source behind it. -/
def versionNumber? (s : Source) : Option (Nat × Source) :=
  let digits := s.rest.takeWhile Char.isDigit
  if 9 < digits.length then none else (Decimal.value? digits).map fun n => (n, s.drop digits.length)

/-- A directive whose percent sign has been read, and the source behind its line. -/
def directive? (s : Source) : Option (Token × Source) := do
  let name := s.rest.takeWhile isWord
  let s := s.drop name.length
  if !spaceNext s.rest then none
  let s := s.dropWhile isBlank
  let (token, s) ←
    if name = "YAML".toList then do
      let (major, s) ← versionNumber? s
      if !s.startsWith ['.'] then none
      let (minor, s) ← versionNumber? (s.drop 1)
      pure (Token.versionDirective major minor, s)
    else if name = "TAG".toList then do
      if !s.startsWith ['!'] then none
      let (handle, s) := tagHandle s
      if handle != ['!'] && (handle.length < 2 || handle.getLast? != some '!') then none
      if !(s.rest.head?.any isBlank) then none
      let (expansion, s) ← tagUri? true (s.dropWhile isBlank)
      if expansion.isEmpty || !spaceNext s.rest then none
      pure (Token.tagDirective handle (untilZero expansion), s)
    else none
  let s ← s.dropLineEnd?
  pure (token, s)

end Token

/-! ## Cutting a text into tokens -/

/-- A place where the key of a mapping may have started. -/
structure KeyStart where
  /-- Nothing but a key can stand here. -/
  required : Bool
  /-- The number of tokens before it. -/
  position : Nat
  index : Nat
  line : Nat
  column : Nat
  deriving DecidableEq, Repr

/-- A text that has been cut into tokens in part. -/
structure Scanner where
  source : Source
  tokens : List Token := []
  /-- The column of the innermost block, or less than zero outside of all. -/
  indent : Int := -1
  /-- The columns of the blocks around it. -/
  outerIndents : List Int := []
  /-- A key may start here. -/
  keyAllowed : Bool := true
  /-- Where a key may have started, in the flow collection at hand. -/
  key : Option KeyStart := none
  /-- The same for each collection around it. -/
  outerKeys : List (Option KeyStart) := []
  deriving Repr

namespace Scanner

/-- The most octets of a key that is recognised behind its end. -/
def maxKeyLength : Nat := 1024

def inFlow (s : Scanner) : Bool := !s.outerKeys.isEmpty

def emit (s : Scanner) (t : Token) : Scanner := { s with tokens := s.tokens ++ [t] }

/-- Reads `count` characters. -/
def skip (s : Scanner) (count : Nat) : Scanner := { s with source := s.source.drop count }

/-- Puts a token in front of those from a position on. -/
def insertAt (s : Scanner) (position : Nat) (t : Token) : Scanner :=
  { s with tokens := s.tokens.take position ++ t :: s.tokens.drop position }

/-! ### Keys -/

/-- A key start that lies on another line or too far back. -/
def isStale (source : Source) (k : KeyStart) : Bool := k.line < source.line || k.index + maxKeyLength < source.index

/-- The key start unless it is stale; nothing if a key was required there. -/
def refresh? (source : Source) : Option KeyStart → Option (Option KeyStart)
  | none => some none
  | some k => if isStale source k then if k.required then none else some none else some (some k)

/-- Forgets all stale key starts. -/
def refreshKeys? (s : Scanner) : Option Scanner := do
  let key ← refresh? s.source s.key
  let outerKeys ← s.outerKeys.mapM (refresh? s.source)
  pure { s with key := key, outerKeys := outerKeys }

/-- Gives up the key start of the collection at hand, where no key is required. -/
def dropKey? (s : Scanner) : Option Scanner :=
  if s.key.any KeyStart.required then none else some { s with key := none }

/-- The key start at the place that has been reached. -/
def keyStart (s : Scanner) : KeyStart :=
  { required := !s.inFlow && s.indent == s.source.column
    position := s.tokens.length
    index := s.source.index
    line := s.source.line
    column := s.source.column }

/-- Notes that a key may start here. -/
def saveKey? (s : Scanner) : Option Scanner :=
  if s.keyAllowed then (s.dropKey?).map fun dropped => { dropped with key := some s.keyStart } else some s

/-! ### Indentation -/

/-- Starts a block at a column, unless the innermost block is as far in. -/
def roll (s : Scanner) (column : Nat) (position : Nat) (t : Token) : Scanner :=
  if !s.inFlow && decide (s.indent < column) then
    { s.insertAt position t with indent := column, outerIndents := s.indent :: s.outerIndents }
  else s

/-- Ends the blocks that are further in than a column. -/
def unrollBlocks (column indent : Int) (tokens : List Token) : List Int → Int × List Int × List Token
  | [] => (indent, [], tokens)
  | outer :: rest =>
    if column < indent then unrollBlocks column outer (tokens ++ [.blockEnd]) rest else (indent, outer :: rest, tokens)

/-- Ends the blocks that are further in than a column. -/
def unroll (s : Scanner) (column : Int) : Scanner :=
  if s.inFlow then s
  else
    let (indent, outerIndents, tokens) := unrollBlocks column s.indent s.tokens s.outerIndents
    { s with indent := indent, outerIndents := outerIndents, tokens := tokens }

/-! ### White space and comments -/

/-- Reads white space and comments up to the next token, and the mark that may start a line. Tabs do not count where a
key may start in a block. -/
def skipSpace (s : Scanner) : (fuel : Nat) → Scanner
  | 0 => s
  | fuel + 1 =>
    let source := if s.source.column = 0 ∧ s.source.rest.head? = some byteOrderMark then s.source.advance else s.source
    let source := source.dropWhile fun c => c == ' ' || ((s.inFlow || !s.keyAllowed) && c == '\t')
    let source := if source.startsWith ['#'] then source.dropWhile (fun c => !isBreak c) else source
    if source.rest.head?.any isBreak then
      skipSpace { s with source := source.advance, keyAllowed := s.keyAllowed || !s.inFlow } fuel
    else { s with source := source }

/-! ### Tokens -/

/-- A token of its own, behind which a key may start or not. -/
def single? (s : Scanner) (length : Nat) (keyAllowed : Bool) (t : Token) : Option Scanner :=
  (s.dropKey?).map fun s => ({ s with keyAllowed := keyAllowed }.skip length).emit t

/-- The mark that starts or ends a document. -/
def documentMark? (s : Scanner) (t : Token) : Option Scanner := (s.unroll (-1)).single? 3 false t

/-- A directive. -/
def directive? (s : Scanner) : Option Scanner := do
  let s ← (s.unroll (-1)).dropKey?
  let (t, source) ← Token.directive? (s.source.drop 1)
  pure ({ s with keyAllowed := false, source := source }.emit t)

/-- The start of a flow collection. -/
def openFlow? (s : Scanner) (t : Token) : Option Scanner :=
  (s.saveKey?).map fun s =>
    ({ s with key := none, outerKeys := s.key :: s.outerKeys, keyAllowed := true }.skip 1).emit t

/-- The end of a flow collection. -/
def closeFlow? (s : Scanner) (t : Token) : Option Scanner :=
  (s.dropKey?).map fun s =>
    let s :=
      match s.outerKeys with
      | [] => s
      | key :: rest => { s with key := key, outerKeys := rest }
    ({ s with keyAllowed := false }.skip 1).emit t

/-- A hyphen or question mark that may start a block. -/
def blockIndicator? (s : Scanner) (start t : Token) (keyAllowed : Bool) : Option Scanner :=
  if !s.inFlow && !s.keyAllowed then none
  else (s.roll s.source.column s.tokens.length start).single? 1 keyAllowed t

/-- The colon in front of a value: behind a key, the tokens that say so are put in front of the key. -/
def value? (s : Scanner) : Option Scanner :=
  match s.key with
  | some k =>
    let s := (s.insertAt k.position .key).roll k.column k.position .blockMappingStart
    some (({ s with key := none, keyAllowed := false }.skip 1).emit .value)
  | none =>
    if !s.inFlow && !s.keyAllowed then none
    else
      let s := s.roll s.source.column s.tokens.length .blockMappingStart
      some (({ s with keyAllowed := !s.inFlow }.skip 1).emit .value)

/-- A token that may be the key of a mapping. -/
def keyToken? (s : Scanner) (read : Source → Option (Token × Source)) : Option Scanner := do
  let s ← s.saveKey?
  let (t, source) ← read s.source
  pure ({ s with keyAllowed := false, source := source }.emit t)

/-- A plain scalar. After a line end behind it a key may start. -/
def plain? (s : Scanner) : Option Scanner := do
  let s ← s.saveKey?
  let (text, source, broken) ← Plain.scan s.inFlow (s.indent + 1) [] {} s.source (s.source.rest.length + 1)
  pure ({ s with keyAllowed := broken, source := source }.emit (.scalar .plain text))

/-- A block scalar. -/
def block? (s : Scanner) (style : ScalarStyle) : Option Scanner := do
  let s ← s.dropKey?
  let (text, source) ← Block.scan (style == .folded) s.indent (s.source.drop 1)
  pure ({ s with keyAllowed := true, source := source }.emit (.scalar style text))

/-- A quoted scalar. -/
def quoted? (s : Scanner) (style : ScalarStyle) : Option Scanner :=
  s.keyToken? fun source =>
    (Quoted.scan (style == .singleQuoted) [] (source.drop 1) source.rest.length).map fun (text, source) =>
      (.scalar style text, source)

/-- The characters that no plain scalar starts with. -/
def indicators : List Char := "-?:,[]\x7b\x7d#&*!|>\x27\x22%@\x60".toList

/-- A plain scalar may start here. -/
def startsPlain (s : Scanner) (c : Char) (rest : List Char) : Bool :=
  (!isSpace c && !indicators.contains c) || (c == '-' && !(rest.head?.any isBlank)) ||
    (!s.inFlow && (c == '?' || c == ':') && !spaceNext rest)

/-- The next token, at its first character. -/
def token? (s : Scanner) (c : Char) (rest : List Char) : Option Scanner :=
  let spaced := spaceNext rest
  if s.source.column = 0 ∧ c = '%' then s.directive?
  else if s.source.startsMark '-' then s.documentMark? .documentStart
  else if s.source.startsMark '.' then s.documentMark? .documentEnd
  else if c = '[' then s.openFlow? .flowSequenceStart
  else if c = '{' then s.openFlow? .flowMappingStart
  else if c = ']' then s.closeFlow? .flowSequenceEnd
  else if c = '}' then s.closeFlow? .flowMappingEnd
  else if c = ',' then s.single? 1 true .flowEntry
  else if c = '-' ∧ spaced then s.blockIndicator? .blockSequenceStart .blockEntry true
  else if c = '?' ∧ (s.inFlow ∨ spaced) then s.blockIndicator? .blockMappingStart .key !s.inFlow
  else if c = ':' ∧ (s.inFlow ∨ spaced) then s.value?
  else if c = '*' then
    s.keyToken? fun source => (Token.anchorName? (source.drop 1)).map fun (n, source) => (.alias n, source)
  else if c = '&' then
    s.keyToken? fun source => (Token.anchorName? (source.drop 1)).map fun (n, source) => (.anchor n, source)
  else if c = '!' then s.keyToken? (Token.tag? s.inFlow)
  else if c = '|' ∧ !s.inFlow then s.block? .literal
  else if c = '>' ∧ !s.inFlow then s.block? .folded
  else if c = '\x27' then s.quoted? .singleQuoted
  else if c = '\x22' then s.quoted? .doubleQuoted
  else if s.startsPlain c rest then s.plain?
  else none

/-- The tokens of the whole text. -/
def run (s : Scanner) : (fuel : Nat) → Option (List Token)
  | 0 => none
  | fuel + 1 =>
    match (s.skipSpace (s.source.rest.length + 1)).refreshKeys? with
    | none => none
    | some s =>
      match s.source.rest with
      | [] => ((s.unroll (-1)).dropKey?).map Scanner.tokens
      | c :: rest =>
        match (s.unroll s.source.column).token? c rest with
        | none => none
        | some s => run s fuel

end Scanner

/-- The tokens of a text, if it can be cut into tokens. -/
def Token.ofText? (text : List Char) : Option (List Token) :=
  (Source.ofText? text).bind fun source => Scanner.run { source := source } (source.rest.length + 1)

end Yaml

end StaticServer
