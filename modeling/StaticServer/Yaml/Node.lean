import StaticServer.Yaml.Token

/-!
# YAML documents

The tokens of a text make a tree of nodes: scalars, sequences and mappings. A node may be named by an anchor, and an
alias stands for the node of its anchor. Anchors are numbered as they come; a name given again takes the number after
all names so far, so a later new name may get the same number, and the later node then answers to it.

* `Document.ofText?`: the only document of a text.
-/

namespace StaticServer

namespace Yaml

/-- A node of a document. Tags are written out. -/
inductive Node
  | scalar (style : ScalarStyle) (tag : Option Bytes) (text : List Char)
  | sequence (tag : Option Bytes) (items : List Node)
  | mapping (tag : Option Bytes) (entries : List (Node × Node))
  /-- The node of the anchor with this number. -/
  | alias (number : Nat)
  deriving Repr

namespace Node

/-- A node that is left out. -/
def empty : Node := scalar .plain none []

end Node

/-- The anchors met so far. Nodes are counted where they start, and of two nodes with one number the one that starts
later answers to it. -/
structure Anchors where
  /-- The numbers of the names, the latest first. -/
  numbers : List (List Char × Nat) := []
  /-- Which anchored node each number means, the latest first. -/
  meanings : List (Nat × Nat) := []
  /-- The anchored nodes, by the order of their starts. -/
  nodes : List (Nat × Node) := []
  count : Nat := 0
  deriving Repr

namespace Anchors

/-- How many different names there are. -/
def nameCount (a : Anchors) : Nat := (a.numbers.map Prod.fst).eraseDups.length

/-- Names the node that starts next. -/
def declare (a : Anchors) (name : List Char) : Nat × Anchors :=
  let number := a.nameCount
  (a.count, { a with
    numbers := (name, number) :: a.numbers
    meanings := (number, a.count) :: a.meanings
    count := a.count + 1 })

/-- The node of a number. -/
def node? (a : Anchors) (number : Nat) : Option Node := (a.meanings.lookup number).bind fun start => a.nodes.lookup start

end Anchors

/-! ## From tokens to nodes -/

/-- Tokens still to be read, the anchors met, and what the handles of tags stand for. -/
structure Composer where
  tokens : List Token
  handles : List (List Char × Bytes)
  anchors : Anchors := {}
  deriving Repr

/-- A step that reads tokens, or fails where they make no document. -/
abbrev Compose := StateT Composer Option

namespace Compose

/-- The next token, which stays. -/
def peek : Compose (Option Token) := do return (← get).tokens.head?

/-- Reads the next token. -/
def skip : Compose Unit := modify fun c => { c with tokens := c.tokens.drop 1 }

/-- Says that the tokens make no document. -/
def fail {α : Type} : Compose α := fun _ => none

/-- The tag of a handle and a suffix. -/
def tagOf (handle : List Char) (suffix : Bytes) : Compose Bytes := do
  if handle.isEmpty then return suffix
  match (← get).handles.lookup handle with
  | some expansion => return expansion ++ suffix
  | none => fail

/-- The anchor and the tag in front of a node, in either order. -/
def properties : Compose (Option (List Char) × Option Bytes) := do
  match ← peek with
  | some (.anchor name) =>
    skip
    match ← peek with
    | some (.tag handle suffix) =>
      skip
      return (some name, some (← tagOf handle suffix))
    | _ => return (some name, none)
  | some (.tag handle suffix) =>
    skip
    match ← peek with
    | some (.anchor name) =>
      skip
      return (some name, some (← tagOf handle suffix))
    | _ => return (none, some (← tagOf handle suffix))
  | _ => return (none, none)

/-- Names the node that starts here, if it has an anchor. -/
def declare (name : Option (List Char)) : Compose (Option Nat) := do
  match name with
  | none => return none
  | some name =>
    let (start, anchors) := (← get).anchors.declare name
    modify fun c => { c with anchors := anchors }
    return some start

/-- Keeps a node that has an anchor. -/
def keep (start : Option Nat) (node : Node) : Compose Node := do
  match start with
  | none => return node
  | some start =>
    modify fun c => { c with anchors := { c.anchors with nodes := (start, node) :: c.anchors.nodes } }
    return node

/-- Where a part of a collection may be left out, and how it is read otherwise. -/
def unlessNext (ends : List Token) (read : Compose Node) : Compose Node := do
  match ← peek with
  | none => fail
  | some t => if ends.contains t then return .empty else read

mutual

/-- A node. In a block it may be a block collection; where indentation may be left out, a sequence may start without. -/
def node (inBlock unindented : Bool) : (fuel : Nat) → Compose Node
  | 0 => fail
  | fuel + 1 => do
    if let some (.alias name) ← peek then
      skip
      match (← get).anchors.numbers.lookup name with
      | some number => return .alias number
      | none => fail
    else
      let (name, tag) ← properties
      let start ← declare name
      match ← peek with
      | some .blockEntry =>
        if unindented then keep start (.sequence tag (← unindentedItems fuel))
        else if name.isSome || tag.isSome then keep start (.scalar .plain tag [])
        else fail
      | some (.scalar style text) =>
        skip
        keep start (.scalar style tag text)
      | some .flowSequenceStart =>
        skip
        keep start (.sequence tag (← flowItems true fuel))
      | some .flowMappingStart =>
        skip
        keep start (.mapping tag (← flowEntries true fuel))
      | some .blockSequenceStart =>
        if inBlock then
          skip
          keep start (.sequence tag (← blockItems fuel))
        else if name.isSome || tag.isSome then keep start (.scalar .plain tag [])
        else fail
      | some .blockMappingStart =>
        if inBlock then
          skip
          keep start (.mapping tag (← blockEntries fuel))
        else if name.isSome || tag.isSome then keep start (.scalar .plain tag [])
        else fail
      | _ => if name.isSome || tag.isSome then keep start (.scalar .plain tag []) else fail

/-- The items of a block sequence, up to the end of the block. -/
def blockItems : (fuel : Nat) → Compose (List Node)
  | 0 => fail
  | fuel + 1 => do
    match ← peek with
    | some .blockEntry =>
      skip
      let item ← unlessNext [.blockEntry, .blockEnd] (node true false fuel)
      return item :: (← blockItems fuel)
    | some .blockEnd =>
      skip
      return []
    | _ => fail

/-- The items of a sequence that is not further in than the mapping around it. -/
def unindentedItems : (fuel : Nat) → Compose (List Node)
  | 0 => fail
  | fuel + 1 => do
    match ← peek with
    | some .blockEntry =>
      skip
      let item ← unlessNext [.blockEntry, .key, .value, .blockEnd] (node true false fuel)
      return item :: (← unindentedItems fuel)
    | _ => return []

/-- The entries of a block mapping, up to the end of the block. -/
def blockEntries : (fuel : Nat) → Compose (List (Node × Node))
  | 0 => fail
  | fuel + 1 => do
    match ← peek with
    | some .key =>
      skip
      let key ← unlessNext [.key, .value, .blockEnd] (node true true fuel)
      let value ← blockValue fuel
      return (key, value) :: (← blockEntries fuel)
    | some .blockEnd =>
      skip
      return []
    | _ => fail

/-- The value of an entry of a block mapping, which may be missing. -/
def blockValue : (fuel : Nat) → Compose Node
  | 0 => fail
  | fuel + 1 => do
    match ← peek with
    | some .value =>
      skip
      unlessNext [.key, .value, .blockEnd] (node true true fuel)
    | _ => return .empty

/-- The items of a flow sequence, up to its end. An item may be a mapping of one entry. -/
def flowItems (first : Bool) : (fuel : Nat) → Compose (List Node)
  | 0 => fail
  | fuel + 1 => do
    if (← peek) = some .flowSequenceEnd then
      skip
      return []
    if !first then
      if (← peek) = some .flowEntry then skip else fail
    match ← peek with
    | some .key =>
      skip
      let entry ← flowPair fuel
      return .mapping none [entry] :: (← flowItems false fuel)
    | some .flowSequenceEnd =>
      skip
      return []
    | _ =>
      let item ← node false false fuel
      return item :: (← flowItems false fuel)

/-- A mapping of one entry in a flow sequence. Where the key is left out, the token that stands there is read. -/
def flowPair : (fuel : Nat) → Compose (Node × Node)
  | 0 => fail
  | fuel + 1 => do
    let key ← match ← peek with
      | some .value | some .flowEntry | some .flowSequenceEnd => do
        skip
        pure Node.empty
      | _ => node false false fuel
    match ← peek with
    | some .value =>
      skip
      let value ← unlessNext [.flowEntry, .flowSequenceEnd] (node false false fuel)
      return (key, value)
    | _ => return (key, .empty)

/-- The entries of a flow mapping, up to its end. A key without a value is an entry too. -/
def flowEntries (first : Bool) : (fuel : Nat) → Compose (List (Node × Node))
  | 0 => fail
  | fuel + 1 => do
    if (← peek) = some .flowMappingEnd then
      skip
      return []
    if !first then
      if (← peek) = some .flowEntry then skip else fail
    match ← peek with
    | some .key =>
      skip
      let key ← unlessNext [.value, .flowEntry, .flowMappingEnd] (node false false fuel)
      let value ← flowValue fuel
      return (key, value) :: (← flowEntries false fuel)
    | some .flowMappingEnd =>
      skip
      return []
    | _ =>
      let key ← node false false fuel
      return (key, .empty) :: (← flowEntries false fuel)

/-- The value of an entry of a flow mapping, which may be missing. -/
def flowValue : (fuel : Nat) → Compose Node
  | 0 => fail
  | fuel + 1 => do
    match ← peek with
    | some .value =>
      skip
      unlessNext [.flowEntry, .flowMappingEnd] (node false false fuel)
    | _ => return .empty

end

end Compose

/-! ## Documents -/

/-- A document: its root, unless it is empty, and its anchors. -/
structure Document where
  root : Option Node
  anchors : Anchors := {}
  deriving Repr

namespace Document

/-- The node that a node stands for. -/
def resolve? (d : Document) : Node → Option Node
  | .alias number => d.anchors.node? number
  | n => some n

/-- What the handles of tags stand for unless a directive says otherwise. -/
def defaultHandles : List (List Char × Bytes) :=
  [(['!'], Token.loneTag), (['!', '!'], Bytes.ofText "tag:yaml.org,2002:")]

/-- The directives at the start of a document: what the handles of tags stand for, and the tokens that follow. A
directive must not come twice, and the version has to be one that is known. -/
def directives? (versioned : Bool) (handles : List (List Char × Bytes)) :
    List Token → Option (List (List Char × Bytes) × List Token)
  | .versionDirective major minor :: rest =>
    if versioned || major != 1 || (minor != 1 && minor != 2) then none else directives? true handles rest
  | .tagDirective handle expansion :: rest =>
    if (handles.lookup handle).isSome then none else directives? versioned (handles ++ [(handle, expansion)]) rest
  | tokens => some (handles ++ defaultHandles, tokens)

/-- Nothing but the end of the document follows. -/
def isEnd (tokens : List Token) : Bool := tokens.all (· == .documentEnd)

/-- The root of a document and the tokens that follow. -/
def root? (composer : Composer) : Option Document :=
  match (Compose.node true false (4 * composer.tokens.length + 4)).run composer with
  | none => none
  | some (node, composer) =>
    if isEnd composer.tokens then some { root := some node, anchors := composer.anchors } else none

/-- The only document of some tokens. -/
def ofTokens? (tokens : List Token) : Option Document :=
  match tokens with
  | [] => some { root := none }
  | .versionDirective .. :: _ | .tagDirective .. :: _ | .documentStart :: _ =>
    match directives? false [] tokens with
    | some (handles, .documentStart :: rest) =>
      match rest with
      | [] | .documentEnd :: _ => if isEnd rest then some { root := some .empty } else none
      | .versionDirective .. :: _ | .tagDirective .. :: _ | .documentStart :: _ => none
      | _ => root? { tokens := rest, handles := handles }
    | _ => none
  | _ => root? { tokens := tokens, handles := defaultHandles }

/-- The only document of a text. -/
def ofText? (text : List Char) : Option Document := (Token.ofText? text).bind ofTokens?

end Document

end Yaml

end StaticServer
