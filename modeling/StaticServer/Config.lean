import StaticServer.Text.Radix
import StaticServer.Yaml.Node

/-!
# Configuration

A configuration says where to listen, what to serve and how the work is shared out. It is read from a YAML document of
three sections; what the document leaves out keeps its default.

A known key must not come twice in a section, unknown keys do not count, and a section may be left empty. A text may be
any scalar. A number is a plain scalar in decimal, or in hexadecimal, octal or binary behind `0x`, `0o` or `0b`.

* `Config.ofYaml?`: the configuration of a text.
-/

namespace StaticServer

/-- How requests are handled at the same time: by threads of one process, or by several processes. -/
inductive PoolMode
  | threads
  | processes
  deriving DecidableEq, Repr

/-- The name of a mode. -/
def PoolMode.name : PoolMode → String
  | threads => "threads"
  | processes => "processes"

/-- A configuration. -/
structure Config where
  listenAddr : String := "127.0.0.1:8080"
  /-- Further connections are told that the server is busy. -/
  maxConnections : Nat := 65536
  root : String := "./www"
  mode : PoolMode := .threads
  /-- The number of threads or processes. -/
  workers : Nat := 8
  /-- The capacity of the queue of requests. -/
  maxRequests : Nat := 10000
  deriving DecidableEq, Repr

namespace Config

open Yaml

/-! ## Scalars -/

/-- The number that one or more digits write in a base, behind an optional plus sign and below the bound. -/
def digits? (base : Nat) (cs : List Char) : Option Nat :=
  let cs := if cs.head? = some '+' then cs.drop 1 else cs
  if cs.isEmpty then none else (Radix.value? base cs).filter (· < UInt64.size)

/-- A sign. -/
def isSign (c : Char) : Bool := c == '+' || c == '-'

/-- The number behind the mark of a base. -/
def behindMark? (base : Nat) (mark : Char) (cs : List Char) : Option Nat :=
  match cs with
  | '0' :: c :: rest => if c = mark && !(rest.head?.any isSign) then digits? base rest else none
  | _ => none

/-- Digits of which the first is a zero that does not count. -/
def hasLeadingZero (cs : List Char) : Bool :=
  2 ≤ cs.length && cs.head? == some '0' && cs.all Char.isDigit

/-- The number that a text writes. -/
def number? (text : List Char) : Option Nat :=
  let cs := if text.head? = some '+' then text.drop 1 else text
  match behindMark? 16 'x' cs, behindMark? 8 'o' cs, behindMark? 2 'b' cs with
  | some n, _, _ => some n
  | _, some n, _ => some n
  | _, _, some n => some n
  | none, none, none =>
    if cs.head?.any isSign || hasLeadingZero (if text.head?.any isSign then text.drop 1 else text) then none
    else digits? 10 cs

/-- The tag that makes a literal block a number. -/
def numberTag : Bytes := Bytes.ofText "tag:yaml.org,2002:int"

/-- The text of a scalar. -/
def asText? (d : Document) (n : Node) : Option String :=
  match d.resolve? n with
  | some (.scalar _ _ text) => some (String.ofList text)
  | _ => none

/-- The number of a scalar. -/
def asNumber? (d : Document) (n : Node) : Option Nat :=
  match d.resolve? n with
  | some (.scalar .plain _ text) => number? text
  | some (.scalar .literal tag text) => if tag = some numberTag then number? text else none
  | _ => none

/-- The spellings of null. -/
def nullSpellings : List String := ["null", "Null", "NULL", "~"]

/-- The name that a tag of its own gives: the text behind the exclamation mark in front, if that is a text. -/
def localTag? : Option Bytes → Option String
  | some (0x21 :: name) => Bytes.text? name
  | _ => none

/-- The mode with this name. -/
def modeNamed? (name : String) : Option PoolMode := [PoolMode.threads, .processes].find? fun m => m.name == name

/-- The mode of a scalar: its text, or a tag of its own on a scalar that says nothing. -/
def asMode? (d : Document) (n : Node) : Option PoolMode :=
  match d.resolve? n with
  | some (.scalar style tag text) =>
    match localTag? tag with
    | none => modeNamed? (String.ofList text)
    | some name =>
      if style = .plain ∧ (text.isEmpty ∨ String.ofList text ∈ nullSpellings) then modeNamed? name
      else none
  | _ => none

/-! ## Sections -/

/-- The entries of a section, if it is a mapping with scalars for keys or left empty. -/
def entries? (d : Document) (n : Node) : Option (List (String × Node)) :=
  match d.resolve? n with
  | some (.mapping _ entries) => entries.mapM fun (key, value) => (asText? d key).map fun key => (key, value)
  | some (.scalar .plain _ []) => some []
  | _ => none

/-- What the value of a known key does to a configuration. -/
abbrev Setting := String × (Document → Node → Config → Option Config)

/-- The configuration with the settings of a section. -/
def applySettings (settings : List Setting) (d : Document) (n : Node) (c : Config) : Option Config := do
  let entries := (← entries? d n).filter fun (key, _) => (settings.lookup key).isSome
  if (entries.map Prod.fst).eraseDups.length != entries.length then none
  entries.foldlM (fun c (key, value) => (settings.lookup key).bind fun set => set d value c) c

/-- The settings of the section on the server. -/
def serverSettings : List Setting :=
  [("listen_addr", fun d n c => (asText? d n).map fun v => { c with listenAddr := v }),
    ("max_connections", fun d n c => (asNumber? d n).map fun v => { c with maxConnections := v })]

/-- The settings of the section on the files served. -/
def fileSettings : List Setting := [("root", fun d n c => (asText? d n).map fun v => { c with root := v })]

/-- The settings of the section on the pool of workers. -/
def poolSettings : List Setting :=
  [("mode", fun d n c => (asMode? d n).map fun v => { c with mode := v }),
    ("workers", fun d n c => (asNumber? d n).map fun v => { c with workers := v }),
    ("max_requests", fun d n c => (asNumber? d n).map fun v => { c with maxRequests := v })]

/-- The sections. -/
def sections : List Setting :=
  [("server", applySettings serverSettings), ("static_files", applySettings fileSettings),
    ("pool", applySettings poolSettings)]

/-- White space of every script. -/
def isWhite (c : Char) : Bool :=
  let n := c.toNat
  (9 ≤ n && n ≤ 13) || n == 0x20 || n == 0x85 || n == 0xA0 || n == 0x1680 || (0x2000 ≤ n && n ≤ 0x200A) ||
    n == 0x2028 || n == 0x2029 || n == 0x202F || n == 0x205F || n == 0x3000

/-- The configuration of a text. A text of white space alone is a configuration of defaults. -/
def ofYaml? (text : String) : Option Config :=
  if text.toList.all isWhite then some {}
  else
    (Document.ofText? text.toList).bind fun d =>
      match d.root with
      | none => some {}
      | some root => applySettings sections d root {}

end Config

end StaticServer
