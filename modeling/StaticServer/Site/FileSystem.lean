import StaticServer.PathText
import StaticServer.Transfer

/-!
# File systems

A file system is a list of files, directories and links, each at the names that lead to it from the top. A path is
looked up name by name. A link stands for the path it holds, from the directory it is in; a lookup follows a bounded
number of links, so links that lead in a circle lead nowhere.

* `FileSystem.lookup?`: what a path leads to.
-/

namespace StaticServer

/-- What is found at a place of a file system. -/
inductive FileNode
  /-- A regular file with its content and permission bits. -/
  | file (content : Content) (mode : Nat)
  | directory
  /-- A symbolic link that holds a path. -/
  | link (target : List Char)
  deriving DecidableEq, Repr

/-- The names that lead to a place from the top. -/
abbrev Place := List (List Char)

/-- A file system, with the place where relative paths start. -/
structure FileSystem where
  nodes : List (Place × FileNode)
  workDir : Place := []
  deriving DecidableEq, Repr

namespace FileSystem

/-- The most octets in a name. -/
def maxName : Nat := 255

/-- The most octets in a path. -/
def maxPath : Nat := 4095

/-- The most links that one lookup follows. -/
def maxLinks : Nat := 40

/-- The number of octets that a text takes. -/
def octetCount (cs : List Char) : Nat := (Bytes.ofText (String.ofList cs)).length

/-- What is at a place; the top is always a directory. -/
def node? (fs : FileSystem) (place : Place) : Option FileNode :=
  if place.isEmpty then some .directory else fs.nodes.lookup place

/-- The place where a path starts. -/
def start (path : List Char) (base : Place) : Place := if path.head? = some '/' then [] else base

/-- The place that names lead to from a directory. At a link, `follow` goes on: from where the path that the link holds
starts, with the names of that path and those that are left. -/
def walkTo (fs : FileSystem) (follow : Place → List (List Char) → Option Place) (here : Place) :
    List (List Char) → Option Place
  | [] => some here
  | name :: rest =>
    if fs.node? here ≠ some .directory then none
    else if PathText.isVoid name then fs.walkTo follow here rest
    else if name = PathText.parentName then fs.walkTo follow here.dropLast rest
    else if maxName < octetCount name then none
    else
      match fs.node? (here ++ [name]) with
      | none => none
      | some (.link target) => follow (start target here) (PathText.pieces target ++ rest)
      | some _ => fs.walkTo follow (here ++ [name]) rest

/-- The place that names lead to, following at most `links` links. -/
def walk (fs : FileSystem) : (links : Nat) → Place → List (List Char) → Option Place
  | 0 => fs.walkTo fun _ _ => none
  | links + 1 => fs.walkTo (fs.walk links)

/-- A text that can be looked up as a path. -/
def isPath (path : List Char) : Bool :=
  !path.isEmpty && decide (octetCount path ≤ maxPath) && !path.contains (Char.ofNat 0)

/-- The place that a path leads to. -/
def place? (fs : FileSystem) (path : List Char) : Option Place :=
  if isPath path then fs.walk maxLinks (start path fs.workDir) (PathText.pieces path) else none

/-- What a path leads to. -/
def lookup? (fs : FileSystem) (path : List Char) : Option FileNode := (fs.place? path).bind fs.node?

end FileSystem

/-! ## Building a file system -/

namespace FileSystem

/-- The file system with a directory at a place, if nothing is there. -/
def addDirectory (fs : FileSystem) (place : Place) : FileSystem :=
  if (fs.node? place).isSome then fs else { fs with nodes := fs.nodes ++ [(place, .directory)] }

/-- The directories that lead to a place, the top left out. -/
def ancestors (place : Place) : List Place := (List.range place.length).tail.map fun n => place.take n

/-- The file system with something at a place, and with all directories that lead there. What was there is replaced. -/
def insert (fs : FileSystem) (place : Place) (node : FileNode) : FileSystem :=
  let fs := (ancestors place).foldl addDirectory fs
  match node with
  | .directory => fs.addDirectory place
  | _ => { fs with nodes := (place, node) :: fs.nodes.filter fun (p, _) => p != place }

end FileSystem

end StaticServer
