import StaticServer.Site.FileSystem
import StaticServer.MediaType
import StaticServer.Response

/-!
# Sites

A site is a directory of a file system whose files are served. The path of a request is put behind the root of the
site, component by component; a component that leads to a parent directory is refused. A file is served if others may
read it. Unless it is empty it has to be opened and mapped for that, which may fail for each file on its own.

* `Site.resolve?`: the path of a file for the path of a request.
* `Site.othersRead_eq_true_iff`: the permission for everybody to read, as a mask.
* `Site.fetch`: the file served for the path of a request, or the status that refuses it.
-/

namespace StaticServer

/-- A directory of a file system whose files are served. -/
structure Site where
  fileSystem : FileSystem
  root : String
  /-- The file at a path can be opened. -/
  opens : List Char → Bool := fun _ => true
  /-- The file at a path can be mapped once it is open. -/
  maps : List Char → Bool := fun _ => true

/-- A file that is served: the path found, its media type, and its content unless it is empty. -/
structure ServedFile where
  path : String
  mediaType : String
  content : Option Content
  deriving DecidableEq, Repr

namespace ServedFile

def size (f : ServedFile) : Nat := (f.content.map Content.size).getD 0

def isEmpty (f : ServedFile) : Bool := f.size == 0

end ServedFile

namespace Site

/-- The path of the file for the path of a request: its components behind the root. -/
def resolve? (root requestPath : String) : Option String :=
  let names := PathText.components requestPath.toList
  if names.contains PathText.parentName then none
  else some (String.ofList (names.foldl PathText.push root.toList))

/-- The permission for everybody to read. -/
def othersRead (mode : Nat) : Bool := mode.testBit 2

theorem othersRead_eq_true_iff {mode : Nat} : othersRead mode = true ↔ mode &&& 0o004 ≠ 0 := by
  have hmask (i : Nat) : (mode &&& 0o004).testBit i = (mode.testBit i && decide (2 = i)) := by
    rw [Nat.testBit_and, show (0o004 : Nat) = 2 ^ 2 from rfl, Nat.testBit_two_pow]
  constructor
  · intro hr hz
    have htwo := hmask 2
    rw [hz, Nat.zero_testBit, show mode.testBit 2 = true from hr] at htwo
    cases htwo
  · intro hne
    obtain ⟨i, hi⟩ := Nat.exists_testBit_of_ne_zero hne
    rw [hmask, Bool.and_eq_true, decide_eq_true_eq] at hi
    obtain ⟨hr, rfl⟩ := hi
    exact hr

/-- The file served for the path of a request, or the status that refuses it. -/
def fetch (site : Site) (requestPath : String) : Except Status ServedFile :=
  match resolve? site.root requestPath with
  | none => .error .forbidden
  | some path =>
    match site.fileSystem.lookup? path.toList with
    | some (.file content mode) =>
      let type := MediaType.ofPath path
      if !othersRead mode then .error .forbidden
      else if content.size = 0 then .ok { path := path, mediaType := type, content := none }
      else if !site.opens path.toList then .error .internalServerError
      else if !site.maps path.toList then .error .internalServerError
      else .ok { path := path, mediaType := type, content := some content }
    | some .directory => .error .forbidden
    | some (.link _) => .error .notFound
    | none => .error .notFound

/-- The response for the path of a request, given whether the client asked for the connection to be kept. -/
def respond (site : Site) (requestPath : String) (keepAlive : Bool) : Response :=
  match site.fetch requestPath with
  | .error status => .ofError status
  | .ok file =>
    match file.content with
    | some content => .ofFile content file.mediaType keepAlive
    | none => .ofEmptyFile keepAlive

end Site

end StaticServer
