import StaticServer.Text.Words

/-!
# Path texts

A path is a text whose components stand between slashes. Empty components and single dots do not count, and a
component of two dots is the parent directory. The extension of a path is what follows the last dot of its last
component, unless that dot comes first.

* `components_join`: names put together are taken apart again.
-/

namespace StaticServer

namespace PathText

/-- The pieces of a path between its slashes, at least one. -/
def pieces : List Char → List (List Char)
  | [] => [[]]
  | c :: rest =>
    if c = '/' then [] :: pieces rest
    else
      match pieces rest with
      | piece :: more => (c :: piece) :: more
      | [] => [[c]]

/-- The component that names the parent directory. -/
def parentName : List Char := ['.', '.']

/-- A piece that does not count. -/
def isVoid (piece : List Char) : Bool := piece.isEmpty || piece == ['.']

/-- The components of a path, the parent directory among them. -/
def components (path : List Char) : List (List Char) := (pieces path).filter fun p => !isVoid p

/-- The path with one more component: a slash comes before it unless the path is empty or ends with one. -/
def push (path name : List Char) : List Char :=
  if path.isEmpty || path.getLast? == some '/' then path ++ name else path ++ '/' :: name

/-- The last component, if it is a name. -/
def fileName? (path : List Char) : Option (List Char) := ((components path).getLast?).filter (· != parentName)

/-- What follows the last dot of a name, if the dot does not come first. -/
def nameExtension? (name : List Char) : Option (List Char) :=
  let behind := (name.reverse.takeWhile (· != '.')).reverse
  if behind.length + 1 < name.length then some behind else none

/-- The extension of a path. -/
def extension? (path : List Char) : Option (List Char) := (fileName? path).bind nameExtension?

theorem pieces_append_of_forall_ne {name : List Char} (h : ∀ c ∈ name, c ≠ '/') (rest : List Char) :
    pieces (name ++ '/' :: rest) = name :: pieces rest := by
  induction name with
  | nil => simp [pieces]
  | cons c more ih =>
    have hc := h c List.mem_cons_self
    rw [List.cons_append, pieces, if_neg hc, ih fun d hd => h d (List.mem_cons_of_mem _ hd)]

theorem pieces_of_forall_ne {name : List Char} (h : ∀ c ∈ name, c ≠ '/') : pieces name = [name] := by
  induction name with
  | nil => rfl
  | cons c more ih =>
    have hc := h c List.mem_cons_self
    rw [pieces, if_neg hc, ih fun d hd => h d (List.mem_cons_of_mem _ hd)]

/-- Names put together, a slash before each, are taken apart again. -/
theorem components_join {names : List (List Char)} (hslash : ∀ n ∈ names, ∀ c ∈ n, c ≠ '/')
    (hvoid : ∀ n ∈ names, isVoid n = false) : components (names.flatMap fun n => '/' :: n) = names := by
  have key : ∀ names : List (List Char), (∀ n ∈ names, ∀ c ∈ n, c ≠ '/') →
      pieces (names.flatMap fun n => '/' :: n) = [] :: names := by
    intro names
    induction names with
    | nil => intro; rfl
    | cons n rest ih =>
      intro h
      have hn := h n List.mem_cons_self
      have hr := ih fun m hm => h m (List.mem_cons_of_mem _ hm)
      rw [List.flatMap_cons, List.cons_append, pieces, if_pos rfl]
      cases rest with
      | nil => simp [pieces_of_forall_ne hn]
      | cons m more =>
        simp only [List.flatMap_cons, List.cons_append, pieces, ↓reduceIte] at hr ⊢
        rw [pieces_append_of_forall_ne hn]
        exact congrArg (fun l => [] :: n :: l) (List.cons.inj hr).2
  rw [components, key names hslash, List.filter_cons_of_neg (by simp [isVoid])]
  exact List.filter_eq_self.2 fun n hn => by simp [hvoid n hn]

end PathText

end StaticServer
