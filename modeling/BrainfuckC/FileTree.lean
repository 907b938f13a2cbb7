import BrainfuckC.FileError
import BrainfuckC.Path
import BrainfuckC.Text.Utf8

/-!
# File trees

A file tree says what is found at each place. A place is the list of the names
that lead to it from the root, so it is found by looking it up and not by
walking; only a path is walked, name by name, since on the way every place has
to be a directory.

`lookup_put` is the law that everything else rests on: putting a file somewhere
changes that place and no other.
-/

namespace BrainfuckC

/-- The names that lead from the root to a place. -/
abbrev Place := List Text

inductive Node where
  | file (content : Bytes)
  | directory
  deriving DecidableEq

/-- What is found where, the root apart. The first entry for a place counts. -/
structure FileTree where
  entries : List (Place × Node)
  deriving DecidableEq

namespace FileTree

/-- What is found at a place. The root is always a directory. -/
def lookup (t : FileTree) (place : Place) : Option Node :=
  if place = [] then some .directory else t.entries.lookup place

def put (t : FileTree) (place : Place) (node : Node) : FileTree :=
  ⟨(place, node) :: t.entries.filter (·.1 ≠ place)⟩

/-- What is put at a place is found there, and all else is found as before. -/
theorem lookup_put (t : FileTree) {place : Place} (h : place ≠ []) (node : Node)
    (other : Place) :
    (t.put place node).lookup other = if other = place then some node else t.lookup other := by
  have hfilter : ∀ entries : List (Place × Node), other ≠ place →
      (entries.filter (·.1 ≠ place)).lookup other = entries.lookup other := by
    intro entries hne
    induction entries with
    | nil => rfl
    | cons entry entries ih =>
      obtain ⟨first, found⟩ := entry
      by_cases hfirst : first = place
      · have hbeq : (other == first) = false := by simpa [hfirst] using hne
        rw [List.filter_cons_of_neg (by simp [hfirst]), ih]
        simp only [List.lookup_cons, hbeq]
      · by_cases hother : other = first
        · simp [hfirst, hother]
        · have hbeq : (other == first) = false := by simpa using hother
          simpa [hfirst, List.lookup_cons, hbeq] using ih
  by_cases hother : other = place
  · subst hother
    simp [lookup, put, h]
  · have hbeq : (other == place) = false := by simpa using hother
    by_cases hroot : other = []
    · subst hroot
      simp [lookup, Ne.symm h]
    · rw [if_neg hother, lookup, lookup, if_neg hroot, if_neg hroot, ← hfilter t.entries hother]
      simp [put, List.lookup_cons, hbeq]

/-- The tree with a directory at a place and at every place on the way to it,
where nothing is found yet. -/
def putDirectories (t : FileTree) (here : Place) : List Text → FileTree
  | [] => t
  | name :: names =>
    let next := here ++ [name]
    let made := if (t.lookup next).isSome then t else t.put next .directory
    made.putDirectories next names

def putFile (t : FileTree) (place : Place) (content : Bytes) : FileTree :=
  (t.putDirectories [] place.dropLast).put place (.file content)

/-- The files of `after` that are not found in `before` with the same
content. -/
def changes (before after : FileTree) : List (Place × Bytes) :=
  after.entries.filterMap fun
    | (place, .file content) =>
      if before.lookup place = some (.file content) then none else some (place, content)
    | (_, .directory) => none

/-! ## Walking a path -/

def nameLimit : Nat := 255

def pathLimit : Nat := 4095

/-- Follows names from a place. Wherever there is a name to follow there has to
be a directory; whether something is found at the end is not asked. A double dot
leads to the place above, which for the root is the root itself. -/
def walk (t : FileTree) (here : Place) : List Text → Except AccessError Place
  | [] => .ok here
  | name :: names =>
    match t.lookup here with
    | none => .error .notFound
    | some (.file _) => .error .notDirectory
    | some .directory =>
      if name = ['.', '.'] then t.walk here.dropLast names
      else if nameLimit < (Utf8.encode name).length then .error .nameTooLong
      else t.walk (here ++ [name]) names

def follow (t : FileTree) (here : Place) (p : Path) : Except AccessError Place :=
  if pathLimit < (Utf8.encode p.render).length then .error .nameTooLong
  else
    match p.anchor with
    | .here => t.walk here p.components
    | .root | .doubleRoot => t.walk [] p.components

def read (t : FileTree) (here : Place) (p : Path) : Except AccessError Bytes :=
  match t.follow here p with
  | .error e => .error e
  | .ok place =>
    match t.lookup place with
    | none => .error .notFound
    | some .directory => .error .isDirectory
    | some (.file content) => .ok content

/-- The place at the end of a path, if a file can be written there: an existing
one or a new one in an existing directory. -/
def target (t : FileTree) (here : Place) (p : Path) : Except AccessError Place :=
  match t.follow here p with
  | .error e => .error e
  | .ok place =>
    match t.lookup place with
    | some .directory => .error .isDirectory
    | _ => .ok place

end FileTree

end BrainfuckC
