import ConceptMap.Text.Basic

/-!
# Paths

A path is a number of leading slashes and the names behind them.  Empty names and single dots do
not count, so that different spellings of a path are one path.
-/

namespace ConceptMap

/-- How a path starts. -/
inductive Root where
  /-- In the working directory. -/
  | working
  /-- At the root of the file system. -/
  | single
  /-- At the alternative root that exactly two slashes name. -/
  | double
deriving DecidableEq, Repr

/-- The slashes with which a path starts. -/
def Root.render : Root → Text
  | .working => []
  | .single => ['/']
  | .double => ['/', '/']

/-- A path in the file system. -/
structure Path where
  /-- Where the path starts. -/
  root : Root := .working
  /-- The names on the way, from the root. -/
  names : List Text := []
deriving DecidableEq, Repr

namespace Path

/-- The pieces of a spelling between slashes. -/
def pieces : Text → List Text
  | [] => [[]]
  | '/' :: rest => [] :: pieces rest
  | character :: rest =>
      match pieces rest with
      | [] => [[character]]
      | piece :: others => (character :: piece) :: others

/-- The root of a spelling: more than two slashes count as one. -/
def rootOf : Text → Root
  | '/' :: '/' :: '/' :: _ => .single
  | '/' :: '/' :: _ => .double
  | '/' :: _ => .single
  | _ => .working

/-- The path that a text spells. -/
def parse (text : Text) : Path :=
  { root := rootOf text
    names := (pieces text).filter fun piece => !piece.isEmpty && piece ≠ ['.'] }

/-- The path as a text; the working directory is a dot. -/
def render (path : Path) : Text :=
  match path.root, path.names with
  | .working, [] => ['.']
  | root, names => root.render ++ Text.join ['/'] names

/-- The path of a name inside a directory. -/
def child (path : Path) (name : Text) : Path := { path with names := path.names ++ [name] }

/-- The directory of a path. -/
def parent (path : Path) : Path := { path with names := path.names.dropLast }

/-- The name of the directory above. -/
def above : Text := ['.', '.']

/-- The directory where a path starts, or one above it. -/
def isStart (path : Path) : Bool := path.names.all (· = above)

/-- Where a name leads from a place.  The root is its own directory above. -/
def enter (place : Path) (name : Text) : Path :=
  if name ≠ above || (place.root = .working && place.isStart) then place.child name
  else place.parent

/-- The places that names lead to, one after another. -/
def placesFrom (place : Path) : List Text → List Path
  | [] => []
  | name :: rest => place.enter name :: placesFrom (place.enter name) rest

/-- The places on the way of a path, and the one that it leads to. -/
def places (path : Path) : List Path := placesFrom { root := path.root } path.names

/-- The last name of a path. -/
def fileName (path : Path) : Text := path.names.getLast?.getD []

/-- The name of a file without its last extension.  A dot at the start or at the end of the name
begins no extension. -/
def stem (path : Path) : Text :=
  let name := path.fileName
  let extension := name.reverse.takeWhile (· ≠ '.')
  match name.reverse.drop extension.length with
  | '.' :: front =>
      if extension.isEmpty || front.isEmpty then name else front.reverse
  | _ => name

end Path
end ConceptMap
