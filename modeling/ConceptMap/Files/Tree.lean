import ConceptMap.Files.Path
import ConceptMap.Text.Quoted
import ConceptMap.Text.Utf8

/-!
# File trees

Files and directories under their paths.  Reading and writing follow a path name by name, and what
stands in the way is a fault.
-/

namespace ConceptMap

/-- What stands under a path. -/
inductive FileEntry where
  /-- A file with its bytes. -/
  | file (bytes : List UInt8)
  /-- A directory. -/
  | directory
deriving DecidableEq, Repr

/-- Why a file cannot be read or written. -/
inductive FileFault where
  /-- There is nothing under the path, or no directory to hold it. -/
  | missing
  /-- There is something that should be made. -/
  | occupied
  /-- A name on the way belongs to a file. -/
  | notDirectory
  /-- The path leads to a directory. -/
  | isDirectory
  /-- A name or the whole path is too long. -/
  | tooLong
deriving DecidableEq, Repr

namespace FileFault

/-- The number of a fault. -/
def code : FileFault → Nat
  | .missing => 2
  | .occupied => 17
  | .notDirectory => 20
  | .isDirectory => 21
  | .tooLong => 36

/-- What a fault is called. -/
def description : FileFault → Text
  | .missing => "No such file or directory"
  | .occupied => "File exists"
  | .notDirectory => "Not a directory"
  | .isDirectory => "Is a directory"
  | .tooLong => "File name too long"

/-- The report of a fault at a path. -/
def message (fault : FileFault) (path : Path) : Text :=
  "[Errno " ++ Text.ofNat fault.code ++ "] " ++ fault.description ++ ": " ++
    Text.quoted path.render

end FileFault

/-- The files and directories that a program can see. -/
structure FileTree where
  /-- The entries, each under the path that leads to it. -/
  entries : List (Path × FileEntry) := []
deriving DecidableEq, Repr

namespace FileTree

/-- The greatest number of bytes in a name. -/
def longestName : Nat := 255

/-- The greatest number of bytes in a path. -/
def longestPath : Nat := 4095

/-- The entry at a place; the directories where paths start are there in every tree. -/
def entry? (tree : FileTree) (place : Path) : Option FileEntry :=
  if place.isStart then some .directory else tree.entries.lookup place

/-- Follows names from a place; all but the last must belong to directories. -/
def follow (tree : FileTree) (place : Path) : List Text → Except FileFault Path
  | [] => .ok place
  | name :: rest =>
      match tree.entry? place with
      | none => .error .missing
      | some (.file _) => .error .notDirectory
      | some .directory =>
          if longestName < (Utf8.encode name).length then .error .tooLong
          else follow tree (place.enter name) rest

/-- The place that a path leads to; its last name may be free. -/
def locate (tree : FileTree) (path : Path) : Except FileFault Path :=
  if longestPath < (Utf8.encode path.render).length then .error .tooLong
  else tree.follow { root := path.root } path.names

/-- What a path leads to. -/
def find (tree : FileTree) (path : Path) : Except FileFault FileEntry := do
  let place ← tree.locate path
  match tree.entry? place with
  | some entry => return entry
  | none => throw .missing

/-- The bytes of a file. -/
def read (tree : FileTree) (path : Path) : Except FileFault (List UInt8) := do
  match ← tree.find path with
  | .file bytes => return bytes
  | .directory => throw .isDirectory

/-- Puts an entry under a place. -/
def put (tree : FileTree) (place : Path) (entry : FileEntry) : FileTree :=
  if tree.entries.any fun other => other.1 = place then
    { entries := tree.entries.map fun other => if other.1 = place then (place, entry) else other }
  else
    { entries := tree.entries ++ [(place, entry)] }

/-- Writes a file: a new one, or over one that is there. -/
def write (tree : FileTree) (path : Path) (bytes : List UInt8) : Except FileFault FileTree := do
  let place ← tree.locate path
  match tree.entry? place with
  | some .directory => throw .isDirectory
  | _ => return tree.put place (.file bytes)

/-- Makes the directories of names inside a place, as far as they are not there. -/
def makeDirectories (tree : FileTree) (place : Path) : List Text → Except FileFault FileTree
  | [] =>
      match tree.entry? place with
      | some (.file _) => .error .occupied
      | _ => .ok tree
  | name :: rest =>
      match tree.entry? place with
      | some (.file _) => .error .notDirectory
      | _ =>
          let inner := place.enter name
          let grown :=
            match tree.entry? inner with
            | none => tree.put inner .directory
            | some _ => tree
          grown.makeDirectories inner rest

/-- Makes a directory and those on the way to it. -/
def makeDirectory (tree : FileTree) (path : Path) : Except FileFault FileTree :=
  tree.makeDirectories { root := path.root } path.names

/-- Adds a file and the directories on the way to it. -/
def addFile (tree : FileTree) (path : Path) (bytes : List UInt8) : FileTree :=
  match tree.makeDirectory path.parent with
  | .ok grown => grown.put path (.file bytes)
  | .error _ => tree

/-- The files of one tree that another one lacks or has with other bytes. -/
def changesSince (tree before : FileTree) : List (Path × List UInt8) :=
  tree.entries.filterMap fun (path, entry) =>
    match entry with
    | .directory => none
    | .file bytes =>
        if before.entries.lookup path = some (.file bytes) then none else some (path, bytes)

end FileTree
end ConceptMap
