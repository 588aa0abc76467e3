import ConceptMap.Files.Path

/-!
# Home directories

A path whose first name starts with a tilde lies in a home directory.  The settings live in a
directory that the environment can name, and by default in the user's home directory.
-/

namespace ConceptMap

/-- What the environment says about where settings live. -/
structure Environment where
  /-- The user's home directory. -/
  home : Text
  /-- The directory of the settings, if the environment names one. -/
  settings : Option Text := none
  /-- The home directories of other accounts. -/
  accounts : List (Text × Text) := []
deriving DecidableEq, Repr

/-- Why a path cannot be settled. -/
inductive HomeFault where
  /-- There is no home directory for its tilde. -/
  | noHome
deriving DecidableEq, Repr

/-- The report of a path that cannot be settled. -/
def HomeFault.message : HomeFault → Text
  | .noHome => "Could not determine home directory."

namespace Environment

/-- A text without its trailing slashes, or a single slash if nothing else is left. -/
def withoutSlashes (text : Text) : Text :=
  match (text.reverse.dropWhile (· = '/')).reverse with
  | [] => ['/']
  | rest => rest

/-- The spelling of the home directory that a tilde name stands for: a tilde alone is the user's,
one with a name belongs to that account. -/
def homeOf (environment : Environment) (name : Text) : Option Text :=
  match name with
  | ['~'] => some (withoutSlashes environment.home)
  | '~' :: account => (environment.accounts.lookup account).map withoutSlashes
  | _ => none

/-- The path with a leading tilde name replaced by its home directory. -/
def expand (environment : Environment) (path : Path) : Except HomeFault Path :=
  match path.root, path.names with
  | .working, ('~' :: account) :: rest =>
      match environment.homeOf ('~' :: account) with
      | none => .error .noHome
      | some ('~' :: _) => .error .noHome
      | some home =>
          let directory := Path.parse home
          .ok { directory with names := directory.names ++ rest }
  | _, _ => .ok path

/-- The directory of the settings: the one that the environment names, or `.cartograph` in the
user's home directory, which must exist in either case. -/
def settingsDirectory (environment : Environment) : Except HomeFault Path := do
  let home ← environment.expand (Path.parse ['~'])
  let path := environment.settings.getD (home.child ".cartograph").render
  environment.expand (Path.parse path)

/-- The name of the settings file in its directory. -/
def settingsName : Text := "config.toml"

end Environment
end ConceptMap
