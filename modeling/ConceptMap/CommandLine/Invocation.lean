import ConceptMap.CommandLine.Arguments

/-!
# Invocations

The commands with what was asked of them.  Reading the arguments of a command fails before the
command does anything; a file to read must exist, and must not be a directory.
-/

namespace ConceptMap
namespace CommandLine

/-- A command with its arguments. -/
inductive Invocation where
  /-- Reports the warnings of a document. -/
  | check (file : Path)
  /-- Shows what is visible around the active concept; `seed` picks it when none is named. -/
  | explore (file : Path) (view : ViewRequest) (seed : Option Int) (tree : Bool)
  /-- Writes a map in a format, to a file or to the output. -/
  | export (file : Path) (view : ViewRequest) (format : Text) (output : Option Path)
  /-- Prints the sample document. -/
  | sample
  /-- Prints the preferences. -/
  | showSettings
  /-- Saves preferences. -/
  | saveSettings (distance : Option Nat) (bidirectional : Option Bool)
deriving DecidableEq, Repr

/-- What stands in front of a command. -/
structure Preamble where
  /-- Only the version is asked for. -/
  version : Bool
  /-- Everything is logged. -/
  verbose : Bool
  /-- The command and its arguments. -/
  rest : List Text
deriving DecidableEq, Repr

/-- The command names. -/
inductive CommandName where
  | check
  | explore
  | export
  | sample
  | config
deriving DecidableEq, Repr

/-- The command of a name. -/
def CommandName.ofText? (name : Text) : Option CommandName :=
  [(("check" : Text), CommandName.check), ("show", .explore), ("export", .export),
    ("sample", .sample), ("config", .config)].lookup name

/-- Reads the options in front of a command. -/
def readPreamble (arguments : List Text) : Except Refusal Preamble := do
  let sorted ← sortArguments globalRules false arguments
  return ⟨sorted.has .version, sorted.has .verbose, sorted.positional⟩

/-- The view that options ask for. -/
def viewRequest (arguments : Arguments) : Except Refusal ViewRequest := do
  let distance ← arguments.natural? .distance
  return { active := arguments.value? .active
           select := arguments.values .select
           distance
           bidirectional := arguments.direction?
           relationship := arguments.value? .relationship }

/-- The path of a file to read. -/
def readableFile (files : FileTree) (spelling : Text) : Except Refusal Path :=
  let path := Path.parse spelling
  match files.find path with
  | .ok (.file _) => .ok path
  | _ => .error (.noFile spelling)

/-- The only positional argument: a file to read. -/
def onlyFile (files : FileTree) (arguments : Arguments) : Except Refusal Path :=
  match arguments.positional with
  | [] => .error .argumentMissing
  | [spelling] => readableFile files spelling
  | _ :: extra :: _ => .error (.argumentUnexpected extra)

/-- There is no positional argument. -/
def noFile (arguments : Arguments) : Except Refusal Unit :=
  match arguments.positional with
  | [] => .ok ()
  | extra :: _ => .error (.argumentUnexpected extra)

/-- Reads the arguments of a command about the settings. -/
def readSettingsCommand (arguments : List Text) : Except Refusal Invocation := do
  let sorted ← sortArguments [] false arguments
  match sorted.positional with
  | [] => throw .commandMissing
  | name :: rest =>
      if name = ("show" : Text) then
        noFile (← sortArguments [] true rest)
        return .showSettings
      else if name = ("set-view" : Text) then
        let sorted ← sortArguments saveRules true rest
        let distance ← sorted.natural? .distance
        noFile sorted
        return .saveSettings distance sorted.direction?
      else throw (.unknownCommand name)

/-- Reads the arguments of a command. -/
def readCommand (files : FileTree) (arguments : List Text) :
    CommandName → Except Refusal Invocation
  | .check => do return .check (← onlyFile files (← sortArguments [] true arguments))
  | .explore => do
      let sorted ← sortArguments showRules true arguments
      let seed ← sorted.integer? .seed
      return .explore (← onlyFile files sorted) (← viewRequest sorted) seed (sorted.has .tree)
  | .export => do
      let sorted ← sortArguments exportRules true arguments
      let format := (sorted.value? .format).getD "dsl"
      let output := (sorted.value? .output).map Path.parse
      return .export (← onlyFile files sorted) (← viewRequest sorted) format output
  | .sample => do
      noFile (← sortArguments [] true arguments)
      return .sample
  | .config => readSettingsCommand arguments

end CommandLine
end ConceptMap
