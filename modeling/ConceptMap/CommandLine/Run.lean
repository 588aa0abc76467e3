import ConceptMap.CommandLine.Commands

/-!
# Runs

A run of the command line: the options in front of the command, the level of the log, and the
command itself.
-/

namespace ConceptMap
namespace CommandLine

/-- The version of the program. -/
def version : Text := "Cartograph v0.1.0"

/-- Goes on with arguments that could be read, or stops. -/
def orRefuse {α : Type} : Except Refusal α → Action α
  | .ok result => return result
  | .error refusal => throw (.usage refusal)

/-- Sets the least level that is logged. -/
def setLevel (verbose : Bool) : Action Unit := do
  let level ← if verbose then pure Level.debug else loadLevelEarly
  modify fun session => { session with level }

/-- Stops at a name that no command has.  What stands there is read as options in front of a command
first, as two dashes may have hidden them; only the version can be asked for so late. -/
def actUnknown (name : Text) (arguments : List Text) : Action Unit := do
  if (← orRefuse (readPreamble arguments)).version then echo version
  else throw (.usage (.unknownCommand name))

/-- Carries out the arguments of a run.  The name of the command is looked at before the level is
set, its arguments afterwards. -/
def act (arguments : List Text) : Action Unit := do
  let preamble ← orRefuse (readPreamble arguments)
  if preamble.version then
    echo version
  else
    match preamble.rest with
    | [] => throw (.usage .commandMissing)
    | name :: rest =>
        match CommandName.ofText? name with
        | none => actUnknown name preamble.rest
        | some command =>
            setLevel preamble.verbose
            perform (← orRefuse (readCommand (← get).files rest command))

/-- How a run ended. -/
structure Outcome where
  /-- Why it stopped before its end, if it did. -/
  stop : Option Stop
  /-- What it left behind. -/
  session : Session

/-- The exit code of a run. -/
def Outcome.code (outcome : Outcome) : Nat := (outcome.stop.map Stop.code).getD 0

/-- How a run ended whose actions had such a result. -/
def Outcome.ofResult : Except Stop Unit × Session → Outcome
  | (.ok _, session) => ⟨none, session⟩
  | (.error stop, session) => ⟨some stop, session⟩

/-- Runs the command line over files, on a host. -/
def run (files : FileTree) (host : Host) (arguments : List Text) : Outcome :=
  .ofResult ((act arguments).run.run { files, host })

end CommandLine
end ConceptMap
