import ConceptMap.CommandLine.Session
import ConceptMap.Number.WholeDecimal

/-!
# Arguments

Options and positional arguments.  A long option takes its value behind an equals sign or from the
next argument; short options may share one dash, and a value may follow at once.  Behind two dashes
everything is positional.
-/

namespace ConceptMap
namespace CommandLine

/-- The options of all commands. -/
inductive OptionKey where
  | version
  | verbose
  | active
  | select
  | distance
  | bidirectional
  | oneWay
  | relationship
  | seed
  | tree
  | format
  | output
deriving DecidableEq, Repr

/-- How an option is written. -/
structure OptionRule where
  /-- Which option it is. -/
  key : OptionKey
  /-- Its name behind two dashes. -/
  long : Text
  /-- Its letter behind one dash, if it has one. -/
  short : Option Char := none
  /-- It is followed by a value. -/
  takesValue : Bool := true
deriving DecidableEq, Repr

/-- Arguments that have been sorted. -/
structure Arguments where
  /-- The options with their values, in order; an option without a value has the empty text. -/
  options : List (OptionKey × Text) := []
  /-- The positional arguments. -/
  positional : List Text := []
deriving DecidableEq, Repr

namespace Arguments

/-- Adds options in front. -/
def withOptions (options : List (OptionKey × Text)) (arguments : Arguments) : Arguments :=
  { arguments with options := options ++ arguments.options }

/-- Adds a positional argument in front. -/
def withPositional (argument : Text) (arguments : Arguments) : Arguments :=
  { arguments with positional := argument :: arguments.positional }

/-- The values that were given for an option. -/
def values (arguments : Arguments) (key : OptionKey) : List Text :=
  (arguments.options.filter fun option => option.1 = key).map (·.2)

/-- The value that counts when an option is given more than once. -/
def value? (arguments : Arguments) (key : OptionKey) : Option Text :=
  (arguments.values key).getLast?

/-- The option was given. -/
def has (arguments : Arguments) (key : OptionKey) : Bool := !(arguments.values key).isEmpty

end Arguments

/-- The options in one argument, and an option whose value must be the next argument. -/
structure OptionArgument where
  /-- The options that are complete. -/
  options : List (OptionKey × Text)
  /-- The option that waits for its value. -/
  waiting : Option OptionRule := none
deriving DecidableEq, Repr

/-- The options whose letters share one dash. -/
def readShort (rules : List OptionRule) : Text → Except Refusal OptionArgument
  | [] => .ok { options := [] }
  | letter :: rest =>
      match rules.find? fun rule => rule.short = some letter with
      | none => .error (.unknownOption ['-', letter])
      | some rule =>
          if rule.takesValue then
            if rest.isEmpty then .ok { options := [], waiting := some rule }
            else .ok { options := [(rule.key, rest)] }
          else do
            let more ← readShort rules rest
            return { more with options := (rule.key, []) :: more.options }

/-- The option of a long name, with the value behind its equals sign. -/
def readLong (rule : OptionRule) : Option Text → Except Refusal OptionArgument
  | some value =>
      if rule.takesValue then .ok { options := [(rule.key, value)] }
      else .error (.valueUnexpected rule.long)
  | none =>
      if rule.takesValue then .ok { options := [], waiting := some rule }
      else .ok { options := [(rule.key, [])] }

/-- The options in an argument that starts with a dash. -/
def readOption (rules : List OptionRule) (argument : Text) : Except Refusal OptionArgument :=
  match argument with
  | '-' :: '-' :: body =>
      let name := body.takeWhile (· ≠ '=')
      let value :=
        match body.drop name.length with
        | [] => none
        | _ :: value => some value
      match rules.find? fun rule => rule.long = name with
      | none => .error (.unknownOption argument)
      | some rule => readLong rule value
  | _ => readShort rules (argument.drop 1)

/-- The argument holds options: it starts with a dash and is not a dash alone. -/
def isOption (argument : Text) : Bool := argument.head? = some '-' && 1 < argument.length

/-- Sorts arguments, of which the first one is the value of an option that waits for it.  Unless
options may stand behind positional arguments, the first of these ends the options. -/
def sortFrom (rules : List OptionRule) (interspersed : Bool) :
    Option OptionRule → List Text → Except Refusal Arguments
  | none, [] => .ok {}
  | some rule, [] => .error (.valueMissing rule.long)
  | some rule, value :: rest => do
      return (← sortFrom rules interspersed none rest).withOptions [(rule.key, value)]
  | none, argument :: rest =>
      if argument = ['-', '-'] then .ok { positional := rest }
      else if isOption argument then do
        let read ← readOption rules argument
        return (← sortFrom rules interspersed read.waiting rest).withOptions read.options
      else if interspersed then do
        return (← sortFrom rules interspersed none rest).withPositional argument
      else .ok { positional := argument :: rest }

/-- Sorts arguments. -/
def sortArguments (rules : List OptionRule) (interspersed : Bool) (arguments : List Text) :
    Except Refusal Arguments :=
  sortFrom rules interspersed none arguments

/-- The options in front of every command. -/
def globalRules : List OptionRule :=
  [{ key := .version, long := "version", short := some 'v', takesValue := false },
    { key := .verbose, long := "verbose", takesValue := false }]

/-- The options that say which way edges are followed. -/
def directionRules : List OptionRule :=
  [{ key := .bidirectional, long := "bidirectional", takesValue := false },
    { key := .oneWay, long := "one-way", takesValue := false }]

/-- The options that describe a view. -/
def viewRules : List OptionRule :=
  [{ key := .active, long := "active", short := some 'a' },
    { key := .select, long := "select", short := some 's' },
    { key := .distance, long := "distance", short := some 'd' },
    { key := .relationship, long := "relationship", short := some 'r' }] ++ directionRules

/-- The options of showing a map. -/
def showRules : List OptionRule :=
  viewRules ++ [{ key := .seed, long := "seed" },
    { key := .tree, long := "tree", takesValue := false }]

/-- The options of exporting a map. -/
def exportRules : List OptionRule :=
  viewRules ++ [{ key := .format, long := "format", short := some 'f' },
    { key := .output, long := "output", short := some 'o' }]

/-- The options of saving a view. -/
def saveRules : List OptionRule :=
  { key := .distance, long := "distance", short := some 'd' } :: directionRules

namespace Arguments

/-- The integer that was given for an option. -/
def integer? (arguments : Arguments) (key : OptionKey) : Except Refusal (Option Int) :=
  match arguments.value? key with
  | none => .ok none
  | some value =>
      match WholeDecimal.read value with
      | some number => .ok (some number)
      | none => .error (.invalidNumber value)

/-- The natural number that was given for an option. -/
def natural? (arguments : Arguments) (key : OptionKey) : Except Refusal (Option Nat) := do
  match ← arguments.integer? key with
  | none => return none
  | some (.ofNat number) => return some number
  | some (.negSucc _) => throw (.invalidNumber ((arguments.value? key).getD []))

/-- The direction mode that was given last. -/
def direction? (arguments : Arguments) : Option Bool :=
  (arguments.options.filterMap fun (key, _) =>
    match key with
    | .bidirectional => some true
    | .oneWay => some false
    | _ => none).getLast?

end Arguments
end CommandLine
end ConceptMap
