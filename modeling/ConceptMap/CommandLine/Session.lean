import ConceptMap.Files.Home
import ConceptMap.Files.Tree
import ConceptMap.Map.Request
import ConceptMap.Text.ControlSequence
import ConceptMap.Text.Summary

/-!
# Sessions

What a run of the command line sees and leaves behind: the files, what was printed, and what was
logged.  An action goes on from one session to the next, or stops early with a reason.  What the
program leaves to others is settled by its host.
-/

namespace ConceptMap
namespace CommandLine

/-- A table as it is handed to the renderer, whose cells may contain style tags. -/
structure Grid where
  /-- What stands above the table. -/
  title : Text
  /-- The headers of the columns. -/
  columns : List Text
  /-- The cells, row by row. -/
  rows : List (List Text)
deriving DecidableEq, Repr

/-- A piece of what was printed. -/
inductive Segment where
  /-- Lines of text. -/
  | text (text : Text)
  /-- A table. -/
  | grid (grid : Grid)
deriving DecidableEq, Repr

/-- A message for the log. -/
structure Record where
  /-- How much it matters. -/
  level : Level
  /-- What it says. -/
  message : Text
deriving DecidableEq, Repr

/-- What a run depends on besides its files and its arguments. -/
structure Host where
  /-- The directory of the settings file. -/
  settings : Path
  /-- Which one of so many is picked, by a seed or without one. -/
  pick : Option Int → Nat → Int
  /-- What the reader of documents says about a text that is none. -/
  explain : Text → Text

/-- The path of the settings file. -/
def Host.settingsFile (host : Host) : Path := host.settings.child Environment.settingsName

/-- What a run has seen and left behind so far. -/
structure Session where
  /-- The files. -/
  files : FileTree
  /-- What else the run depends on. -/
  host : Host
  /-- The least level that is logged. -/
  level : Level := .default
  /-- The messages that were logged. -/
  log : List Record := []
  /-- What was printed. -/
  output : List Segment := []
  /-- What was printed about errors. -/
  errors : Text := []

/-- Why arguments are refused. -/
inductive Refusal where
  /-- There is no option of this name. -/
  | unknownOption (name : Text)
  /-- The option needs a value. -/
  | valueMissing (name : Text)
  /-- The option takes no value. -/
  | valueUnexpected (name : Text)
  /-- The value is no integer in the range of the option. -/
  | invalidNumber (value : Text)
  /-- There is no such file. -/
  | noFile (path : Text)
  /-- An argument is missing. -/
  | argumentMissing
  /-- There is an argument too many. -/
  | argumentUnexpected (argument : Text)
  /-- There is no command. -/
  | commandMissing
  /-- There is no command of this name. -/
  | unknownCommand (name : Text)
deriving DecidableEq, Repr

/-- Why a run stops before its end. -/
inductive Stop where
  /-- All is said. -/
  | exit (code : Nat)
  /-- The arguments cannot be read. -/
  | usage (refusal : Refusal)
  /-- A name that was asked for is not known. -/
  | notFound (fault : NotFound)
  /-- There is no format of this name. -/
  | unknownFormat (name : Text)
  /-- A file cannot be read or written. -/
  | file (fault : FileFault) (path : Path)
  /-- A definition has no first line. -/
  | summary (fault : Summary.Fault)
  /-- An integer from outside is to be written. -/
  | unwritable (fault : Numeral.WriteFault)
deriving DecidableEq, Repr

/-- The exit code of a run that stops. -/
def Stop.code : Stop → Nat
  | .exit code => code
  | .usage _ | .notFound _ | .unknownFormat _ => 2
  | .file _ _ | .summary _ | .unwritable _ => 1

/-- What is reported of a run that stops, unless all is said. -/
def Stop.message? : Stop → Option Text
  | .exit _ | .usage _ => none
  | .notFound fault => some fault.message
  | .unknownFormat _ => some "Format must be one of: dsl, json, dot"
  | .file fault path => some (fault.message path)
  | .summary fault => some fault.message
  | .unwritable fault => some fault.message

/-- Something to do in a session. -/
abbrev Action (α : Type) := ExceptT Stop (StateM Session) α

namespace Session

/-- Puts a text behind what was printed. -/
def print (session : Session) (text : Text) : Session :=
  match session.output.getLast? with
  | some (.text before) =>
      { session with output := session.output.dropLast ++ [.text (before ++ text)] }
  | _ => { session with output := session.output ++ [.text text] }

/-- A line as it is printed: without control sequences, and with its end. -/
def printedLine (line : Text) : Text := ControlSequence.remove line ++ ['\n']

/-- Prints a line. -/
def echo (session : Session) (line : Text) : Session := session.print (printedLine line)

/-- Prints a line about an error. -/
def echoError (session : Session) (line : Text) : Session :=
  { session with errors := session.errors ++ printedLine line }

/-- Logs a message, if it matters enough. -/
def record (session : Session) (level : Level) (message : Text) : Session :=
  if session.level.rank ≤ level.rank then
    { session with log := session.log ++ [⟨level, message⟩] }
  else session

/-- Warnings are logged. -/
def warns (session : Session) : Prop := session.level.rank ≤ Level.warning.rank

instance (session : Session) : Decidable session.warns := inferInstanceAs (Decidable (_ ≤ _))

/-- The report of a complaint about the settings file, if it can be written. -/
def report (session : Session) (complaint : Complaint) : Text :=
  complaint.message session.host.settingsFile session.host.explain

end Session

/-- Prints a line. -/
def echo (line : Text) : Action Unit := modify fun session => session.echo line

/-- Prints lines one after another. -/
def echoLines (lines : List Text) : Action Unit :=
  modify fun session => lines.foldl Session.echo session

/-- Prints a line about an error. -/
def echoError (line : Text) : Action Unit := modify fun session => session.echoError line

/-- Prints a table. -/
def echoGrid (grid : Grid) : Action Unit :=
  modify fun session => { session with output := session.output ++ [.grid grid] }

/-- Logs a message. -/
def record (level : Level) (message : Text) : Action Unit :=
  modify fun session => session.record level message

/-- Goes on with what could be written, or stops. -/
def orUnwritable {α : Type} : Except Numeral.WriteFault α → Action α
  | .ok result => return result
  | .error fault => throw (.unwritable fault)

/-- Logs a complaint about the settings file.  A report that cannot be written stops the run, unless
warnings are not logged anyway. -/
def complain (complaint : Complaint) : Action Unit := do
  let session ← get
  if session.warns then
    let host := session.host
    record .warning (← orUnwritable (complaint.write host.settingsFile host.explain))

/-- Logs the complaints that came with a result. -/
def accept {α : Type} (reported : Reported α) : Action α := do
  reported.complaints.forM complain
  return reported.value

/-- Logs the complaints that came with a result, before the log of the program is set up: those that
cannot be written are passed over. -/
def acceptEarly {α : Type} (reported : Reported α) : Action α := do
  modify fun session =>
    (reported.complaints.filter Complaint.isWritable).foldl
      (fun session complaint => session.record .warning (session.report complaint)) session
  return reported.value

/-- Goes on with the result of a file operation, or stops at its fault. -/
def orStop {α : Type} (path : Path) : Except FileFault α → Action α
  | .ok result => return result
  | .error fault => throw (.file fault path)

/-- Writes a file. -/
def writeFile (path : Path) (text : Text) : Action Unit := do
  let session ← get
  let files ← orStop path (session.files.write path (Utf8.encode text))
  set { session with files }

/-- The content of the settings file; none if there is no such file. -/
def readSettings : Action Preferences.Content := do
  let session ← get
  let path := session.host.settingsFile
  match session.files.find path with
  | .error .missing | .error .notDirectory => return none
  | _ => some <$> orStop path (session.files.read path)

/-- The view preferences of the settings file. -/
def loadView : Action ViewPreferences := do accept (Preferences.loadView (← readSettings))

/-- The level that the settings file sets. -/
def loadLevel : Action Level := do
  orUnwritable (← accept (Preferences.loadLevel (← readSettings)))

/-- The level that the settings file sets, before the log of the program is set up. -/
def loadLevelEarly : Action Level := do
  orUnwritable (← acceptEarly (Preferences.loadLevel (← readSettings)))

/-- Sets the view preferences in the settings file, whose directory is made if need be.  If they
cannot be written, the file is left without any content. -/
def saveView (preferences : ViewPreferences) : Action Unit := do
  let saved ←
    accept (Preferences.saveView (← readSettings) preferences.maxDistance
      preferences.bidirectional)
  let session ← get
  let host := session.host
  let made ← orStop host.settings (session.files.makeDirectory host.settings)
  let files ← orStop host.settingsFile (made.write host.settingsFile (saved.toOption.getD []))
  set { session with files }
  discard (orUnwritable saved)

end CommandLine
end ConceptMap
