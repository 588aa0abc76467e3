import ConceptMap.CommandLine.Run
import ConceptMap.Text.Markup

/-!
# Printed runs

How the outcome of a run looks on a screen.  A table is drawn with columns of equal width and
without styles; the log comes before the lines about errors, and the reason of a stop comes last.
-/

namespace ConceptMap
namespace CommandLine

namespace Grid

/-- The widths of the columns. -/
def widths (grid : Grid) : List Nat :=
  grid.rows.foldl
    (fun widths row => List.zipWith max widths (row.map fun cell => (Markup.plain cell).length))
    (grid.columns.map List.length)

/-- A cell filled up to a width. -/
def pad (width : Nat) (cell : Text) : Text := cell ++ List.replicate (width - cell.length) ' '

/-- Cells side by side. -/
def row (widths : List Nat) (cells : List Text) : Text :=
  Text.trimEnd (Text.join "  " (List.zipWith pad widths cells))

/-- The lines of a table: its title, the headers, a rule, and the rows. -/
def lines (grid : Grid) : List Text :=
  let widths := grid.widths
  let rule := widths.map fun width => List.replicate width '-'
  [grid.title, row widths grid.columns, row widths rule] ++
    grid.rows.map fun cells => row widths (cells.map Markup.plain)

end Grid

/-- A piece of the output as a text. -/
def Segment.printed : Segment → Text
  | .text content => content
  | .grid table => Text.join ['\n'] table.lines ++ ['\n']

/-- The report of arguments that are refused. -/
def Refusal.message : Refusal → Text
  | .unknownOption name => "No such option: " ++ name
  | .valueMissing name => "Option " ++ name ++ " needs a value."
  | .valueUnexpected name => "Option " ++ name ++ " takes no value."
  | .invalidNumber value => Text.quoted value ++ " is not a number in range."
  | .noFile path => "There is no file " ++ Text.quoted path ++ "."
  | .argumentMissing => "A file is missing."
  | .argumentUnexpected argument => "Unexpected argument " ++ Text.quoted argument ++ "."
  | .commandMissing => "A command is missing."
  | .unknownCommand name => "No such command " ++ Text.quoted name ++ "."

/-- Why a run stopped, unless all is said. -/
def Stop.report? : Stop → Option Text
  | .usage refusal => some refusal.message
  | stop => stop.message?

/-- A logged message as a line. -/
def Record.line (record : Record) : Text := record.level.name ++ ": " ++ record.message ++ ['\n']

namespace Outcome

/-- The output of a run. -/
def printed (outcome : Outcome) : Text := outcome.session.output.flatMap Segment.printed

/-- Why a run stopped, as a line. -/
def stopLine (outcome : Outcome) : Text :=
  match outcome.stop.bind Stop.report? with
  | none => []
  | some report => errorMark ++ report ++ ['\n']

/-- What a run says about its course and its errors. -/
def reported (outcome : Outcome) : Text :=
  outcome.session.log.flatMap Record.line ++ outcome.session.errors ++ outcome.stopLine

end Outcome

/-- The spellings of paths that an argument may contain: the whole of it, what follows an equals
sign, and what follows a dash and a letter. -/
def spellings (argument : Text) : List Text :=
  [argument, (argument.dropWhile (· ≠ '=')).drop 1, argument.drop 2]

/-- The places that a run with these arguments may look at. -/
def reach (settings : Path) (arguments : List Text) : List Path :=
  let paths := (arguments.flatMap spellings).map Path.parse
  ((settings.child Environment.settingsName :: paths).flatMap Path.places).eraseDups

end CommandLine
end ConceptMap
