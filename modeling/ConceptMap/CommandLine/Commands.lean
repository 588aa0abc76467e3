import ConceptMap.CommandLine.Invocation
import ConceptMap.CommandLine.Tables
import ConceptMap.Export.Format
import ConceptMap.Export.Sketch
import ConceptMap.Report
import ConceptMap.Sample

/-!
# Commands

What the commands do.  A command that cannot go on says so and stops; what it has printed and
written by then stays.
-/

namespace ConceptMap
namespace CommandLine

/-- The mark at the head of an error line. -/
def errorMark : Text := "❌ "

/-- Reports why a file cannot be used, and stops. -/
def reject {α : Type} (line : Text) : Action α := do
  echoError (errorMark ++ line)
  throw (.exit 1)

/-- Reads the text of a file. -/
def readText (file : Path) : Action Text := do
  match (← get).files.read file with
  | .error fault => reject (file.render ++ ": cannot read file: " ++ fault.message file)
  | .ok bytes =>
      match Utf8.decode bytes with
      | .error fault => reject (file.render ++ ": cannot read file: " ++ fault.message)
      | .ok text => return Text.unifyNewlines text

/-- Reads the document in a file. -/
def readDocument (file : Path) : Action Document := do
  let text ← readText file
  match Document.parse text with
  | .error fault =>
      let error := Statement.Fault.remark fault
      record .debug ("DSL parse aborted at line " ++ Text.ofNat error.line ++ ": " ++ error.message)
      reject (file.render ++ ":" ++ Text.ofNat error.line ++ ":" ++ Text.ofNat error.column ++
        ": " ++ error.message)
  | .ok document =>
      record .debug ("Parsed " ++ Text.ofNat document.predicates.length ++ " predicates, " ++
        Text.ofNat document.definitions.length ++ " definitions, " ++
        Text.ofNat document.warnings.length ++ " warnings")
      return document

/-- Reads the map in a file, which is named for the file. -/
def readMap (file : Path) : Action Map := do
  let document ← readDocument file
  let map := Map.ofDeclarations file.stem document.declarations
  record .info ("Built concept map '" ++ map.name ++ "': " ++ Text.ofNat map.graph.nodes.length ++
    " nodes, " ++ Text.ofNat map.graph.edges.length ++ " edges")
  return map

/-- Looks at a map as is asked for, and as the settings say. -/
def applyRequest (map : Map) (request : ViewRequest) : Action Map := do
  match map.request (← loadView) request with
  | .ok viewed => return viewed
  | .error fault => throw (.notFound fault)

/-- Reports the warnings of a document. -/
def check (file : Path) : Action Unit := do
  let document ← readDocument file
  echo ("Parsed " ++ Text.ofNat document.predicates.length ++ " predicates and " ++
    Text.ofNat document.definitions.length ++ " definitions.")
  if document.warnings.isEmpty then echo "No warnings."
  else echoGrid (warningGrid document)

/-- Prints what a map shows.  The distance limit may come from the settings file. -/
def present (map : Map) (tree : Bool) : Action Unit := do
  echoLines (titleLines map)
  echoLines (countLines map (← orUnwritable (Numeral.write map.view.maxDistance)))
  match conceptGrid map with
  | .error fault => throw (.summary fault)
  | .ok grid => echoGrid grid
  if !map.visibleEdges.isEmpty then echoGrid (relationshipGrid map)
  if tree then
    echo "\nASCII graph:"
    echo map.sketch

/-- Shows a map around a concept; if nothing is asked for, the host picks one. -/
def explore (file : Path) (request : ViewRequest) (seed : Option Int) (tree : Bool) :
    Action Unit := do
  let map ← applyRequest (← readMap file) request
  if map.view.isEmpty then
    match map.pick ((← get).host.pick seed map.graph.nodes.length) with
    | none =>
        echo "Concept map is empty."
        throw (.exit 0)
    | some node =>
        record .info ("Picked random active concept '" ++ node.id ++ "'")
        present (map.withView fun view => view.setActive (some node)) tree
  else present map tree

/-- Writes a map in a format. -/
def exportMap (file : Path) (request : ViewRequest) (format : Text) (output : Option Path) :
    Action Unit := do
  match Format.ofText? format with
  | none => throw (.unknownFormat format)
  | some format =>
      let map ← applyRequest (← readMap file) request
      let text := format.render map
      match output with
      | none => echo text
      | some path =>
          writeFile path (text ++ format.fileEnd)
          echo ("Exported " ++ format.name ++ " to " ++ path.render)

/-- Prints the preferences. -/
def showSettings : Action Unit := do
  let preferences ← loadView
  echo ("Config file: " ++ (← get).host.settingsFile.render)
  echo ("Max distance: " ++ (← orUnwritable (Numeral.write preferences.maxDistance)))
  echo ("Bidirectional: " ++ yesNo preferences.bidirectional)
  echo ("Log level: " ++ (← loadLevel).name)

/-- Saves the preferences that are given, and those that hold for the rest. -/
def saveSettings (distance : Option Nat) (bidirectional : Option Bool) : Action Unit := do
  let before ← loadView
  let preferences : ViewPreferences :=
    { maxDistance := distance.getD before.maxDistance
      bidirectional := bidirectional.getD before.bidirectional }
  saveView preferences
  echo ("Saved view defaults: max distance " ++
    (← orUnwritable (Numeral.write preferences.maxDistance)) ++ ", bidirectional " ++
    yesNo preferences.bidirectional ++ ".")

/-- Carries out a command. -/
def perform : Invocation → Action Unit
  | .check file => check file
  | .explore file view seed tree => explore file view seed tree
  | .export file view format output => exportMap file view format output
  | .sample => echo (Text.trimEnd sample)
  | .showSettings => showSettings
  | .saveSettings distance bidirectional => saveSettings distance bidirectional

end CommandLine
end ConceptMap
