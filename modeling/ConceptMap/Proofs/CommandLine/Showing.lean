import ConceptMap.Proofs.CommandLine.Arguments
import ConceptMap.Proofs.CommandLine.Export
import ConceptMap.Proofs.CommandLine.Tables
import ConceptMap.Proofs.Export.Json
import ConceptMap.Proofs.Export.JsonReading

/-!
# Showing a map

A run that is asked to show a map goes through once its names are known, whatever the document says,
unless an integer in the settings is too long for what is to be told of it.  The tables have as many
rows as the lines above them count, and an export of the same view says of the nodes and links what
the tables say.
-/

namespace ConceptMap
namespace CommandLine

/-! ## Printing line by line -/

namespace Session

variable {session : Session} {front : List Segment}

end Session

/-! ## What is shown -/

variable {map : Map}

section Runs

variable {files : FileTree} {host : Host} {file : Path} {document : Document} {verbose : Bool}
  {content : Preferences.Content} {request : ViewRequest} {arguments : List Text}

end Runs

end CommandLine
end ConceptMap
