import ConceptMap.Declarations

/-!
# Reports

What is told of a document: its declarations and the warnings about them, or the one error that
makes it unreadable.  Every remark points to the line it is about.
-/

namespace ConceptMap

/-- Something to be told about a line. -/
structure Remark where
  /-- The number of the line. -/
  line : Nat
  /-- Where it begins in the line; remarks are about whole lines. -/
  column : Nat := 1
  /-- What is said. -/
  message : Text
  /-- The name of this kind of remark. -/
  kind : Text
deriving DecidableEq, Repr

/-- A fault as a remark. -/
def Statement.Fault.remark (fault : Numbered Statement.Fault) : Remark :=
  { line := fault.line, message := fault.content.message fault.line, kind := "syntax" }

/-- A warning as a remark. -/
def Warning.remark (warning : Warning) : Remark :=
  { line := warning.line, message := warning.message, kind := warning.doubt.name }

/-- What is told of a document.  One with an error declares nothing. -/
structure Report where
  /-- What the document declares. -/
  declarations : Declarations := {}
  /-- Why it cannot be read. -/
  errors : List Remark := []
  /-- What is doubtful about it. -/
  warnings : List Remark := []
deriving DecidableEq, Repr

/-- What is told of the document that a text is. -/
def Document.report (text : Text) : Report :=
  match Document.parse text with
  | .error fault => { errors := [Statement.Fault.remark fault] }
  | .ok document =>
      { declarations := document.declarations
        warnings := document.warnings.map Warning.remark }

end ConceptMap
