import ConceptMap.FirstOccurrence
import ConceptMap.Statement

/-!
# Declarations

What a document declares: its predicates, each once, and its definitions.  A document that can be
read also has warnings: concepts that are defined but not related to anything, and concepts that
are related but not defined.
-/

namespace ConceptMap

/-- The content of a document. -/
structure Declarations where
  /-- The predicates, in the order in which they first occur. -/
  predicates : List Predicate := []
  /-- The definitions, at most one for each concept. -/
  definitions : List Definition := []
deriving DecidableEq, Repr

namespace Declarations

/-- The explanation of a concept. -/
def definition? (declarations : Declarations) (concept : Text) : Option Text :=
  (declarations.definitions.find? (·.concept = concept)).map (·.text)

/-- Adds a definition; an earlier one of the same concept is replaced where it stands. -/
def define (declarations : Declarations) (definition : Definition) : Declarations :=
  if declarations.definitions.any (·.concept = definition.concept) then
    { declarations with
      definitions := declarations.definitions.map fun other =>
        if other.concept = definition.concept then definition else other }
  else
    { declarations with definitions := declarations.definitions ++ [definition] }

/-- The concepts that the predicates relate, each at its first mention, a source before its
target. -/
def concepts (declarations : Declarations) : List Text :=
  firstOccurrences id (declarations.predicates.flatMap fun predicate =>
    [predicate.source, predicate.target])

end Declarations

/-- What may be doubtful about a document that can be read. -/
inductive Doubt where
  /-- The concept is defined but no predicate relates it. -/
  | orphanedDefinition
  /-- The concept is related but not defined. -/
  | missingDefinition
deriving DecidableEq, Repr

/-- The name of a doubt in reports. -/
def Doubt.name : Doubt → Text
  | .orphanedDefinition => "orphaned_definition"
  | .missingDefinition => "missing_definition"

/-- A doubt about one concept. -/
structure Warning where
  /-- The line of its definition, or the first line that relates it. -/
  line : Nat
  /-- What is doubtful. -/
  doubt : Doubt
  /-- The concept. -/
  concept : Text
deriving DecidableEq, Repr

/-- The report of a warning. -/
def Warning.message (warning : Warning) : Text :=
  match warning.doubt with
  | .orphanedDefinition =>
      "Definition for '" ++ warning.concept ++
        "' exists but concept is not used in any predicates"
  | .missingDefinition =>
      "Concept '" ++ warning.concept ++ "' used in predicates but has no definition"

/-- A document that has been read. -/
structure Document where
  /-- Its predicates, each with the line of its first occurrence. -/
  predicates : List (Numbered Predicate)
  /-- Its definitions, each with the line that opens it. -/
  definitions : List (Numbered Definition)
deriving DecidableEq, Repr

namespace Document

/-- The document of some statements. -/
def ofStatements (statements : List (Numbered Statement)) : Document :=
  { predicates :=
      firstOccurrences (·.content) (statements.filterMap fun statement =>
        statement.content.predicate?.map (⟨statement.line, ·⟩))
    definitions := statements.filterMap fun statement =>
      statement.content.definition?.map (⟨statement.line, ·⟩) }

/-- Reads a document, or says where its first fault is. -/
def parse (text : Text) : Except (Numbered Statement.Fault) Document :=
  let scan := Statement.scan (Text.splitLines text)
  match scan.fault with
  | some fault => .error fault
  | none => .ok (ofStatements scan.statements)

/-- What the document declares. -/
def declarations (document : Document) : Declarations :=
  { predicates := document.predicates.map (·.content)
    definitions := document.definitions.map (·.content) }

/-- The related concepts, each with the first line that relates it. -/
def references (document : Document) : List (Numbered Text) :=
  firstOccurrences (·.content) (document.predicates.flatMap fun predicate =>
    [⟨predicate.line, predicate.content.source⟩, ⟨predicate.line, predicate.content.target⟩])

/-- The definitions whose concept is not related to anything. -/
def orphans (document : Document) : List Warning :=
  (document.definitions.filter fun definition =>
    !document.references.any (·.content = definition.content.concept)).map fun definition =>
      ⟨definition.line, .orphanedDefinition, definition.content.concept⟩

/-- The related concepts without a definition. -/
def undefined (document : Document) : List Warning :=
  (document.references.filter fun reference =>
    !document.definitions.any (·.content.concept = reference.content)).map fun reference =>
      ⟨reference.line, .missingDefinition, reference.content⟩

/-- All warnings: first the orphaned definitions, then the missing ones. -/
def warnings (document : Document) : List Warning := document.orphans ++ document.undefined

end Document
end ConceptMap
