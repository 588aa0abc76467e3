import ConceptMap.Predicate
import ConceptMap.Text.Line

/-!
# Statements

A document is a sequence of lines.  Blank lines separate; a line that ends with a colon opens a
definition, whose text is everything up to a line `---`; every other line states a predicate.
Scanning goes line by line and ends at the first fault.
-/

namespace ConceptMap

/-- Something that stands on a line of a document. -/
structure Numbered (α : Type) where
  /-- The number of the line, counted from one. -/
  line : Nat
  /-- What stands there. -/
  content : α
deriving DecidableEq, Repr

/-- A concept with its explanation. -/
structure Definition where
  /-- The concept that is explained. -/
  concept : Text
  /-- The explanation. -/
  text : Text
deriving DecidableEq, Repr

/-- A statement of a document. -/
inductive Statement where
  /-- Two concepts are related. -/
  | relates (predicate : Predicate)
  /-- A concept is explained. -/
  | defines (definition : Definition)
deriving DecidableEq, Repr

namespace Statement

/-- Why scanning ends before the last line. -/
inductive Fault where
  /-- A line that should state a predicate does not. -/
  | noPredicate (fault : Predicate.Fault)
  /-- A definition without a concept. -/
  | emptyConcept
  /-- A second definition of a concept. -/
  | duplicate (concept : Text)
  /-- A definition that is still open at the end. -/
  | unterminated (concept : Text)
deriving DecidableEq, Repr

/-- The line that ends a definition. -/
def terminator : Text := ['-', '-', '-']

/-- The report of a fault on a line. -/
def Fault.message (line : Int) : Fault → Text
  | .noPredicate fault => fault.message line
  | .emptyConcept => "Empty concept name in definition on line " ++ Text.ofInt line
  | .duplicate concept =>
      "Duplicate definition for concept '" ++ concept ++ "' on line " ++ Text.ofInt line
  | .unterminated concept =>
      "Missing definition terminator '" ++ terminator ++ "' for concept '" ++ concept ++
        "' starting on line " ++ Text.ofInt line

/-- A definition whose terminator has not been read yet. -/
structure OpenBlock where
  /-- The number of the line that opens it. -/
  line : Nat
  /-- The concept that it explains. -/
  concept : Text
  /-- The lines of the explanation so far. -/
  body : List Text
deriving DecidableEq, Repr

/-- The definition that a block amounts to when it ends. -/
def OpenBlock.close (block : OpenBlock) : Numbered Statement :=
  ⟨block.line, .defines ⟨block.concept, Text.trim (Text.joinLines block.body)⟩⟩

/-- What scanning has to know of the lines before. -/
structure Scanner where
  /-- The number of the next line. -/
  line : Nat := 1
  /-- The concepts that have been defined. -/
  defined : List Text := []
  /-- The definition that is open, if one is. -/
  block : Option OpenBlock := none
deriving DecidableEq, Repr

/-- The concept of a line that opens a definition. -/
def headerConcept? (line : Text) : Option Text :=
  match (Text.trim line).reverse with
  | ':' :: concept => some (Text.trim concept.reverse)
  | _ => none

/-- Reads a line outside a definition: the scanner after it, and the statement it completes. -/
def Scanner.readOutside (scanner : Scanner) (line : Text) :
    Except Fault (Scanner × Option (Numbered Statement)) :=
  let next := { scanner with line := scanner.line + 1 }
  if (Text.trim line).isEmpty then .ok (next, none)
  else
    match headerConcept? line with
    | none =>
        match Predicate.parse (Text.trim line) with
        | .error fault => .error (.noPredicate fault)
        | .ok predicate => .ok (next, some ⟨scanner.line, .relates predicate⟩)
    | some concept =>
        if concept.isEmpty then .error .emptyConcept
        else if concept ∈ scanner.defined then .error (.duplicate concept)
        else .ok ({ next with block := some ⟨scanner.line, concept, []⟩ }, none)

/-- Reads a line inside a definition: the terminator completes it, any other line belongs to it. -/
def Scanner.readInside (scanner : Scanner) (block : OpenBlock) (line : Text) :
    Scanner × Option (Numbered Statement) :=
  if Text.trim line = terminator then
    (⟨scanner.line + 1, block.concept :: scanner.defined, none⟩, some block.close)
  else
    (⟨scanner.line + 1, scanner.defined, some { block with body := block.body ++ [line] }⟩, none)

/-- Reads the next line. -/
def Scanner.read (scanner : Scanner) (line : Text) :
    Except Fault (Scanner × Option (Numbered Statement)) :=
  match scanner.block with
  | none => scanner.readOutside line
  | some block => .ok (scanner.readInside block line)

/-- The fault of ending here: a definition must not be open. -/
def Scanner.endFault? (scanner : Scanner) : Option (Numbered Fault) :=
  scanner.block.map fun block => ⟨block.line, .unterminated block.concept⟩

/-- The statements that were read, and the fault that ended the reading, if one did. -/
structure Scan where
  /-- The statements before the fault, in order. -/
  statements : List (Numbered Statement)
  /-- The first fault. -/
  fault : Option (Numbered Fault)
deriving DecidableEq, Repr

/-- Scans the remaining lines. -/
def scanFrom (scanner : Scanner) : List Text → Scan
  | [] => ⟨[], scanner.endFault?⟩
  | line :: rest =>
      match scanner.read line with
      | .error fault => ⟨[], some ⟨scanner.line, fault⟩⟩
      | .ok (next, statement) =>
          let later := scanFrom next rest
          ⟨statement.toList ++ later.statements, later.fault⟩

/-- Scans the lines of a document. -/
def scan (lines : List Text) : Scan := scanFrom {} lines

@[simp]
theorem scanFrom_nil (scanner : Scanner) : scanFrom scanner [] = ⟨[], scanner.endFault?⟩ := rfl

/-- The predicate of a statement that is one. -/
def predicate? : Statement → Option Predicate
  | .relates predicate => some predicate
  | .defines _ => none

/-- The definition of a statement that is one. -/
def definition? : Statement → Option Definition
  | .relates _ => none
  | .defines definition => some definition

end Statement
end ConceptMap
