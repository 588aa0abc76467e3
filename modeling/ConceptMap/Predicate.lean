import ConceptMap.Text.Blank

/-!
# Predicates

A predicate `source -- relationship -> target` relates two concepts.  A line is divided at its
first `--` and at the first `->` behind it; the three parts are trimmed, and none of them may be
empty or contain one of these tokens.
-/

namespace ConceptMap

/-- Two concepts and the relationship between them. -/
structure Predicate where
  /-- The concept that the relationship starts from. -/
  source : Text
  /-- The label of the relationship. -/
  relationship : Text
  /-- The concept that the relationship leads to. -/
  target : Text
deriving DecidableEq, Repr

/-- The id of a relationship between two concepts. -/
def linkId (source relationship target : Text) : Text :=
  source ++ "--" ++ relationship ++ "-->" ++ target

namespace Predicate

/-- The token between a source and a relationship. -/
def dashes : Text := ['-', '-']

/-- The token between a relationship and a target. -/
def arrow : Text := ['-', '>']

/-- The three parts of a predicate. -/
inductive Part where
  | source
  | relationship
  | target
deriving DecidableEq, Repr

/-- What a part is called in messages. -/
def Part.label : Part → Text
  | .source => "source concept"
  | .relationship => "relationship"
  | .target => "target concept"

/-- Why a line is not a predicate. -/
inductive Fault where
  /-- The line contains a line feed. -/
  | lineFeed
  /-- The line does not have the two tokens in order. -/
  | malformed (line : Text)
  /-- A part is empty. -/
  | emptyPart
  /-- A part contains a token. -/
  | tokenInPart (part : Part) (value : Text)
deriving DecidableEq, Repr

/-- The report of a fault on a line. -/
def Fault.message (line : Int) : Fault → Text
  | .lineFeed => "Newlines not allowed in predicate components on line " ++ Text.ofInt line
  | .malformed content =>
      "Invalid predicate syntax on line " ++ Text.ofInt line ++ ": " ++ content
  | .emptyPart => "Empty components not allowed in predicate on line " ++ Text.ofInt line
  | .tokenInPart part value =>
      "Invalid tokens in " ++ part.label ++ " on line " ++ Text.ofInt line ++ ": " ++ value

/-- The id of the relationship that the predicate states. -/
def key (predicate : Predicate) : Text :=
  linkId predicate.source predicate.relationship predicate.target

/-- The predicate as a line. -/
def render (predicate : Predicate) : Text :=
  predicate.source ++ " -- " ++ predicate.relationship ++ " -> " ++ predicate.target

/-- One of the tokens occurs in the text. -/
def hasToken (text : Text) : Bool := Text.mentions dashes text || Text.mentions arrow text

/-- The parts of a line before the first `--`, between it and the next `->`, and behind that. -/
def divide (line : Text) : Option (Text × Text × Text) := do
  let (source, rest) ← Text.cut dashes line
  let (relationship, target) ← Text.cut arrow rest
  return (source, relationship, target)

/-- The first part that contains a token. -/
def tokenPart? (predicate : Predicate) : Option (Part × Text) :=
  [(Part.source, predicate.source), (.relationship, predicate.relationship),
    (.target, predicate.target)].find? fun (_, value) => hasToken value

/-- The predicate that a line states.  A line feed is reported before anything else, then missing
tokens, then empty parts, and last a token inside a part, the source first. -/
def parse (line : Text) : Except Fault Predicate :=
  if line.contains '\n' then .error .lineFeed
  else
    match divide line with
    | none => .error (.malformed line)
    | some (source, relationship, target) =>
        let predicate : Predicate :=
          ⟨Text.trim source, Text.trim relationship, Text.trim target⟩
        if predicate.source.isEmpty || predicate.relationship.isEmpty ||
            predicate.target.isEmpty then
          .error .emptyPart
        else
          match predicate.tokenPart? with
          | some (part, value) => .error (.tokenInPart part value)
          | none => .ok predicate

/-- A text that can stand as a part: trimmed, not empty, on one line, and free of tokens. -/
structure IsPart (text : Text) : Prop where
  ne_nil : text ≠ []
  trimmed : Text.IsTrimmed text
  no_lineFeed : '\n' ∉ text
  no_token : hasToken text = false

/-- All three parts are as a line can state them. -/
structure WellFormed (predicate : Predicate) : Prop where
  source : IsPart predicate.source
  relationship : IsPart predicate.relationship
  target : IsPart predicate.target

end Predicate
end ConceptMap
