import ConceptMap.Text.Blank
import ConceptMap.Text.Line

/-!
# Summaries

A definition is summed up by its first line, cut to a width.  A definition that is there but blank
has no first line.
-/

namespace ConceptMap
namespace Summary

/-- Why a text has no summary. -/
inductive Fault where
  /-- The text has nothing but blanks. -/
  | blank
deriving DecidableEq, Repr

/-- The report of a text without a summary. -/
def Fault.message : Fault → Text
  | .blank => "list index out of range"

/-- The characters before an index; a negative index counts from the end. -/
def upTo (index : Int) (text : Text) : Text :=
  text.take (if index < 0 then text.length + index else index).toNat

/-- A line, or as much of it as leaves room for an ellipsis within a width. -/
def shorten (width : Int) (line : Text) : Text :=
  if line.length ≤ width then line else upTo (width - 1) line ++ ['…']

/-- The first line of a text, cut to a width.  No text and the empty text have an empty summary. -/
def line (width : Int) : Option Text → Except Fault Text
  | none | some [] => .ok []
  | some text =>
      match Text.trim text with
      | [] => .error .blank
      | trimmed => .ok (shorten width (Text.firstLine trimmed))

/-- The width of a summary in a table. -/
def tableWidth : Int := 60

end Summary

/-- A distance as it is shown: an infinite one by its sign. -/
def showDistance : Option Int → Text
  | none => ['∞']
  | some distance => Text.ofInt distance

end ConceptMap
