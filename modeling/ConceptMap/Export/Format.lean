import ConceptMap.Export.Dot
import ConceptMap.Map.Written

/-!
# Formats

The formats in which a map is written: the language of documents, which always covers the whole map,
and JSON and DOT, which cover what the map shows.
-/

namespace ConceptMap

/-- The formats of an export. -/
inductive Format where
  | dsl
  | json
  | dot
deriving DecidableEq, Repr

namespace Format

/-- The name of a format. -/
def name : Format → Text
  | .dsl => "dsl"
  | .json => "json"
  | .dot => "dot"

/-- The format of a name in any case.  No character but an ASCII letter has one of the letters of
these names as its lower-case form, so that ASCII case is all that counts. -/
def ofText? (text : Text) : Option Format :=
  [dsl, json, dot].find? fun format => format.name = Text.lowerAscii text

/-- A map in a format. -/
def render (map : Map) : Format → Text
  | .dsl => map.toText
  | .json => map.toJsonText
  | .dot => map.toDot

/-- What stands in a file behind the text of a format. -/
def fileEnd : Format → Text
  | .dsl => ['\n']
  | .json | .dot => []

end Format

end ConceptMap
