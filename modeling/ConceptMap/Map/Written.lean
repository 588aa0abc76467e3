import ConceptMap.Map

/-!
# Written maps

A map in the language of documents: a line for each edge, then a definition for each node that has
one.
-/

namespace ConceptMap

/-- The lines of a definition, with an empty line behind them. -/
def Definition.lines (definition : Definition) : List Text :=
  [definition.concept ++ ":", definition.text, Statement.terminator, []]

/-- The definition of a node, unless it is missing or empty. -/
def Node.definition? (node : Node) : Option Definition :=
  match node.definition with
  | none | some [] => none
  | some text => some ⟨node.id, text⟩

namespace Map

/-- The lines of a document for the map: its edges, an empty line if there are any, and its
definitions. -/
def documentLines (map : Map) : List Text :=
  let gap := if map.graph.edges.isEmpty then [] else [[]]
  map.graph.edges.map (·.predicate.render) ++ gap ++
    (map.graph.nodes.filterMap Node.definition?).flatMap Definition.lines

/-- The map as a document, without blanks at its end. -/
def toText (map : Map) : Text := Text.trimEnd (Text.joinLines map.documentLines)

end Map
end ConceptMap
