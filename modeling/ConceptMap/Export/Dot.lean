import ConceptMap.Export.Payload

/-!
# DOT documents

What a map shows, as a digraph in the DOT language.  Names stand between double quotes, with a
backslash before quotes and backslashes, and `\n` for a line feed.
-/

namespace ConceptMap
namespace Dot

/-- A character inside a quoted name. -/
def escapeChar : Char → Text
  | '\\' => ['\\', '\\']
  | '"' => ['\\', '"']
  | '\n' => ['\\', 'n']
  | character => [character]

/-- A text inside a quoted name. -/
def escape (text : Text) : Text := text.flatMap escapeChar

/-- A text as a quoted name. -/
def name (text : Text) : Text := Text.between '"' (escape text)

/-- The attributes of a node: its label, its definition as a tooltip unless that is empty, and a
thick border for the active concept. -/
def attributes (map : Map) (node : NodeRef) : List Text :=
  let tooltip :=
    match (map.graph.resolve node).definition with
    | none | some [] => []
    | some text => ["tooltip=" ++ name text]
  let border : List Text := if map.isActive node.id then ["penwidth=2"] else []
  ("label=" ++ name node.id) :: (tooltip ++ border)

/-- The line of a node. -/
def nodeLine (map : Map) (node : NodeRef) : Text :=
  "  " ++ name node.id ++ " [" ++ Text.join ", " (attributes map node) ++ "];"

/-- The line of an edge. -/
def edgeLine (edge : Edge) : Text :=
  "  " ++ name edge.source.id ++ " -> " ++ name edge.target.id ++ " [label=" ++
    name edge.relationship ++ "];"

/-- The line that opens the graph. -/
def openLine (map : Map) : Text := "digraph " ++ name map.name ++ [' ', '{']

@[simp]
theorem escape_nil : escape [] = [] := rfl

@[simp]
theorem escape_append (front back : Text) :
    escape (front ++ back) = escape front ++ escape back := by
  simp [escape]

end Dot

/-- What a map shows, as a DOT document. -/
def Map.toDot (map : Map) : Text :=
  Text.joinLines (Dot.openLine map :: "  rankdir=LR;" ::
    (map.shownNodes.map (Dot.nodeLine map) ++ map.shownEdges.map Dot.edgeLine ++ [['}']]))

end ConceptMap
