import ConceptMap.CommandLine.Session
import ConceptMap.Map.Visible
import ConceptMap.Text.Markup

/-!
# Tables

What the commands show of documents and maps: the warnings of a document, and the visible nodes and
edges of a map with their counts.  Names and texts from documents are escaped in cells, so that the
renderer shows them as they are.
-/

namespace ConceptMap
namespace CommandLine

/-- The table of the warnings of a document. -/
def warningGrid (document : Document) : Grid :=
  { title := "Warnings (" ++ Text.ofNat document.warnings.length ++ ")"
    columns := ["Line", "Kind", "Message"]
    rows := document.warnings.map fun warning =>
      [Text.ofNat warning.line, warning.doubt.name, Markup.escape warning.message] }

/-- Yes or no. -/
def yesNo (value : Bool) : Text := if value then "yes" else "no"

/-- One distance comes before another one; an infinite distance comes last. -/
def distanceBefore : Option Nat → Option Nat → Bool
  | some first, some second => first < second
  | some _, none => true
  | none, _ => false

/-- The order of the rows: by distance, then by id. -/
def rowBefore (first second : Text × Option Nat) : Bool :=
  distanceBefore first.2 second.2 ||
    (!distanceBefore second.2 first.2 && !decide (second.1 < first.1))

/-- Whether a node is active or selected, as a styled cell. -/
def statusCell (map : Map) (id : Text) : Text :=
  if map.isActive id then "[bold red]active[/bold red]"
  else if map.isSelected id then "[green]selected[/green]"
  else []

/-- The row of a visible node. -/
def conceptRow (map : Map) (node : NodeRef) (distance : Option Nat) :
    Except Summary.Fault (List Text) := do
  let summary ← Summary.line Summary.tableWidth (map.graph.resolve node).definition
  return [Markup.escape node.id, showDistance (distance.map Int.ofNat), statusCell map node.id,
    Markup.escape summary]

/-- The table of the visible nodes. -/
def conceptGrid (map : Map) : Except Summary.Fault Grid := do
  let distances := map.distances
  let measured := map.visibleNodes.map fun node => (node, distances.lookup node.id)
  let ordered := measured.mergeSort fun first second =>
    rowBefore (first.1.id, first.2) (second.1.id, second.2)
  let rows ← ordered.mapM fun (node, distance) => conceptRow map node distance
  return { title := "Concepts", columns := ["Concept", "Distance", "Status", "Definition"], rows }

/-- The table of the visible edges. -/
def relationshipGrid (map : Map) : Grid :=
  { title := "Relationships"
    columns := ["Source", "Relationship", "Target"]
    rows := map.visibleEdges.map fun edge =>
      [Markup.escape edge.source.id, Markup.escape edge.relationship,
        Markup.escape edge.target.id] }

/-- The lines that say which map is shown, and around which concept. -/
def titleLines (map : Map) : List Text :=
  ["Concept map: " ++ map.name, "Active: " ++ (map.view.active.map NodeRef.id).getD "-"]

/-- The lines that say how far around, and how much of the map that is. -/
def countLines (map : Map) (limit : Text) : List Text :=
  ["Max distance: " ++ limit ++ " | Bidirectional: " ++ yesNo map.view.bidirectional,
    "Total nodes: " ++ Text.ofNat map.graph.nodes.length ++ " | Visible: " ++
      Text.ofNat map.visibleNodes.length,
    "Total edges: " ++ Text.ofNat map.graph.edges.length ++ " | Visible: " ++
      Text.ofNat map.visibleEdges.length]

end CommandLine
end ConceptMap
