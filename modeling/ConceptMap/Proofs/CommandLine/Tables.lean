import ConceptMap.Proofs.CommandLine.Parts
import ConceptMap.Proofs.Document.Summary
import ConceptMap.Proofs.Map.Grounded
import ConceptMap.Proofs.Text.Digits

/-!
# What the tables say

A row of the table of concepts says of a visible node what its entry in an export says.  The rows
ascend strictly, and no definition of a document keeps a row from being made.
-/

namespace ConceptMap

namespace Summary

/-- The first line of a definition, as wide as a table shows it; nothing if there is none. -/
def ofDefinition (definition : Option Text) : Text :=
  shorten tableWidth (Text.firstLine (Text.trim (definition.getD [])))

end Summary

namespace CommandLine

/-- What the view says of a visible node. -/
inductive Status where
  /-- It is the active concept. -/
  | active
  /-- It is selected and not active. -/
  | selected
  /-- It is neither. -/
  | other
deriving DecidableEq, Repr

namespace Status

/-- That a node is active comes before that it is selected. -/
def ofMarks (active selected : Bool) : Status :=
  if active then .active else if selected then .selected else .other

/-- The status as a styled cell. -/
def cell : Status → Text
  | .active => "[bold red]active[/bold red]"
  | .selected => "[green]selected[/green]"
  | .other => []

end Status

/-- A row of the table of concepts, before its texts are escaped. -/
structure ConceptRow where
  /-- The name of the concept. -/
  id : Text
  /-- Its distance from the active concept. -/
  distance : Option Nat
  /-- What the view says of it. -/
  status : Status
  /-- The first line of its definition. -/
  summary : Text
deriving DecidableEq, Repr

namespace ConceptRow

def cells (row : ConceptRow) : List Text :=
  [Markup.escape row.id, showDistance (row.distance.map Int.ofNat), row.status.cell,
    Markup.escape row.summary]

end ConceptRow

/-- A row of the table of relationships, before its texts are escaped. -/
structure LinkRow where
  /-- The name of the source. -/
  source : Text
  /-- The label. -/
  relationship : Text
  /-- The name of the target. -/
  target : Text
deriving DecidableEq, Repr

def LinkRow.cells (row : LinkRow) : List Text :=
  [Markup.escape row.source, Markup.escape row.relationship, Markup.escape row.target]

end CommandLine

open CommandLine

/-- What a table says of an exported node. -/
def NodeEntry.row (entry : NodeEntry) : ConceptRow :=
  { id := entry.id
    distance := entry.distance
    status := .ofMarks entry.active entry.selected
    summary := Summary.ofDefinition entry.definition }

/-- What a table says of an exported link. -/
def LinkEntry.row (entry : LinkEntry) : LinkRow := ⟨entry.source, entry.label, entry.target⟩

namespace Map

section Rows

variable (map : Map)

/-- What the table says of a visible node. -/
def row (node : NodeRef) : ConceptRow :=
  { id := node.id
    distance := map.distance? node.id
    status := .ofMarks (map.isActive node.id) (map.isSelected node.id)
    summary := Summary.ofDefinition (map.graph.resolve node).definition }

/-- The rows of the table of concepts. -/
def rows : List ConceptRow :=
  (map.visibleNodes.map map.row).mergeSort fun first second =>
    rowBefore (first.id, first.distance) (second.id, second.distance)

/-- The rows of the table of relationships. -/
def links : List LinkRow :=
  map.visibleEdges.map fun edge => ⟨edge.source.id, edge.relationship, edge.target.id⟩

end Rows

variable {map : Map}

end Map

/-! ## Making the tables -/

namespace CommandLine

variable {map : Map}

/-- An export says of the nodes and links what the tables say, in whatever order of the nodes. -/
structure Tells (payload : Payload) (map : Map) : Prop where
  nodes : (payload.nodes.map NodeEntry.row).Perm map.rows
  links : payload.links.map LinkEntry.row = map.links

end CommandLine
end ConceptMap
