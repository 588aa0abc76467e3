import ConceptMap.Export.Json
import ConceptMap.Map.Visible

/-!
# Payloads

What a map shows, as plain data: its nodes with their distances and whether they are active or
selected, and its links with whether they are highlighted.  A view that is empty shows the whole
map.
-/

namespace ConceptMap

/-- A node as it is exported. -/
structure NodeEntry where
  /-- The name of the concept. -/
  id : Text
  /-- Its definition. -/
  definition : Option Text
  /-- Its distance from the active concept. -/
  distance : Option Nat
  /-- It is the active concept. -/
  active : Bool
  /-- It is selected. -/
  selected : Bool
deriving DecidableEq, Repr

/-- An edge as it is exported. -/
structure LinkEntry where
  /-- The id of the edge. -/
  id : Text
  /-- The id of its source. -/
  source : Text
  /-- The id of its target. -/
  target : Text
  /-- Its label. -/
  label : Text
  /-- The view is restricted to its label. -/
  highlighted : Bool
deriving DecidableEq, Repr

/-- A map as it is exported. -/
structure Payload where
  /-- The name of the map. -/
  name : Text
  /-- Its nodes. -/
  nodes : List NodeEntry
  /-- Its edges. -/
  links : List LinkEntry
deriving DecidableEq, Repr

/-- What a map shows. -/
def Map.payload (map : Map) : Payload :=
  let distances := map.distances
  { name := map.name
    nodes := map.shownNodes.map fun node =>
      { id := node.id
        definition := (map.graph.resolve node).definition
        distance := distances.lookup node.id
        active := map.isActive node.id
        selected := map.isSelected node.id }
    links := map.shownEdges.map fun edge =>
      { id := edge.id
        source := edge.source.id
        target := edge.target.id
        label := edge.relationship
        highlighted := map.view.relationship = some edge.relationship } }

/-- A node entry as JSON. -/
def NodeEntry.toJson (entry : NodeEntry) : Json :=
  .object [("id", .string entry.id),
    ("definition", (entry.definition.map Json.string).getD .null),
    ("distance", (entry.distance.map fun distance => Json.integer distance).getD .null),
    ("active", .bool entry.active), ("selected", .bool entry.selected)]

/-- A link entry as JSON. -/
def LinkEntry.toJson (entry : LinkEntry) : Json :=
  .object [("id", .string entry.id), ("source", .string entry.source),
    ("target", .string entry.target), ("label", .string entry.label),
    ("highlighted", .bool entry.highlighted)]

/-- A payload as JSON. -/
def Payload.toJson (payload : Payload) : Json :=
  .object [("name", .string payload.name), ("nodes", .array (payload.nodes.map (·.toJson))),
    ("links", .array (payload.links.map (·.toJson)))]

/-- What a map shows, as an indented JSON document. -/
def Map.toJsonText (map : Map) : Text := map.payload.toJson.render

end ConceptMap
