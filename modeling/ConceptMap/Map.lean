import ConceptMap.Graph.Distance
import ConceptMap.View

/-!
# Concept maps

A concept map is a named graph together with what is looked at in it.  Distances are measured from
the active concept, in the direction mode of the view.
-/

namespace ConceptMap

/-- A named graph and the view of it. -/
structure Map where
  /-- The name of the map. -/
  name : Text
  /-- The concepts and their relationships. -/
  graph : Graph := {}
  /-- What is looked at. -/
  view : View := {}
deriving DecidableEq, Repr

namespace Map

/-- The map that declarations describe, under the default view. -/
def ofDeclarations (name : Text) (declarations : Declarations) : Map :=
  { name, graph := .ofDeclarations declarations }

/-- Registers a node, or gives the registered one a definition. -/
def addNode (map : Map) (id : Text) (definition : Option Text) : Map :=
  { map with graph := map.graph.addNode id definition }

/-- Registers an edge. -/
def addEdge (map : Map) (edge : Edge) : Map := { map with graph := map.graph.addEdge edge }

/-- Looks at the map in another way. -/
def withView (map : Map) (change : View → View) : Map := { map with view := change map.view }

/-- The neighbours of an id, in the direction mode of the view. -/
def neighbors (map : Map) (id : Text) : List NodeRef :=
  map.graph.neighbors map.view.bidirectional id

/-- The ids that can be reached from the active concept, each with its distance. -/
def distances (map : Map) : List (Text × Nat) :=
  match map.view.active with
  | none => []
  | some active => map.graph.distancesFrom map.view.bidirectional active.id

/-- The distance of an id from the active concept; none without an active concept or a walk. -/
def distance? (map : Map) (id : Text) : Option Nat := map.distances.lookup id

/-- The node is the active one. -/
def isActive (map : Map) (id : Text) : Bool := map.view.active.any fun active => active.id = id

/-- The node is selected. -/
def isSelected (map : Map) (id : Text) : Bool := map.view.selected.any fun node => node.id = id

/-- The registered node at an index, counted round and round from both ends. -/
def pick (map : Map) (index : Int) : Option NodeRef :=
  (map.graph.nodes[(index % map.graph.nodes.length).toNat]?).map fun node => .registered node.id

/-- A line that names the map and counts its members. -/
def describe (map : Map) : Text :=
  "ConceptMap(" ++ Text.quoted map.name ++ ", nodes=" ++ Text.ofNat map.graph.nodes.length ++
    ", edges=" ++ Text.ofNat map.graph.edges.length ++ ")"

@[simp]
theorem withView_graph (map : Map) (change : View → View) :
    (map.withView change).graph = map.graph := rfl

@[simp]
theorem withView_view (map : Map) (change : View → View) :
    (map.withView change).view = change map.view := rfl

@[simp]
theorem addNode_view (map : Map) (id : Text) (definition : Option Text) :
    (map.addNode id definition).view = map.view := rfl

@[simp]
theorem addEdge_view (map : Map) (edge : Edge) : (map.addEdge edge).view = map.view := rfl

/-- Without an active concept every distance is infinite. -/
theorem distance?_of_active_eq_none {map : Map} (inactive : map.view.active = none) (id : Text) :
    map.distance? id = none := by
  simp [distance?, distances, inactive]

end Map

/-- A short description of a node. -/
def NodeRef.describe (node : NodeRef) : Text := "Node(" ++ node.id ++ ")"

/-- A short description of an edge. -/
def Edge.describe (edge : Edge) : Text :=
  "Edge(" ++ edge.source.id ++ " --" ++ edge.relationship ++ "--> " ++ edge.target.id ++ ")"

end ConceptMap
