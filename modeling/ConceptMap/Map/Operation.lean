import ConceptMap.Map

/-!
# Operations

The ways in which a map changes, and what a caller asks about a node.  A caller gives a node by its
id, which means the map's own node if it has one, or as a node that the map does not know, or gives
none at all.  Where an id is looked at, no node is a fault.  A selection consists of nodes.
-/

namespace ConceptMap

/-- A node as a caller gives it. -/
inductive NodeName where
  /-- The map's node of an id; if there is none, a new node without a definition. -/
  | id (id : Text)
  /-- A node of the caller's own. -/
  | own (node : Node)
deriving DecidableEq, Repr

/-- A change of a map. -/
inductive Operation where
  /-- Registers a node, or gives the registered one a definition. -/
  | addNode (id : Text) (definition : Option Text)
  /-- Registers an edge. -/
  | addEdge (source target : Option NodeName) (relationship : Text)
  /-- Makes a node the active one, or leaves none active. -/
  | setActive (node : Option NodeName)
  /-- Adds a node to the selection. -/
  | select (node : NodeName)
  /-- Takes a node out of the selection; giving none changes nothing. -/
  | deselect (node : Option NodeName)
  /-- Limits the distance. -/
  | setMaxDistance (distance : Int)
  /-- Follows edges in both directions, or only forwards. -/
  | setBidirectional (bidirectional : Bool)
  /-- Restricts the view to a relationship. -/
  | setRelationship (relationship : Option Text)
  /-- Applies a configuration table. -/
  | applySettings (table : Table)
deriving Repr

/-- Why a request about a map fails. -/
inductive Map.Fault where
  /-- No node is given where its id is needed. -/
  | noNode
  /-- A value of a configuration table gives no integer. -/
  | notInteger (fault : Setting.IntegerFault)
deriving DecidableEq, Repr

/-- The report of a fault. -/
def Map.Fault.message : Map.Fault → Text
  | .noNode => "'NoneType' object has no attribute 'id'"
  | .notInteger fault => fault.message

namespace Map

/-- The node that a caller means. -/
def refer (map : Map) : NodeName → NodeRef
  | .id id => map.graph.refer id
  | .own node => .detached node

/-- The node that a caller gives, which must be one. -/
def need (map : Map) : Option NodeName → Except Fault NodeRef
  | some node => .ok (map.refer node)
  | none => .error .noNode

/-- The edge that a caller means. -/
def edgeOf (map : Map) (source target : Option NodeName) (relationship : Text) :
    Except Fault Edge := do
  return ⟨← map.need source, relationship, ← map.need target⟩

/-- The neighbours of a node that a caller gives; a map without edges has none to look for. -/
def neighborsOf (map : Map) (node : Option NodeName) : Except Fault (List NodeRef) :=
  if map.graph.edges.isEmpty then .ok []
  else (map.need node).map fun node => map.neighbors node.id

/-- The distance of a node that a caller gives; without an active node every distance is
infinite. -/
def distanceOf (map : Map) (node : Option NodeName) : Except Fault (Option Nat) :=
  if map.view.active.isNone then .ok none
  else (map.need node).map fun node => map.distance? node.id

/-- The map after an operation.  One that is at fault changes nothing. -/
def perform (map : Map) : Operation → Except Fault Map
  | .addNode id definition => .ok (map.addNode id definition)
  | .addEdge source target relationship =>
      (map.edgeOf source target relationship).map map.addEdge
  | .setActive node => .ok (map.withView (·.setActive (node.map map.refer)))
  | .select node => .ok (map.withView (·.select (map.refer node)))
  | .deselect none => .ok map
  | .deselect (some node) => .ok (map.withView (·.deselect (map.refer node)))
  | .setMaxDistance distance => .ok (map.withView (·.setMaxDistance distance))
  | .setBidirectional bidirectional => .ok (map.withView (·.setBidirectional bidirectional))
  | .setRelationship relationship => .ok (map.withView (·.setRelationship relationship))
  | .applySettings table =>
      match map.view.applySettings table with
      | .ok view => .ok { map with view }
      | .error fault => .error (.notInteger fault)

/-- The map after operations, of which those at fault change nothing. -/
def after (map : Map) : List Operation → Map
  | [] => map
  | operation :: rest =>
      match map.perform operation with
      | .ok next => next.after rest
      | .error _ => map.after rest

/-- A node that is given has the distance of its id. -/
theorem distanceOf_some (map : Map) (node : NodeName) :
    map.distanceOf (some node) = .ok (map.distance? (map.refer node).id) := by
  unfold distanceOf
  split
  · next inactive => rw [distance?_of_active_eq_none (Option.isNone_iff_eq_none.1 inactive)]
  · rfl

@[simp]
theorem after_nil (map : Map) : map.after [] = map := rfl

theorem after_append (map : Map) (first second : List Operation) :
    map.after (first ++ second) = (map.after first).after second := by
  induction first generalizing map with
  | nil => rfl
  | cons operation rest ih =>
      simp only [List.cons_append, after]
      split <;> exact ih _

end Map
end ConceptMap
