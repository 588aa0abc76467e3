import ConceptMap.Graph
import ConceptMap.Setting

/-!
# Views

What is looked at: an active concept and how far around it, selected concepts, whether direction
counts, and a relationship to which everything is restricted.
-/

namespace ConceptMap

/-- The state of navigation. -/
structure View where
  /-- The concept from which distances are measured. -/
  active : Option NodeRef := none
  /-- How far from the active concept nodes are visible. -/
  maxDistance : Nat := 2
  /-- Edges are followed in both directions. -/
  bidirectional : Bool := true
  /-- The only relationship that is looked at; never the empty label. -/
  relationship : Option Text := none
  /-- The concepts that are visible with their neighbours, ascending by id, each id once. -/
  selected : List NodeRef := []
deriving DecidableEq, Repr

/-- Puts a node into a list ascending by id; a node with the same id stays as it is. -/
def insertById (node : NodeRef) : List NodeRef → List NodeRef
  | [] => [node]
  | first :: rest =>
      if first.id = node.id then first :: rest
      else if node.id < first.id then node :: first :: rest
      else first :: insertById node rest

namespace View

/-- Makes a node the active one, or leaves none active. -/
def setActive (view : View) (node : Option NodeRef) : View := { view with active := node }

/-- Adds a node to the selection, unless a node of its id is in it. -/
def select (view : View) (node : NodeRef) : View :=
  { view with selected := insertById node view.selected }

/-- Takes the node of an id out of the selection. -/
def deselect (view : View) (node : NodeRef) : View :=
  { view with selected := view.selected.filter fun other => other.id ≠ node.id }

/-- Limits the distance; a negative limit counts as zero. -/
def setMaxDistance (view : View) (distance : Int) : View :=
  { view with maxDistance := distance.toNat }

/-- Follows edges in both directions, or only forwards. -/
def setBidirectional (view : View) (bidirectional : Bool) : View := { view with bidirectional }

/-- Restricts the view to a relationship.  No edge is visible for an empty label, so it means that
there is no restriction. -/
def setRelationship (view : View) (relationship : Option Text) : View :=
  { view with relationship := relationship.filter fun label => !label.isEmpty }

/-- Applies the distance limit and the direction mode of a configuration table, as far as it has
them.  If the limit is no integer, nothing is applied. -/
def applySettings (view : View) (table : Table) : Except Setting.IntegerFault View := do
  let limited ←
    match table.get? "max_distance" with
    | none => pure view
    | some limit => view.setMaxDistance <$> limit.toInteger
  match table.get? "bidirectional" with
  | none => return limited
  | some mode => return limited.setBidirectional mode.isTruthy

/-- The view shows nothing of its own: no concept is active and none is selected. -/
def isEmpty (view : View) : Bool := view.active.isNone && view.selected.isEmpty

end View
end ConceptMap
