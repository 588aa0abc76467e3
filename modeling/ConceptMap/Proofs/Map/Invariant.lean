import ConceptMap.Proofs.Map.Reachable
import ConceptMap.Proofs.Map.Selection

/-!
# What operations keep

Whatever is done with a map, its nodes and edges are filed under their own ids, and its view is in
order.  An operation is about one part of the map, the nodes, the edges or the view, and leaves the
others alone.  Ids are only ever added behind those that are there, and a node that has a definition
goes on to have one.  What is asked of a map is a function of it, so that there is nothing that a
question could change.
-/

namespace ConceptMap

/-! ## Views -/

/-- What a view keeps: it is not restricted to the empty label, and the selection ascends. -/
structure View.Ordered (view : View) : Prop where
  relationship : view.relationship ≠ some []
  selected : AscendsById view.selected

namespace View

variable {view after : View} {table : Table}

/-- A configuration table leaves alone what is looked at. -/
theorem applySettings_keeps (applied : view.applySettings table = .ok after) :
    after.active = view.active ∧ after.relationship = view.relationship ∧
      after.selected = view.selected := by
  rw [applySettings] at applied
  cases limit? : table.get? "max_distance" with
  | none =>
      cases mode? : table.get? "bidirectional" with
      | none | some =>
          simp only [limit?, mode?] at applied
          obtain rfl := Except.ok.inj applied
          exact ⟨rfl, rfl, rfl⟩
  | some limit =>
      cases converted : limit.toInteger with
      | error =>
          simp only [limit?, converted] at applied
          cases applied
      | ok distance =>
          cases mode? : table.get? "bidirectional" with
          | none | some =>
              simp only [limit?, converted, mode?] at applied
              obtain rfl := Except.ok.inj applied
              exact ⟨rfl, rfl, rfl⟩

theorem ordered_default : ({} : View).Ordered := ⟨nofun, .nil⟩

namespace Ordered

theorem select (ordered : view.Ordered) (node : NodeRef) : (view.select node).Ordered :=
  ⟨ordered.relationship, ordered.selected.insertById node⟩

theorem deselect (ordered : view.Ordered) (node : NodeRef) : (view.deselect node).Ordered :=
  ⟨ordered.relationship, ordered.selected.filter _⟩

theorem setRelationship (ordered : view.Ordered) (relationship : Option Text) :
    (view.setRelationship relationship).Ordered := by
  refine ⟨fun empty => ?_, ordered.selected⟩
  have kept := (Option.filter_eq_some_iff.1 empty).2
  simp at kept

theorem applySettings (ordered : view.Ordered) (applied : view.applySettings table = .ok after) :
    after.Ordered := by
  obtain ⟨-, relationship_eq, selected_eq⟩ := applySettings_keeps applied
  exact ⟨relationship_eq ▸ ordered.relationship, selected_eq ▸ ordered.selected⟩

end Ordered
end View

namespace Map

variable {map next : Map} {operation : Operation}

theorem ordered_perform (ordered : map.view.Ordered) (done : map.perform operation = .ok next) :
    next.view.Ordered := by
  cases performs_of_perform done with
  | addNode | addEdge | deselectNothing => exact ordered
  | setActive | setMaxDistance | setBidirectional => exact ⟨ordered.relationship, ordered.selected⟩
  | select node => exact ordered.select (map.refer node)
  | deselect node => exact ordered.deselect (map.refer node)
  | setRelationship relationship => exact ordered.setRelationship relationship
  | applySettings applied => exact ordered.applySettings applied

theorem Reachable.ordered (reachable : map.Reachable) : map.view.Ordered := by
  induction reachable with
  | declared => exact View.ordered_default
  | step _ done ih => exact ordered_perform ih done

/-- What holds of a map whatever was done with it. -/
structure InOrder (map : Map) : Prop where
  /-- An id leads to the node of that id, and every node is led to by its id. -/
  nodes : ∀ id node, map.graph.node? id = some node ↔ node ∈ map.graph.nodes ∧ node.id = id
  edges : ∀ id edge, map.graph.edge? id = some edge ↔ edge ∈ map.graph.edges ∧ edge.id = id
  maxDistance : (0 : Int) ≤ map.view.maxDistance
  relationship : map.view.relationship ≠ some []
  selected : (map.view.selected.map NodeRef.id).Nodup

theorem Reachable.inOrder (reachable : map.Reachable) : map.InOrder where
  nodes _ _ := reachable.keyed.node?_eq_some_iff
  edges _ _ := reachable.keyed.edge?_eq_some_iff
  maxDistance := Int.natCast_nonneg _
  relationship := reachable.ordered.relationship
  selected := reachable.ordered.selected.nodup_id

/-! ## What changes -/

/-- The parts of a map that change apart from each other. -/
inductive Part where
  /-- The registered nodes. -/
  | nodes
  /-- The edges. -/
  | edges
  /-- What is looked at, and how. -/
  | view
deriving DecidableEq

end Map

/-- The part of a map that an operation is about. -/
def Operation.part : Operation → Map.Part
  | .addNode _ _ => .nodes
  | .addEdge _ _ _ => .edges
  | .setActive _ | .select _ | .deselect _ | .setMaxDistance _ | .setBidirectional _
  | .setRelationship _ | .applySettings _ => .view

namespace Map

/-- An operation changes one part of a map and removes nothing: ids stay where they are, and what
is defined stays defined. -/
structure Alters (map next : Map) (part : Part) : Prop where
  node_ids : map.graph.nodes.map (·.id) <+: next.graph.nodes.map (·.id)
  edge_ids : map.graph.edges.map Edge.id <+: next.graph.edges.map Edge.id
  defined : ∀ id, (map.graph.node? id).bind (·.definition) ≠ none →
    (next.graph.node? id).bind (·.definition) ≠ none
  nodes : part ≠ .nodes → next.graph.nodes = map.graph.nodes
  edges : part ≠ .edges → next.graph.edges = map.graph.edges
  view : part ≠ .view → next.view = map.view
  name : next.name = map.name

variable {map next : Map} {operation : Operation}

theorem alters_withView (map : Map) (view : View) : map.Alters { map with view } .view where
  node_ids := List.prefix_refl _
  edge_ids := List.prefix_refl _
  defined _ defined := defined
  nodes _ := rfl
  edges _ := rfl
  view other := absurd rfl other
  name := rfl

theorem alters_addNode (map : Map) (id : Text) (definition : Option Text) :
    map.Alters (map.addNode id definition) .nodes where
  node_ids := by
    rw [addNode, Graph.map_id_addNode]
    exact Graph.isPrefix_insert _ id
  edge_ids := by simp [addNode]
  defined other defined := by
    rw [addNode, Graph.node?_addNode]
    split
    next same =>
      subst same
      cases definition with
      | none => exact defined
      | some text => exact Option.some_ne_none text
    next => exact defined
  nodes other := absurd rfl other
  edges _ := Graph.addNode_edges _ _ _
  view _ := rfl
  name := rfl

theorem alters_addEdge (map : Map) (edge : Edge) : map.Alters (map.addEdge edge) .edges where
  node_ids := by simp [addEdge]
  edge_ids := by
    rw [addEdge, Graph.map_id_addEdge]
    exact Graph.isPrefix_insert _ edge.id
  defined id defined := by
    rw [addEdge, Graph.node?, Graph.addEdge_nodes]
    exact defined
  nodes _ := Graph.addEdge_nodes _ _
  edges other := absurd rfl other
  view _ := rfl
  name := rfl

theorem alters_perform (done : map.perform operation = .ok next) :
    map.Alters next operation.part := by
  cases performs_of_perform done with
  | addNode id definition => exact map.alters_addNode id definition
  | addEdge => exact map.alters_addEdge _
  | _ => exact map.alters_withView _

/-- An operation at fault changes nothing. -/
theorem after_eq_self_of_error {fault : Fault} (failed : map.perform operation = .error fault) :
    map.after [operation] = map := by
  rw [after, failed]
  rfl

/-- An operation goes through, or else nothing is changed. -/
theorem after_cases (map : Map) (operation : Operation) :
    map.after [operation] = map ∨ map.perform operation = .ok (map.after [operation]) := by
  cases performed : map.perform operation with
  | error fault => exact .inl (after_eq_self_of_error performed)
  | ok next =>
      right
      rw [after, performed]
      rfl

theorem alters_self (map : Map) (part : Part) : map.Alters map part :=
  ⟨List.prefix_refl _, List.prefix_refl _, fun _ => id, fun _ => rfl, fun _ => rfl, fun _ => rfl,
    rfl⟩

theorem alters_after (map : Map) (operation : Operation) :
    map.Alters (map.after [operation]) operation.part := by
  rcases map.after_cases operation with same | done
  · rw [same]
    exact map.alters_self operation.part
  · exact alters_perform done

/-- After any operations a map is in order, and one more operation changes no more than the part
that it is about; at fault it changes nothing.  A limit is never taken below zero. -/
theorem inOrder_after (name : Text) (declarations : Declarations) (operations : List Operation) :
    let map := (Map.ofDeclarations name declarations).after operations
    map.InOrder ∧ ∀ operation,
      map.Alters (map.after [operation]) operation.part ∧
        (∀ fault, map.perform operation = .error fault → map.after [operation] = map) ∧
        ∀ distance, operation = .setMaxDistance distance →
          ((map.after [operation]).view.maxDistance : Int) = max 0 distance := by
  intro map
  have reachable : map.Reachable := (Reachable.declared name declarations).after operations
  refine ⟨reachable.inOrder, fun operation => ⟨map.alters_after operation, ?_, ?_⟩⟩
  · exact fun _ failed => after_eq_self_of_error failed
  · rintro distance rfl
    have limit_eq : (map.after [.setMaxDistance distance]).view.maxDistance = distance.toNat := rfl
    omega

/-- The empty map is that of no declarations. -/
example (name : Text) : Map.ofDeclarations name {} = { name } := rfl

end Map
end ConceptMap
