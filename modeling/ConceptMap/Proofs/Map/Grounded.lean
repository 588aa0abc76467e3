import ConceptMap.Proofs.Map.RoundTrip
import ConceptMap.Proofs.Map.SetOrder
import ConceptMap.Proofs.Map.VisibleDistance

/-!
# Grounded maps

In a map that is read from a document the ends of the edges are nodes of the map itself, and so are
the concepts that a user may look at.  Nothing else can become visible, so that there is never more
to see than the map has.
-/

namespace ConceptMap

namespace Graph

theorem Closed.mem_of_step {graph : Graph} (closed : graph.Closed) {bidirectional : Bool}
    {start finish : Text} (step : graph.Step bidirectional start finish) :
    finish ∈ graph.nodes.map (·.id) := by
  obtain ⟨edge, edge_mem, ⟨-, rfl⟩ | ⟨-, -, rfl⟩⟩ := step
  · exact closed _ (List.mem_flatMap.2 ⟨edge, edge_mem, by simp⟩)
  · exact closed _ (List.mem_flatMap.2 ⟨edge, edge_mem, by simp⟩)

theorem closed_ofDeclarations (declarations : Declarations) :
    (ofDeclarations declarations).Closed := by
  intro id found
  obtain ⟨edge, edge_mem, id_mem⟩ := List.mem_flatMap.1 found
  obtain ⟨predicate, predicate_mem, rfl⟩ := exists_ofPredicate_of_mem_ofDeclarations edge_mem
  rw [map_id_ofDeclarations_nodes, Declarations.concepts, mem_firstOccurrences_id]
  exact List.mem_flatMap.2 ⟨predicate, predicate_mem, id_mem⟩

end Graph

namespace Map

/-- The map holds its nodes by their ids, and they are all registered, each once. -/
structure Grounded (map : Map) : Prop where
  held : map.HoldsById
  nodup : (map.graph.nodes.map (·.id)).Nodup
  closed : map.graph.Closed
  active : ∀ node ∈ map.view.active, node.id ∈ map.graph.nodes.map (·.id)
  selected : ∀ node ∈ map.view.selected, node.id ∈ map.graph.nodes.map (·.id)

variable {map : Map}

namespace Grounded

theorem mem_of_mem_visibleNodes (grounded : map.Grounded) {id : Text}
    (visible : id ∈ map.visibleNodes.map NodeRef.id) : id ∈ map.graph.nodes.map (·.id) := by
  obtain ⟨near | chosen, -⟩ := mem_map_id_visibleNodes_iff.1 visible
  · obtain ⟨active, centered, rfl | ⟨registered, -⟩⟩ := near
    · exact grounded.active active centered
    · exact registered
  · obtain ⟨node, selected, rfl | step⟩ := chosen
    · exact grounded.selected node selected
    · exact grounded.closed.mem_of_step step

theorem eq_registered_of_mem_visibleNodes (grounded : map.Grounded) {node : NodeRef}
    (visible : node ∈ map.visibleNodes) : node = .registered node.id := by
  rw [← SetOrder.standard_visibleNodes] at visible
  exact (SetOrder.standard map).eq_registered_of_mem_visibleNodes grounded.held visible

end Grounded

/-- The map as it is shown: around a picked concept if nothing is looked at. -/
def focused (map : Map) (index : Int) : Map :=
  if map.view.isEmpty then map.withView fun view => view.setActive (map.pick index) else map

theorem exists_pick (nonempty : map.graph.nodes ≠ []) (index : Int) :
    ∃ node ∈ map.graph.nodes, map.pick index = some (.registered node.id) := by
  have positive : (0 : Int) < map.graph.nodes.length :=
    Int.natCast_pos.2 (List.length_pos_iff.2 nonempty)
  have not_negative := Int.emod_nonneg index positive.ne'
  have below := Int.emod_lt_of_pos index positive
  have inside : (index % map.graph.nodes.length).toNat < map.graph.nodes.length := by omega
  refine ⟨map.graph.nodes[(index % map.graph.nodes.length).toNat], List.getElem_mem inside, ?_⟩
  rw [pick, List.getElem?_eq_getElem inside]
  rfl

theorem Grounded.focused (grounded : map.Grounded) (nonempty : map.graph.nodes ≠ []) (index : Int) :
    (map.focused index).Grounded := by
  rw [Map.focused]
  split
  next =>
    obtain ⟨node, registered, picked⟩ := exists_pick nonempty index
    refine ⟨?_, grounded.nodup, grounded.closed, ?_, grounded.selected⟩
    · rw [picked]
      exact grounded.held.pick picked
    · intro other found
      obtain rfl : NodeRef.registered node.id = other := Option.some.inj (picked.symm.trans found)
      exact List.mem_map_of_mem registered
  next => exact grounded

/-! ## The active concept -/

/-- Only the active concept has no distance to go. -/
theorem distance?_eq_zero_iff {id : Text} : map.distance? id = some 0 ↔ map.isActive id := by
  rw [distance?_eq_some_iff, isActive, Option.any_eq_true]
  simp only [Graph.isDistance_zero_iff, decide_eq_true_eq, Option.mem_def]
  exact exists_congr fun active => and_congr_right fun _ => eq_comm

end Map
end ConceptMap
