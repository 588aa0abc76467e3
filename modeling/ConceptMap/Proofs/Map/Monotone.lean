import ConceptMap.Map.Operation
import ConceptMap.Proofs.Graph.Store
import ConceptMap.Proofs.Map.Selection
import ConceptMap.Proofs.Map.Visible

/-!
# Views that only grow

Looking further, in both directions or at more concepts, lifting the restriction to a relationship,
and registering nodes and new edges hide nothing that was visible and move nothing away.  All these
changes are alike in that one map is contained in the other.
-/

namespace ConceptMap
namespace Map

/-- What is visible stays visible, and nothing is further away than before. -/
structure Grows (map next : Map) : Prop where
  nodes : map.visibleNodes.map NodeRef.id ⊆ next.visibleNodes.map NodeRef.id
  edges : map.visibleEdges.map Edge.id ⊆ next.visibleEdges.map Edge.id
  distances : ∀ id distance, map.distance? id = some distance →
    ∃ nearer ≤ distance, next.distance? id = some nearer

/-- One map has no more than another one and is looked at from the same place, but less widely. -/
structure Within (map next : Map) : Prop where
  active : next.view.active = map.view.active
  maxDistance : map.view.maxDistance ≤ next.view.maxDistance
  bidirectional : map.view.bidirectional = true → next.view.bidirectional = true
  relationship : next.view.relationship = none ∨ next.view.relationship = map.view.relationship
  selected : map.view.selected.map NodeRef.id ⊆ next.view.selected.map NodeRef.id
  nodes : map.graph.nodes.map (·.id) ⊆ next.graph.nodes.map (·.id)
  edges : map.graph.edges ⊆ next.graph.edges

variable {map next : Map}

namespace Within

theorem refl (map : Map) : map.Within map where
  active := rfl
  maxDistance := le_rfl
  bidirectional := id
  relationship := .inr rfl
  selected := List.Subset.refl _
  nodes := List.Subset.refl _
  edges := List.Subset.refl _

variable (within : map.Within next) {id : Text} {distance : Nat}
include within

theorem step {before after : Text} (step : map.graph.Step map.view.bidirectional before after) :
    next.graph.Step next.view.bidirectional before after := by
  obtain ⟨edge, edge_mem, forwards | ⟨both, backwards⟩⟩ := step
  · exact ⟨edge, within.edges edge_mem, .inl forwards⟩
  · exact ⟨edge, within.edges edge_mem, .inr ⟨within.bidirectional both, backwards⟩⟩

theorem isDistance {start : Text}
    (least : map.graph.IsDistance map.view.bidirectional start distance id) :
    ∃ nearer ≤ distance, next.graph.IsDistance next.view.bidirectional start nearer id := by
  have walk := least.1
  exact (walk.mono fun _ _ => within.step).exists_isDistance

theorem distance? (found : map.distance? id = some distance) :
    ∃ nearer ≤ distance, next.distance? id = some nearer := by
  obtain ⟨active, centered, least⟩ := distance?_eq_some_iff.1 found
  obtain ⟨nearer, nearer_le, nearer_least⟩ := within.isDistance least
  exact ⟨nearer, nearer_le,
    distance?_eq_some_iff.2 ⟨active, within.active ▸ centered, nearer_least⟩⟩

theorem isNear (near : map.IsNear id) : next.IsNear id := by
  obtain ⟨active, centered, here | ⟨registered, distance, limited, least⟩⟩ := near
  · exact ⟨active, within.active ▸ centered, .inl here⟩
  · obtain ⟨nearer, nearer_le, nearer_least⟩ := within.isDistance least
    have nearer_limited := (nearer_le.trans limited).trans within.maxDistance
    exact ⟨active, within.active ▸ centered,
      .inr ⟨within.nodes registered, nearer, nearer_limited, nearer_least⟩⟩

theorem isChosen (chosen : map.IsChosen id) : next.IsChosen id := by
  obtain ⟨node, selected, here⟩ := chosen
  -- the other selection has the id, though perhaps as another node
  obtain ⟨other, other_selected, same⟩ :=
    List.mem_map.1 (within.selected (List.mem_map_of_mem selected))
  refine ⟨other, other_selected, ?_⟩
  rw [same]
  exact here.imp_right within.step

theorem showsLabel {edge : Edge} (shown : map.showsLabel edge) : next.showsLabel edge := by
  rcases within.relationship with open_view | same
  · simp [Map.showsLabel, open_view]
  · rw [Map.showsLabel, same]
    exact shown

theorem takesPart (part : map.takesPart id) : next.takesPart id := by
  rcases within.relationship with open_view | same
  · simp [Map.takesPart, open_view]
  · rw [Map.takesPart, same]
    cases restricted : map.view.relationship with
    | none => rfl
    | some label =>
        rw [Map.takesPart, restricted] at part
        obtain ⟨edge, edge_mem, relates⟩ := List.any_eq_true.1 part
        exact List.any_eq_true.2 ⟨edge, within.edges edge_mem, relates⟩

theorem visibleNodes (visible : id ∈ map.visibleNodes.map NodeRef.id) :
    id ∈ next.visibleNodes.map NodeRef.id := by
  obtain ⟨seen, part⟩ := mem_map_id_visibleNodes_iff.1 visible
  refine mem_map_id_visibleNodes_iff.2 ⟨?_, within.takesPart part⟩
  exact seen.imp within.isNear within.isChosen

theorem visibleEdges {edge : Edge} (visible : edge ∈ map.visibleEdges) :
    edge ∈ next.visibleEdges := by
  obtain ⟨edge_mem, source, target, shown⟩ := mem_visibleEdges_iff.1 visible
  exact mem_visibleEdges_iff.2 ⟨within.edges edge_mem, within.visibleNodes source,
    within.visibleNodes target, within.showsLabel shown⟩

theorem grows : map.Grows next where
  nodes _ visible := within.visibleNodes visible
  edges := List.map_subset _ fun _ visible => within.visibleEdges visible
  distances _ _ found := within.distance? found

end Within

/-! ## Operations -/

/-- The operation shows more of the map, or registers what it does not have yet. -/
inductive Widens (map : Map) : Operation → Prop where
  /-- The limit is not lowered. -/
  | setMaxDistance {distance : Int} (further : map.view.maxDistance ≤ distance) :
      Widens map (.setMaxDistance distance)
  /-- Direction does not count any more. -/
  | setBidirectional : Widens map (.setBidirectional true)
  /-- One more node is selected. -/
  | select (node : NodeName) : Widens map (.select node)
  /-- A node is registered, or defined. -/
  | addNode (id : Text) (definition : Option Text) : Widens map (.addNode id definition)
  /-- An edge is registered under an id that is not taken. -/
  | addEdge {source target : Option NodeName} {relationship : Text} {edge : Edge}
      (made : map.edgeOf source target relationship = .ok edge)
      (free : edge.id ∉ map.graph.edges.map Edge.id) :
      Widens map (.addEdge source target relationship)
  /-- The restriction to a relationship is lifted. -/
  | setRelationship {relationship : Option Text} (nothing : ∀ label ∈ relationship, label = []) :
      Widens map (.setRelationship relationship)

theorem within_addNode (id : Text) (definition : Option Text) :
    map.Within (map.addNode id definition) := by
  have nodes : map.graph.nodes.map (·.id) ⊆ (map.graph.addNode id definition).nodes.map (·.id) := by
    rw [Graph.map_id_addNode]
    split
    next => exact List.Subset.refl _
    next => exact List.subset_append_left _ _
  have edges : map.graph.edges ⊆ (map.graph.addNode id definition).edges := by simp
  exact { Within.refl map with nodes, edges }

theorem within_addEdge {edge : Edge} (free : edge.id ∉ map.graph.edges.map Edge.id) :
    map.Within (map.addEdge edge) := by
  have nodes : map.graph.nodes.map (·.id) ⊆ (map.graph.addEdge edge).nodes.map (·.id) := by simp
  have edges : map.graph.edges ⊆ (map.graph.addEdge edge).edges := by
    rw [Graph.addEdge_of_not_mem free]
    exact List.subset_append_left _ _
  exact { Within.refl map with nodes, edges }

theorem within_select (node : NodeRef) : map.Within (map.withView (·.select node)) :=
  { Within.refl map with
    selected := fun _ selected => mem_map_id_insertById.2 (.inr selected) }

theorem within_setRelationship {relationship : Option Text}
    (nothing : ∀ label ∈ relationship, label = []) :
    map.Within (map.withView (·.setRelationship relationship)) := by
  have lifted : (relationship.filter fun label => !label.isEmpty) = none := by
    rw [Option.filter_eq_none_iff]
    intro label found
    simp [nothing label found]
  exact { Within.refl map with relationship := .inl lifted }

/-- What widens a view goes through, and the map contains what it was. -/
theorem Widens.within {operation : Operation} (widens : map.Widens operation) :
    ∃ next, map.perform operation = .ok next ∧ map.Within next := by
  cases widens with
  | @setMaxDistance distance further =>
      have maxDistance : map.view.maxDistance ≤ distance.toNat := by omega
      exact ⟨_, rfl, { Within.refl map with maxDistance }⟩
  | setBidirectional =>
      exact ⟨_, rfl, { Within.refl map with bidirectional := fun _ => rfl }⟩
  | select node => exact ⟨_, rfl, within_select (map.refer node)⟩
  | addNode id definition => exact ⟨_, rfl, within_addNode id definition⟩
  | addEdge made free =>
      refine ⟨_, ?_, within_addEdge free⟩
      rw [perform, made]
      rfl
  | setRelationship nothing => exact ⟨_, rfl, within_setRelationship nothing⟩

/-- What widens a view hides nothing and moves nothing away. -/
theorem grows_perform {operation : Operation} (widens : map.Widens operation) :
    ∃ next, map.perform operation = .ok next ∧ map.Grows next := by
  obtain ⟨next, done, within⟩ := widens.within
  exact ⟨next, done, within.grows⟩

/-- A new edge is a short cut to a concept that was out of sight. -/
theorem grows_perform_of_shortcut :
    let edge (source target : Text) : Edge := ⟨.registered source, "r", .registered target⟩
    let map : Map :=
      { name := "m"
        graph :=
          { nodes := [⟨"a", none⟩, ⟨"b", none⟩, ⟨"c", none⟩]
            edges := [edge "a" "b", edge "b" "c"] }
        view :=
          { active := some (.registered "a"), maxDistance := 1, bidirectional := false
            relationship := some "r", selected := [.detached ⟨"z", none⟩] } }
    let operation : Operation := .addEdge (some (.id "a")) (some (.id "c")) "r"
    map.Widens operation ∧ (∃ next, map.perform operation = .ok next ∧ map.Grows next) ∧
      map.distance? "c" = some 2 ∧ (map.addEdge (edge "a" "c")).distance? "c" = some 1 := by
  intro edge map operation
  have widens : map.Widens operation :=
    .addEdge (show map.edgeOf _ _ _ = .ok (edge "a" "c") from rfl) (by decide)
  exact ⟨widens, grows_perform widens, by decide, by decide⟩

/-- An edge under a taken id hides what the replaced edge led to. -/
example :
    let map : Map :=
      { name := "m"
        graph :=
          { nodes := [⟨"a-", none⟩, ⟨"b", none⟩]
            edges := [⟨.registered "a-", "r", .registered "b"⟩] }
        view := { active := some (.registered "a-") } }
    let next := map.addEdge ⟨.detached ⟨"a", none⟩, "-r", .registered "b"⟩
    map.visibleNodes.map NodeRef.id = ["a-", "b"] ∧ next.visibleNodes.map NodeRef.id = ["a-"] := by
  decide

end Map
end ConceptMap
