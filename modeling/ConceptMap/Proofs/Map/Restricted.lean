import ConceptMap.Export.Payload
import ConceptMap.Proofs.Map.Request

/-!
# Views restricted to a relationship

A restricted view hides every edge with another label, and every node that takes no part in the
relationship, as long as some concept is active or selected.  Otherwise the view is empty; then an
export covers the whole map, and the restriction has no effect.
-/

namespace ConceptMap
namespace Graph

/-- An edge with the label starts from the id or leads to it. -/
def Relates (graph : Graph) (label id : Text) : Prop :=
  ∃ edge ∈ graph.edges, edge.relationship = label ∧ edge.touches id

/-- The label is the only one: every edge has it, and every node is an end of an edge. -/
structure HasOnly (graph : Graph) (label : Text) : Prop where
  edges : ∀ edge ∈ graph.edges, edge.relationship = label
  nodes : ∀ node ∈ graph.nodes, graph.Relates label node.id

instance (graph : Graph) (label id : Text) : Decidable (graph.Relates label id) :=
  inferInstanceAs (Decidable (∃ edge ∈ graph.edges, edge.relationship = label ∧ edge.touches id))

end Graph

namespace Map

/-- What an export covers is about one relationship: its edges have the label, and each of its nodes
is an end of an edge of the map that has it.  The same holds of what the payload says of them. -/
structure ShowsOnly (map : Map) (label : Text) : Prop where
  /-- The edges have the label. -/
  edges : ∀ edge ∈ map.shownEdges, edge.relationship = label
  /-- The nodes take part in the relationship. -/
  nodes : ∀ node ∈ map.shownNodes, map.graph.Relates label node.id
  /-- The links of the payload have the label. -/
  links : ∀ link ∈ map.payload.links, link.label = label
  /-- The nodes of the payload take part in the relationship. -/
  entries : ∀ entry ∈ map.payload.nodes, map.graph.Relates label entry.id

variable {map : Map} {label : Text}

/-- The payload holds what is shown, and nothing else. -/
theorem showsOnly_of_shown (edges : ∀ edge ∈ map.shownEdges, edge.relationship = label)
    (nodes : ∀ node ∈ map.shownNodes, map.graph.Relates label node.id) : map.ShowsOnly label where
  edges := edges
  nodes := nodes
  links := by
    intro link found
    obtain ⟨edge, shown, rfl⟩ := List.mem_map.1 found
    exact edges edge shown
  entries := by
    intro entry found
    obtain ⟨node, shown, rfl⟩ := List.mem_map.1 found
    exact nodes node shown

instance (map : Map) (label : Text) : Decidable (map.ShowsOnly label) :=
  decidable_of_iff
    ((∀ edge ∈ map.shownEdges, edge.relationship = label) ∧
      ∀ node ∈ map.shownNodes, map.graph.Relates label node.id)
    ⟨fun only => showsOnly_of_shown only.1 only.2, fun only => ⟨only.edges, only.nodes⟩⟩

theorem takesPart_iff (restricted : map.view.relationship = some label) (id : Text) :
    map.takesPart id ↔ map.graph.Relates label id := by
  simp [takesPart, restricted, Graph.Relates]

theorem relates_of_mem_visibleNodes (restricted : map.view.relationship = some label)
    {node : NodeRef} (visible : node ∈ map.visibleNodes) : map.graph.Relates label node.id := by
  obtain ⟨-, part⟩ := List.mem_filter.1 visible
  exact (takesPart_iff restricted node.id).1 part

theorem relationship_of_mem_visibleEdges (restricted : map.view.relationship = some label)
    {edge : Edge} (visible : edge ∈ map.visibleEdges) : edge.relationship = label := by
  obtain ⟨-, shown⟩ := List.mem_filter.1 visible
  have passes : map.showsLabel edge := (Bool.and_eq_true_iff.1 shown).2
  simpa [showsLabel, restricted] using passes

/-- A restricted view in which something is active or selected shows one relationship only. -/
theorem showsOnly_of_focused (restricted : map.view.relationship = some label)
    (focused : ¬map.view.isEmpty) : map.ShowsOnly label := by
  apply showsOnly_of_shown
  · intro edge shown
    rw [shownEdges, if_neg focused] at shown
    exact relationship_of_mem_visibleEdges restricted shown
  · intro node shown
    rw [shownNodes, if_neg focused] at shown
    exact relates_of_mem_visibleNodes restricted shown

/-- Under an empty view everything is covered, whatever the view is restricted to. -/
theorem showsOnly_iff_hasOnly (empty : map.view.isEmpty) :
    map.ShowsOnly label ↔ map.graph.HasOnly label := by
  have edges_eq : map.shownEdges = map.graph.edges := by
    rw [shownEdges, if_pos empty]
  have nodes_eq : map.shownNodes = map.graph.nodes.map fun node => .registered node.id := by
    rw [shownNodes, if_pos empty]
  constructor
  · intro only
    have edges := only.edges
    have nodes := only.nodes
    rw [edges_eq] at edges
    rw [nodes_eq, List.forall_mem_map] at nodes
    exact ⟨edges, nodes⟩
  · rintro ⟨edges, nodes⟩
    apply showsOnly_of_shown
    · rw [edges_eq]
      exact edges
    · rw [nodes_eq, List.forall_mem_map]
      exact nodes

theorem showsOnly_iff (restricted : map.view.relationship = some label) :
    map.ShowsOnly label ↔ ¬map.view.isEmpty ∨ map.graph.HasOnly label := by
  by_cases empty : map.view.isEmpty = true
  · rw [showsOnly_iff_hasOnly empty]
    simp [empty]
  · have shows_only := showsOnly_of_focused restricted empty
    simp [empty, shows_only]

/-- A map that is asked for one relationship shows nothing else exactly when a concept is named,
too, or the map has nothing else. -/
theorem showsOnly_withView_change_iff {request : ViewRequest} (fresh : map.view = {})
    (restricted : request.relationship = some label) (nonempty : label ≠ [])
    (preferences : ViewPreferences) :
    (map.withView (request.change preferences)).ShowsOnly label ↔
      request.active ≠ none ∨ request.select ≠ [] ∨ map.graph.HasOnly label := by
  have label_eq : (map.withView (request.change preferences)).view.relationship = some label :=
    ViewRequest.change_relationship restricted nonempty map.view
  have empty_iff : (map.withView (request.change preferences)).view.isEmpty ↔
      request.active = none ∧ request.select = [] := by
    rw [withView_view, fresh]
    exact ViewRequest.change_isEmpty_iff
  rw [showsOnly_iff label_eq, empty_iff, withView_graph,
    Classical.not_and_iff_not_or_not, or_assoc]

end Map
end ConceptMap
