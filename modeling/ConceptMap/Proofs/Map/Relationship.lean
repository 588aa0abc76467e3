import ConceptMap.Map.Operation
import ConceptMap.Proofs.Map.Restricted
import Mathlib.Logic.ExistsUnique

/-!
# One relationship at a time

A view restricted to a relationship shows, of what the unrestricted view shows, all that the
relationship is about.  The ends of an edge take part in its relationship, so that no edge is lost
along with one of its ends, and the restricted views divide the visible edges among them.
-/

namespace ConceptMap
namespace Map

/-- The map under the view that is restricted to a relationship, or not restricted. -/
def restrictedTo (map : Map) (relationship : Option Text) : Map :=
  map.withView (·.setRelationship relationship)

variable {map : Map} {label : Text} {edge : Edge}

theorem restrictedTo_view_relationship (map : Map) (nonempty : label ≠ []) :
    (map.restrictedTo (some label)).view.relationship = some label := by
  simp [restrictedTo, View.setRelationship, nonempty]

theorem visibleNodes_restrictedTo_none (map : Map) :
    (map.restrictedTo none).visibleNodes =
      firstOccurrences NodeRef.id (map.aroundActive ++ map.aroundSelection) :=
  List.filter_eq_self.2 fun _ _ => rfl

theorem visibleNodes_restrictedTo (nonempty : label ≠ []) :
    (map.restrictedTo (some label)).visibleNodes =
      (map.restrictedTo none).visibleNodes.filter fun node => map.graph.Relates label node.id := by
  have restricted := restrictedTo_view_relationship map nonempty
  rw [visibleNodes_restrictedTo_none, visibleNodes]
  refine List.filter_congr fun node _ => ?_
  rw [Bool.eq_iff_iff, takesPart_iff restricted, decide_eq_true_iff]
  rfl

theorem mem_map_id_visibleNodes_restrictedTo_iff (nonempty : label ≠ []) {id : Text} :
    id ∈ (map.restrictedTo (some label)).visibleNodes.map NodeRef.id ↔
      id ∈ (map.restrictedTo none).visibleNodes.map NodeRef.id ∧ map.graph.Relates label id := by
  rw [visibleNodes_restrictedTo nonempty]
  constructor
  · rintro found
    obtain ⟨node, kept, rfl⟩ := List.mem_map.1 found
    obtain ⟨visible, relates⟩ := List.mem_filter.1 kept
    exact ⟨List.mem_map_of_mem visible, of_decide_eq_true relates⟩
  · rintro ⟨found, relates⟩
    obtain ⟨node, visible, rfl⟩ := List.mem_map.1 found
    exact List.mem_map_of_mem (List.mem_filter.2 ⟨visible, decide_eq_true relates⟩)

/-- The ends of an edge take part in its relationship, so that they are visible if they would be
without the restriction. -/
theorem visibleEdges_restrictedTo (nonempty : label ≠ []) :
    (map.restrictedTo (some label)).visibleEdges =
      (map.restrictedTo none).visibleEdges.filter fun edge => edge.relationship = label := by
  have restricted := restrictedTo_view_relationship map nonempty
  rw [visibleEdges, visibleEdges, List.filter_filter]
  refine List.filter_congr fun edge edge_mem => ?_
  have source_relates (same : edge.relationship = label) :
      map.graph.Relates label edge.source.id := ⟨edge, edge_mem, same, by simp [Edge.touches]⟩
  have target_relates (same : edge.relationship = label) :
      map.graph.Relates label edge.target.id := ⟨edge, edge_mem, same, by simp [Edge.touches]⟩
  have shows_iff : (map.restrictedTo (some label)).showsLabel edge ↔ edge.relationship = label := by
    simp [showsLabel, restricted]
  have shows_any : (map.restrictedTo none).showsLabel edge := rfl
  rw [Bool.eq_iff_iff]
  simp only [Bool.and_eq_true, List.contains_iff_mem, decide_eq_true_iff, shows_iff, shows_any,
    mem_map_id_visibleNodes_restrictedTo_iff nonempty]
  constructor
  · rintro ⟨⟨⟨source, -⟩, target, -⟩, same⟩
    exact ⟨same, ⟨source, target⟩, trivial⟩
  · rintro ⟨same, ⟨source, target⟩, -⟩
    exact ⟨⟨⟨source, source_relates same⟩, target, target_relates same⟩, same⟩

theorem mem_visibleEdges_restrictedTo_iff (nonempty : label ≠ []) :
    edge ∈ (map.restrictedTo (some label)).visibleEdges ↔
      edge ∈ (map.restrictedTo none).visibleEdges ∧ edge.relationship = label := by
  rw [visibleEdges_restrictedTo nonempty, List.mem_filter, decide_eq_true_iff]

/-- An empty label restricts nothing, and any other one takes edges away. -/
theorem visibleEdges_restrictedTo_subset (map : Map) (label : Text) :
    (map.restrictedTo (some label)).visibleEdges ⊆ (map.restrictedTo none).visibleEdges := by
  cases label with
  | nil => exact List.Subset.refl _
  | cons => exact fun _ visible => ((mem_visibleEdges_restrictedTo_iff (by simp)).1 visible).1

theorem existsUnique_relationship
    (labelled : ∀ edge ∈ map.graph.edges, edge.relationship ≠ [])
    (visible : edge ∈ (map.restrictedTo none).visibleEdges) :
    ∃! label, label ∈ map.graph.relationships ∧
      edge ∈ (map.restrictedTo (some label)).visibleEdges := by
  have edge_mem : edge ∈ map.graph.edges := visibleEdges_subset (map.restrictedTo none) visible
  have relationships_iff (label : Text) :
      label ∈ map.graph.relationships ↔ ∃ edge ∈ map.graph.edges, edge.relationship = label := by
    rw [Graph.relationships, mem_firstOccurrences_id, List.mem_map]
  refine ⟨edge.relationship, ⟨(relationships_iff _).2 ⟨edge, edge_mem, rfl⟩, ?_⟩, ?_⟩
  · exact (mem_visibleEdges_restrictedTo_iff (labelled edge edge_mem)).2 ⟨visible, rfl⟩
  · rintro label ⟨listed, restricted⟩
    obtain ⟨other, other_mem, rfl⟩ := (relationships_iff label).1 listed
    exact ((mem_visibleEdges_restrictedTo_iff (labelled other other_mem)).1 restricted).2.symm

/-- Restricting a view to a relationship keeps just the edges that have it and the nodes that take
part in it.  So if no edge has the empty label, every edge that is visible without a restriction is
visible under one of the relationships of the map, and under no other one. -/
theorem restrictedTo_divides (map : Map) :
    (∀ label ≠ [],
      (map.restrictedTo (some label)).visibleEdges =
          (map.restrictedTo none).visibleEdges.filter (fun edge => edge.relationship = label) ∧
        (map.restrictedTo (some label)).visibleNodes =
          (map.restrictedTo none).visibleNodes.filter fun node =>
            map.graph.Relates label node.id) ∧
      (∀ label,
        (map.restrictedTo (some label)).visibleEdges ⊆ (map.restrictedTo none).visibleEdges) ∧
      ((∀ edge ∈ map.graph.edges, edge.relationship ≠ []) →
        ∀ edge ∈ (map.restrictedTo none).visibleEdges,
          ∃! label, label ∈ map.graph.relationships ∧
            edge ∈ (map.restrictedTo (some label)).visibleEdges) := by
  refine ⟨fun label nonempty => ?_, visibleEdges_restrictedTo_subset map, ?_⟩
  · exact ⟨visibleEdges_restrictedTo nonempty, visibleNodes_restrictedTo nonempty⟩
  · exact fun labelled edge visible => existsUnique_relationship labelled visible

/-- Of two edges that lead the same way each is visible under its own relationship.  A neighbour of
the selected concept that is not registered stays visible under the one that leads there. -/
theorem restrictedTo_divides_of_parallel :
    let map := (Map.ofDeclarations "m"
        { predicates := [⟨"a", "r", "b"⟩, ⟨"a", "s", "b"⟩, ⟨"b", "s", "c"⟩] }).after
      [.addEdge (some (.id "c")) (some (.own ⟨"z", none⟩)) "r", .setActive (some (.id "a")),
        .setMaxDistance 1, .select (.own ⟨"c", none⟩)]
    let edge : Edge := ⟨.registered "a", "s", .registered "b"⟩
    (map.restrictedTo (some "r")).visibleNodes =
        [.registered "a", .registered "b", .detached ⟨"c", none⟩, .detached ⟨"z", none⟩] ∧
      (map.restrictedTo (some "s")).visibleNodes =
        [.registered "a", .registered "b", .detached ⟨"c", none⟩] ∧
      ∃! label, label ∈ map.graph.relationships ∧
        edge ∈ (map.restrictedTo (some label)).visibleEdges := by
  intro map edge
  obtain ⟨-, -, divides⟩ := restrictedTo_divides map
  exact ⟨by decide, by decide, divides (by decide) edge (by decide)⟩

end Map
end ConceptMap
