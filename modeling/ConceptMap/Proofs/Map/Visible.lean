import ConceptMap.Map.Operation
import ConceptMap.Map.Visible
import ConceptMap.Proofs.Graph.Distance

/-!
# What is visible

An id is visible when it lies near the active concept, or is selected or one step from a selected
concept, and takes part in the relationship of the view.  Which node object stands for it, and in
what order the ids come, does not matter here, except that the active concept comes first.
-/

namespace ConceptMap
namespace Map

/-- The id is that of the active concept, or is registered and lies within the limit. -/
def IsNear (map : Map) (id : Text) : Prop :=
  ∃ active ∈ map.view.active, id = active.id ∨
    id ∈ map.graph.nodes.map (·.id) ∧ ∃ distance ≤ map.view.maxDistance,
      map.graph.IsDistance map.view.bidirectional active.id distance id

/-- The id is selected, or one step from one that is. -/
def IsChosen (map : Map) (id : Text) : Prop :=
  ∃ node ∈ map.view.selected, id = node.id ∨ map.graph.Step map.view.bidirectional node.id id

/-- If the view is restricted to a relationship, the id is an end of an edge that has it. -/
def IsInvolved (map : Map) (id : Text) : Prop :=
  ∀ label ∈ map.view.relationship, ∃ edge ∈ map.graph.edges,
    edge.relationship = label ∧ (edge.source.id = id ∨ edge.target.id = id)

variable {map : Map} {active : NodeRef} {id : Text} {distance : Nat}

theorem takesPart_iff_isInvolved : map.takesPart id ↔ map.IsInvolved id := by
  rw [takesPart, IsInvolved]
  cases map.view.relationship with
  | none => simp
  | some label => simp [Edge.touches]

theorem distance?_eq_some_iff :
    map.distance? id = some distance ↔
      ∃ active ∈ map.view.active,
        map.graph.IsDistance map.view.bidirectional active.id distance id := by
  rw [distance?, distances]
  cases centered : map.view.active with
  | none => simp
  | some active =>
      rw [← Graph.distance?, Graph.distance?_eq_some_iff]
      simp

theorem distance?_eq_none_iff :
    map.distance? id = none ↔
      ∀ active ∈ map.view.active, ∀ length,
        ¬map.graph.Walk map.view.bidirectional active.id length id := by
  constructor
  · intro infinite active centered length walk
    obtain ⟨distance, -, least⟩ := walk.exists_isDistance
    have found := distance?_eq_some_iff.2 ⟨active, centered, least⟩
    rw [infinite] at found
    cases found
  · intro no_walk
    rw [Option.eq_none_iff_forall_ne_some]
    intro distance found
    obtain ⟨active, centered, least⟩ := distance?_eq_some_iff.1 found
    exact no_walk active centered distance least.1

theorem mem_map_id_aroundActive_iff :
    id ∈ map.aroundActive.map NodeRef.id ↔ map.IsNear id := by
  have near_iff (other : Text) :
      (map.distances.lookup other).any (· ≤ map.view.maxDistance) = true ↔
        ∃ distance ≤ map.view.maxDistance, map.distance? other = some distance := by
    rw [Option.any_eq_true]
    simp [distance?, and_comm]
  simp only [distance?_eq_some_iff] at near_iff
  rw [aroundActive, IsNear]
  cases centered : map.view.active with
  | none => simp
  | some active =>
      simp only [centered, Option.mem_some_iff, exists_eq_left'] at near_iff ⊢
      rw [List.map_cons, List.mem_cons, List.map_map]
      simp only [List.mem_map, List.mem_filter, near_iff]
      apply or_congr_right
      constructor
      · rintro ⟨node, ⟨registered, near⟩, rfl⟩
        exact ⟨⟨node, registered, rfl⟩, near⟩
      · rintro ⟨⟨node, registered, rfl⟩, near⟩
        exact ⟨node, ⟨registered, near⟩, rfl⟩

theorem mem_map_id_neighbors_iff {start : Text} :
    id ∈ (map.neighbors start).map NodeRef.id ↔
      map.graph.Step map.view.bidirectional start id := by
  rw [neighbors, Graph.neighbors, mem_map_firstOccurrences, ← Graph.mem_successors]
  rfl

theorem mem_map_id_aroundSelection_iff :
    id ∈ map.aroundSelection.map NodeRef.id ↔ map.IsChosen id := by
  simp only [aroundSelection, IsChosen, List.map_flatMap, List.mem_flatMap, List.map_cons,
    List.mem_cons, mem_map_id_neighbors_iff]

theorem mem_map_id_visibleNodes_iff :
    id ∈ map.visibleNodes.map NodeRef.id ↔
      (map.IsNear id ∨ map.IsChosen id) ∧ map.takesPart id := by
  have filter_eq : map.visibleNodes.map NodeRef.id =
      ((firstOccurrences NodeRef.id (map.aroundActive ++ map.aroundSelection)).map
        NodeRef.id).filter fun id => map.takesPart id := by
    rw [visibleNodes, List.filter_map]
    rfl
  rw [filter_eq, List.mem_filter, mem_map_firstOccurrences, List.map_append, List.mem_append,
    mem_map_id_aroundActive_iff, mem_map_id_aroundSelection_iff]

theorem head?_visibleNodes (centered : map.view.active = some active)
    (part : map.takesPart active.id) : map.visibleNodes.head? = some active := by
  have around_eq : ∃ rest, map.aroundActive ++ map.aroundSelection = active :: rest := by
    rw [aroundActive, centered]
    exact ⟨_, rfl⟩
  obtain ⟨rest, around_eq⟩ := around_eq
  rw [visibleNodes, around_eq, firstOccurrences, List.filter_cons, if_pos part, List.head?_cons]

/-- The visible ids are those that are near or chosen and take part in the relationship of the view,
each once, and the active concept comes first among them. -/
theorem visibleNodes_exact (map : Map) :
    (map.visibleNodes.map NodeRef.id).Nodup ∧
      (∀ id, id ∈ map.visibleNodes.map NodeRef.id ↔
        (map.IsNear id ∨ map.IsChosen id) ∧ map.IsInvolved id) ∧
      ∀ active ∈ map.view.active, active.id ∈ map.visibleNodes.map NodeRef.id →
        map.visibleNodes.head? = some active := by
  refine ⟨map.nodup_visibleNodes, fun id => ?_, fun active centered visible => ?_⟩
  · rw [mem_map_id_visibleNodes_iff, takesPart_iff_isInvolved]
  · exact head?_visibleNodes centered (mem_map_id_visibleNodes_iff.1 visible).2

/-- The active concept and the selected one are nodes of the caller's own.  The selected one leads
to a node that is not registered, and to one that has no part in the relationship. -/
theorem visibleNodes_exact_of_detached :
    let map := (Map.ofDeclarations "m"
        { predicates :=
            [⟨"a", "r", "b"⟩, ⟨"b", "s", "c"⟩, ⟨"d", "r", "c"⟩, ⟨"c", "s", "e"⟩] }).after
      [.addEdge (some (.id "c")) (some (.own ⟨"z", none⟩)) "r",
        .setActive (some (.own ⟨"a", some "x"⟩)), .select (.own ⟨"c", none⟩),
        .setMaxDistance 1, .setRelationship (some "r")]
    map.visibleNodes = [.detached ⟨"a", some "x"⟩, .registered "b", .detached ⟨"c", none⟩,
        .registered "d", .detached ⟨"z", none⟩] ∧
      ∀ id, id ∈ (["a", "b", "c", "d", "z"] : List Text) ↔
        (map.IsNear id ∨ map.IsChosen id) ∧ map.IsInvolved id := by
  intro map
  have nodes_eq : map.visibleNodes = [.detached ⟨"a", some "x"⟩, .registered "b",
      .detached ⟨"c", none⟩, .registered "d", .detached ⟨"z", none⟩] := by decide
  have visible_iff := (visibleNodes_exact map).2.1
  rw [nodes_eq] at visible_iff
  exact ⟨nodes_eq, visible_iff⟩

theorem mem_visibleEdges_iff {edge : Edge} :
    edge ∈ map.visibleEdges ↔
      edge ∈ map.graph.edges ∧ edge.source.id ∈ map.visibleNodes.map NodeRef.id ∧
        edge.target.id ∈ map.visibleNodes.map NodeRef.id ∧ map.showsLabel edge := by
  rw [visibleEdges, List.mem_filter, Bool.and_eq_true, Bool.and_eq_true, List.contains_iff_mem,
    List.contains_iff_mem, and_assoc]

end Map
end ConceptMap
