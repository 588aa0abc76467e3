import ConceptMap.Proofs.Map.Grounded

/-!
# Neighbourhoods

The neighbours of a concept and the distances from it are found in two ways, one by a look at the
edges, the other by a search.  They agree: with the limit one further, those neighbours become
visible that the visible concepts have.  So a concept that is selected shows what it would show as
the active one with everything next to it.
-/

namespace ConceptMap

/-- Only what lies around a node is looked at, up to a distance. -/
def View.around (view : View) (node : NodeRef) (radius : Nat) : View :=
  { view with active := some node, maxDistance := radius, selected := [] }

/-- Only a node is looked at that is selected, and what is next to it. -/
def View.choosing (view : View) (node : NodeRef) : View :=
  { view with active := none, selected := [node] }

namespace Graph

variable {graph : Graph} {bidirectional : Bool} {start id : Text} {radius : Nat}

theorem exists_walk_le_zero_iff :
    (∃ length ≤ 0, graph.Walk bidirectional start length id) ↔ id = start := by
  simp [walk_zero_iff]

/-- One more step leads from where fewer steps lead to the ids next to that. -/
theorem exists_walk_le_succ_iff :
    (∃ length ≤ radius + 1, graph.Walk bidirectional start length id) ↔
      (∃ length ≤ radius, graph.Walk bidirectional start length id) ∨
        ∃ middle, (∃ length ≤ radius, graph.Walk bidirectional start length middle) ∧
          graph.Step bidirectional middle id := by
  constructor
  · rintro ⟨length, within, walk⟩
    cases walk with
    | stay => exact .inl ⟨0, Nat.zero_le _, .stay⟩
    | step before last => exact .inr ⟨_, ⟨_, Nat.le_of_succ_le_succ within, before⟩, last⟩
  · rintro (⟨length, within, walk⟩ | ⟨middle, ⟨length, within, walk⟩, step⟩)
    · exact ⟨length, by omega, walk⟩
    · exact ⟨length + 1, by omega, walk.step step⟩

theorem exists_walk_le_one_iff :
    (∃ length ≤ 1, graph.Walk bidirectional start length id) ↔
      id = start ∨ graph.Step bidirectional start id := by
  rw [exists_walk_le_succ_iff, exists_walk_le_zero_iff]
  simp only [exists_walk_le_zero_iff, exists_eq_left]

/-- Where a walk of some steps leads there is a distance of no more steps. -/
theorem exists_isDistance_le_iff :
    (∃ distance ≤ radius, graph.IsDistance bidirectional start distance id) ↔
      ∃ length ≤ radius, graph.Walk bidirectional start length id := by
  constructor
  · rintro ⟨distance, within, least⟩
    exact ⟨distance, within, least.1⟩
  · rintro ⟨length, within, walk⟩
    obtain ⟨distance, distance_le, least⟩ := walk.exists_isDistance
    exact ⟨distance, distance_le.trans within, least⟩

theorem Closed.mem_of_walk (closed : graph.Closed) {length : Nat}
    (walk : graph.Walk bidirectional start length id) :
    id = start ∨ id ∈ graph.nodes.map (·.id) := by
  cases walk with
  | stay => exact .inl rfl
  | step _ last => exact .inr (closed.mem_of_step last)

end Graph

namespace Map

variable {map : Map} {node : NodeRef} {id : Text} {radius : Nat}

/-- Near a node are the ids that a walk within the limit leads to. -/
theorem isNear_around_iff (closed : map.graph.Closed) :
    (map.withView (·.around node radius)).IsNear id ↔
      ∃ length ≤ radius, map.graph.Walk map.view.bidirectional node.id length id := by
  have near_iff : (map.withView (·.around node radius)).IsNear id ↔
      id = node.id ∨ id ∈ map.graph.nodes.map (·.id) ∧
        ∃ length ≤ radius, map.graph.Walk map.view.bidirectional node.id length id := by
    rw [← Graph.exists_isDistance_le_iff]
    simp [IsNear, View.around]
  rw [near_iff]
  constructor
  · rintro (rfl | ⟨-, walked⟩)
    · exact ⟨0, Nat.zero_le _, .stay⟩
    · exact walked
  · rintro ⟨length, within, walk⟩
    exact (closed.mem_of_walk walk).imp_right fun registered =>
      ⟨registered, length, within, walk⟩

theorem not_isChosen_around : ¬(map.withView (·.around node radius)).IsChosen id := by
  simp [IsChosen, View.around]

theorem isChosen_choosing_iff :
    (map.withView (·.choosing node)).IsChosen id ↔
      id = node.id ∨ map.graph.Step map.view.bidirectional node.id id := by
  simp [IsChosen, View.choosing]

theorem not_isNear_choosing : ¬(map.withView (·.choosing node)).IsNear id := by
  simp [IsNear, View.choosing]

/-- Around a node those ids are visible that a walk within the limit leads to, as far as they take
part in the relationship of the view. -/
theorem mem_map_id_visibleNodes_around_iff (closed : map.graph.Closed) :
    id ∈ (map.withView (·.around node radius)).visibleNodes.map NodeRef.id ↔
      (∃ length ≤ radius, map.graph.Walk map.view.bidirectional node.id length id) ∧
        map.takesPart id := by
  rw [mem_map_id_visibleNodes_iff, isNear_around_iff closed]
  simp only [not_isChosen_around, or_false]
  rfl

/-- A selected concept shows itself and what is one step away. -/
theorem mem_map_id_visibleNodes_choosing_iff :
    id ∈ (map.withView (·.choosing node)).visibleNodes.map NodeRef.id ↔
      (id = node.id ∨ map.graph.Step map.view.bidirectional node.id id) ∧ map.takesPart id := by
  rw [mem_map_id_visibleNodes_iff, isChosen_choosing_iff]
  simp only [not_isNear_choosing, false_or]
  rfl

theorem takesPart_of_unrestricted (unrestricted : map.view.relationship = none) (id : Text) :
    map.takesPart id := by
  simp [takesPart, unrestricted]

/-- Within no distance a node is alone. -/
theorem visibleNodes_around_zero (closed : map.graph.Closed)
    (unrestricted : map.view.relationship = none) :
    (map.withView (·.around node 0)).visibleNodes.map NodeRef.id = [node.id] := by
  refine List.perm_singleton.1 ((List.perm_ext_iff_of_nodup (nodup_visibleNodes _)
    (List.nodup_singleton _)).2 fun id => ?_)
  rw [mem_map_id_visibleNodes_around_iff closed, Graph.exists_walk_le_zero_iff,
    List.mem_singleton]
  exact and_iff_left (takesPart_of_unrestricted unrestricted id)

/-- With the limit one further, the neighbours of what was visible become visible. -/
theorem visibleNodes_around_succ (closed : map.graph.Closed)
    (unrestricted : map.view.relationship = none) :
    id ∈ (map.withView (·.around node (radius + 1))).visibleNodes.map NodeRef.id ↔
      id ∈ (map.withView (·.around node radius)).visibleNodes.map NodeRef.id ∨
        ∃ visible ∈ (map.withView (·.around node radius)).visibleNodes,
          id ∈ (map.neighbors visible.id).map NodeRef.id := by
  have visible_iff (radius : Nat) (other : Text) :
      other ∈ (map.withView (·.around node radius)).visibleNodes.map NodeRef.id ↔
        ∃ length ≤ radius, map.graph.Walk map.view.bidirectional node.id length other := by
    rw [mem_map_id_visibleNodes_around_iff closed]
    exact and_iff_left (takesPart_of_unrestricted unrestricted other)
  have next_iff : (∃ visible ∈ (map.withView (·.around node radius)).visibleNodes,
        id ∈ (map.neighbors visible.id).map NodeRef.id) ↔
      ∃ middle ∈ (map.withView (·.around node radius)).visibleNodes.map NodeRef.id,
        map.graph.Step map.view.bidirectional middle id := by
    simp only [mem_map_id_neighbors_iff]
    simp only [List.mem_map, exists_exists_and_eq_and]
  rw [next_iff]
  simp only [visible_iff]
  exact Graph.exists_walk_le_succ_iff

/-- A selected concept shows the ids that it shows as the active one with the limit one. -/
theorem visibleNodes_choosing_perm (closed : map.graph.Closed) (node : NodeRef) :
    ((map.withView (·.choosing node)).visibleNodes.map NodeRef.id).Perm
      ((map.withView (·.around node 1)).visibleNodes.map NodeRef.id) := by
  refine (List.perm_ext_iff_of_nodup (nodup_visibleNodes _) (nodup_visibleNodes _)).2 fun id => ?_
  rw [mem_map_id_visibleNodes_choosing_iff, mem_map_id_visibleNodes_around_iff closed,
    Graph.exists_walk_le_one_iff]

theorem visibleEdges_choosing (closed : map.graph.Closed) :
    (map.withView (·.choosing node)).visibleEdges =
      (map.withView (·.around node 1)).visibleEdges := by
  have ids_perm := visibleNodes_choosing_perm closed node
  rw [visibleEdges, visibleEdges]
  refine List.filter_congr fun edge _ => ?_
  rw [ids_perm.contains_eq, ids_perm.contains_eq]
  rfl

/-- Around any node of a map whose edges end in registered nodes, a view without a relationship
begins with the node alone, and grows with its limit by the neighbours of what is visible.  Whatever
the relationship of the view, to select a node alone shows the same ids and the same edges as to
make it the active one with the limit one. -/
theorem grows_by_neighbors (closed : map.graph.Closed) (node : NodeRef) :
    (map.view.relationship = none →
        (map.withView (·.around node 0)).visibleNodes.map NodeRef.id = [node.id] ∧
          ∀ radius id,
            id ∈ (map.withView (·.around node (radius + 1))).visibleNodes.map NodeRef.id ↔
              id ∈ (map.withView (·.around node radius)).visibleNodes.map NodeRef.id ∨
                ∃ visible ∈ (map.withView (·.around node radius)).visibleNodes,
                  id ∈ (map.neighbors visible.id).map NodeRef.id) ∧
      ((map.withView (·.choosing node)).visibleNodes.map NodeRef.id).Perm
          ((map.withView (·.around node 1)).visibleNodes.map NodeRef.id) ∧
        (map.withView (·.choosing node)).visibleEdges =
          (map.withView (·.around node 1)).visibleEdges := by
  refine ⟨fun unrestricted => ⟨?_, fun radius id => ?_⟩, ?_, ?_⟩
  · exact visibleNodes_around_zero closed unrestricted
  · exact visibleNodes_around_succ closed unrestricted
  · exact visibleNodes_choosing_perm closed node
  · exact visibleEdges_choosing closed

/-- One way only, from a concept with a loop and two edges to the same neighbour.  What is shown of
a relationship is the same for the selected concept as for the active one, in another order. -/
theorem grows_by_neighbors_of_loop :
    let map := (Map.ofDeclarations "m"
        { predicates := [⟨"c", "r", "b"⟩, ⟨"b", "s", "b"⟩, ⟨"b", "r", "d"⟩, ⟨"b", "s", "a"⟩,
            ⟨"b", "r", "a"⟩, ⟨"a", "r", "e"⟩] }).after [.setBidirectional false]
    let restricted := map.withView (·.setRelationship (some "r"))
    map.graph.Closed ∧ map.view.relationship = none ∧
      (∀ radius id,
        id ∈ (map.withView (·.around (.registered "b") (radius + 1))).visibleNodes.map NodeRef.id ↔
          id ∈ (map.withView (·.around (.registered "b") radius)).visibleNodes.map NodeRef.id ∨
            ∃ visible ∈ (map.withView (·.around (.registered "b") radius)).visibleNodes,
              id ∈ (map.neighbors visible.id).map NodeRef.id) ∧
      (map.withView (·.around (.registered "b") 1)).visibleNodes =
        [.registered "b", .registered "d", .registered "a"] ∧
      (map.withView (·.around (.registered "b") 2)).visibleNodes =
        [.registered "b", .registered "d", .registered "a", .registered "e"] ∧
      (restricted.withView (·.choosing (.registered "b"))).visibleEdges =
        (restricted.withView (·.around (.registered "b") 1)).visibleEdges := by
  intro map restricted
  have closed : map.graph.Closed := by decide
  have restricted_closed : restricted.graph.Closed := closed
  obtain ⟨grows, -⟩ := grows_by_neighbors closed (.registered "b")
  obtain ⟨-, -, same_edges⟩ := grows_by_neighbors restricted_closed (.registered "b")
  exact ⟨closed, rfl, (grows rfl).2, by decide, by decide, same_edges⟩

end Map
end ConceptMap
