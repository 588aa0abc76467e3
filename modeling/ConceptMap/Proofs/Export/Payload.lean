import ConceptMap.Proofs.Map.Grounded
import ConceptMap.Proofs.Map.Reachable

/-!
# Payloads are graphs of their own

Whoever draws a payload needs nothing but the payload: no id occurs in it twice, and its links join
nodes that it lists.  What an entry says of its node can be told from the graph and the view of the
map, and a node that is not near the active concept is listed for the sake of the selection only.
-/

namespace ConceptMap

/-- Nothing is listed twice, and the links join nodes that are listed. -/
structure Payload.IsGraph (payload : Payload) : Prop where
  nodes_distinct : (payload.nodes.map (·.id)).Nodup
  links_distinct : (payload.links.map (·.id)).Nodup
  closed : ∀ link ∈ payload.links,
    link.source ∈ payload.nodes.map (·.id) ∧ link.target ∈ payload.nodes.map (·.id)

/-- The entry says of its node what the graph and the view of a map say. -/
structure NodeEntry.Annotates (entry : NodeEntry) (map : Map) : Prop where
  /-- The distance is the least length of a walk from the active concept. -/
  distance : ∀ distance, entry.distance = some distance ↔
    ∃ active ∈ map.view.active,
      map.graph.IsDistance map.view.bidirectional active.id distance entry.id
  /-- There is no distance if there is no active concept, or no walk. -/
  infinite : entry.distance = none ↔
    ∀ active ∈ map.view.active, ∀ length,
      ¬map.graph.Walk map.view.bidirectional active.id length entry.id
  /-- Only the active concept has no distance to go. -/
  start : entry.distance = some 0 ↔ entry.active
  active : entry.active ↔ ∃ active ∈ map.view.active, active.id = entry.id
  selected : entry.selected ↔ ∃ node ∈ map.view.selected, node.id = entry.id
  /-- Around an active concept the limit is exceeded for the sake of the selection only. -/
  near : map.view.active ≠ none → entry.selected = false →
    (∀ node ∈ map.view.selected, ¬map.graph.Step map.view.bidirectional node.id entry.id) →
      ∃ distance ≤ map.view.maxDistance, entry.distance = some distance

/-- The payload is a graph whose entries say of their nodes what a map says. -/
structure Payload.Describes (payload : Payload) (map : Map) : Prop where
  graph : payload.IsGraph
  entries : ∀ entry ∈ payload.nodes, entry.Annotates map
  one_active : (payload.nodes.filter (·.active)).length ≤ 1

namespace Map

variable {map : Map} {entry : NodeEntry} {id : Text}

theorem isActive_iff : map.isActive id ↔ ∃ active ∈ map.view.active, active.id = id := by
  simp [isActive, Option.any_eq_true]

theorem isSelected_iff : map.isSelected id ↔ ∃ node ∈ map.view.selected, node.id = id := by
  simp [isSelected]

theorem exists_distance?_of_isNear (near : map.IsNear id) :
    ∃ distance ≤ map.view.maxDistance, map.distance? id = some distance := by
  obtain ⟨active, centered, rfl | ⟨-, distance, limited, least⟩⟩ := near
  · exact ⟨0, Nat.zero_le _, distance?_eq_zero_iff.2 (isActive_iff.2 ⟨active, centered, rfl⟩)⟩
  · exact ⟨distance, limited, distance?_eq_some_iff.2 ⟨active, centered, least⟩⟩

/-! ## What is shown -/

theorem nodup_shownNodes (keyed : map.graph.Keyed) : (map.shownNodes.map NodeRef.id).Nodup := by
  rw [shownNodes]
  split
  next =>
    rw [List.map_map]
    exact keyed.nodes
  next => exact map.nodup_visibleNodes

theorem shownEdges_sublist (map : Map) : map.shownEdges.Sublist map.graph.edges := by
  rw [shownEdges]
  split
  next => exact .refl _
  next => exact List.filter_sublist

/-- The ends of what is shown are shown, in the whole map as in a view of it. -/
theorem ends_mem_shownNodes (closed : map.graph.Closed) {edge : Edge}
    (shown : edge ∈ map.shownEdges) :
    edge.source.id ∈ map.shownNodes.map NodeRef.id ∧
      edge.target.id ∈ map.shownNodes.map NodeRef.id := by
  rw [shownEdges] at shown
  rw [shownNodes]
  split at shown
  next empty =>
    rw [if_pos empty, List.map_map]
    exact ⟨closed _ (List.mem_flatMap.2 ⟨edge, shown, by simp⟩),
      closed _ (List.mem_flatMap.2 ⟨edge, shown, by simp⟩)⟩
  next looked =>
    rw [if_neg looked]
    obtain ⟨-, source, target, -⟩ := mem_visibleEdges_iff.1 shown
    exact ⟨source, target⟩

theorem map_id_payload_nodes (map : Map) :
    map.payload.nodes.map (·.id) = map.shownNodes.map NodeRef.id := by
  rw [payload, List.map_map]
  rfl

theorem isGraph_payload (keyed : map.graph.Keyed) (closed : map.graph.Closed) :
    map.payload.IsGraph where
  nodes_distinct := by
    rw [map_id_payload_nodes]
    exact nodup_shownNodes keyed
  links_distinct := by
    rw [payload, List.map_map]
    exact keyed.edges.sublist (map.shownEdges_sublist.map Edge.id)
  closed link found := by
    obtain ⟨edge, shown, rfl⟩ := List.mem_map.1 found
    rw [map_id_payload_nodes]
    exact ends_mem_shownNodes closed shown

/-- Around an active concept a node is listed because it is near, or for the sake of the
selection. -/
theorem isNear_or_isChosen_of_mem_payload_nodes (centered : map.view.active ≠ none)
    (found : entry ∈ map.payload.nodes) : map.IsNear entry.id ∨ map.IsChosen entry.id := by
  have looked : ¬map.view.isEmpty := by simp [View.isEmpty, centered]
  have shown : entry.id ∈ map.shownNodes.map NodeRef.id := by
    rw [← map_id_payload_nodes]
    exact List.mem_map_of_mem found
  rw [shownNodes, if_neg looked] at shown
  exact (mem_map_id_visibleNodes_iff.1 shown).1

theorem annotates_of_mem_payload_nodes (found : entry ∈ map.payload.nodes) :
    entry.Annotates map := by
  have distance_eq := distance_eq_of_mem_payload_nodes found
  obtain ⟨active_eq, selected_eq⟩ :
      entry.active = map.isActive entry.id ∧ entry.selected = map.isSelected entry.id := by
    obtain ⟨node, -, rfl⟩ := List.mem_map.1 found
    exact ⟨rfl, rfl⟩
  refine ⟨?_, ?_, ?_, ?_, ?_, ?_⟩
  · intro distance
    rw [distance_eq, distance?_eq_some_iff]
  · rw [distance_eq, distance?_eq_none_iff]
  · rw [distance_eq, active_eq, distance?_eq_zero_iff]
  · rw [active_eq, isActive_iff]
  · rw [selected_eq, isSelected_iff]
  · intro centered unselected apart
    rw [distance_eq]
    rcases isNear_or_isChosen_of_mem_payload_nodes centered found with near | chosen
    · exact exists_distance?_of_isNear near
    · obtain ⟨node, selected, same | step⟩ := chosen
      · have marked := isSelected_iff.2 ⟨node, selected, same.symm⟩
        rw [← selected_eq, unselected] at marked
        cases marked
      · exact absurd step (apart node selected)

theorem length_filter_active_le_one (distinct : (map.payload.nodes.map (·.id)).Nodup) :
    (map.payload.nodes.filter (·.active)).length ≤ 1 := by
  have actives_distinct : ((map.payload.nodes.filter (·.active)).map (·.id)).Nodup :=
    distinct.sublist (List.filter_sublist.map _)
  have within : (map.payload.nodes.filter (·.active)).map (·.id) ⊆
      (map.view.active.map NodeRef.id).toList := by
    intro id found
    obtain ⟨entry, entry_mem, rfl⟩ := List.mem_map.1 found
    obtain ⟨listed, marked⟩ := List.mem_filter.1 entry_mem
    obtain ⟨active, centered, same⟩ := (annotates_of_mem_payload_nodes listed).active.1 marked
    exact Option.mem_toList.2 (Option.mem_map.2 ⟨active, centered, same⟩)
  have length_le := (List.subperm_of_subset actives_distinct within).length_le
  rw [List.length_map] at length_le
  exact length_le.trans (Option.length_toList_le)

/-- The payload of a map whose edges end in registered nodes is a graph of its own, and its entries
say of their nodes what the map says, whatever is looked at in it. -/
theorem payload_describes (reachable : map.Reachable) (closed : map.graph.Closed) :
    map.payload.Describes map where
  graph := isGraph_payload reachable.keyed closed
  entries _ found := annotates_of_mem_payload_nodes found
  one_active :=
    length_filter_active_le_one (isGraph_payload reachable.keyed closed).nodes_distinct

/-- A detached node is selected to which no walk leads: it is listed without a distance, behind what
is near the active concept. -/
theorem payload_describes_of_detached_selection :
    let map := (Map.ofDeclarations "m"
        { predicates := [⟨"a", "r", "b"⟩, ⟨"b", "s", "c"⟩, ⟨"c", "r", "d"⟩] }).after
      [.setActive (some (.id "b")), .select (.own ⟨"a", some "x"⟩), .setMaxDistance 1,
        .setBidirectional false]
    map.Reachable ∧ map.graph.Closed ∧ map.payload.Describes map ∧
      map.payload.nodes =
        [⟨"b", none, some 0, true, false⟩, ⟨"c", none, some 1, false, false⟩,
          ⟨"a", some "x", none, false, true⟩] := by
  intro map
  have reachable : map.Reachable := (Reachable.declared _ _).after _
  have closed : map.graph.Closed := by decide
  exact ⟨reachable, closed, payload_describes reachable closed, by decide⟩

end Map
end ConceptMap
