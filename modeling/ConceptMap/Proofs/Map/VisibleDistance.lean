import ConceptMap.Export.Payload
import ConceptMap.Proofs.Map.Visible

/-!
# Distances within a view

A view around an active concept shows whole shortest walks: whatever lies on the way to a visible
node within the limit is visible, too, and so are the edges between.  So the distances within the
limit can be told from what is visible, and the payload of the view needs no other links to justify
those that it states.
-/

namespace ConceptMap

/-- The ends of the edges are registered. -/
def Graph.Closed (graph : Graph) : Prop := ∀ id ∈ graph.endpoints, id ∈ graph.nodes.map (·.id)

instance (graph : Graph) : Decidable graph.Closed :=
  inferInstanceAs (Decidable (∀ id ∈ graph.endpoints, id ∈ graph.nodes.map (·.id)))

/-- The links of a payload, as all that is left of the graph. -/
def Payload.graph (payload : Payload) : Graph :=
  { edges := payload.links.map fun link =>
      ⟨.detached { id := link.source }, link.label, .detached { id := link.target }⟩ }

namespace Map

/-- The graph with its visible edges only. -/
def visibleGraph (map : Map) : Graph := { map.graph with edges := map.visibleEdges }

/-- Within the limit the distances from the active concept can be told from what is visible. -/
structure TellsDistances (map : Map) (active : NodeRef) : Prop where
  /-- A visible node within the limit is just as far away along visible edges. -/
  within : ∀ node ∈ map.visibleNodes, ∀ distance ≤ map.view.maxDistance,
    map.distance? node.id = some distance →
      map.visibleGraph.IsDistance map.view.bidirectional active.id distance node.id
  /-- Along visible edges no visible node is nearer than it is. -/
  beyond : ∀ node ∈ map.visibleNodes, ∀ length,
    map.visibleGraph.Walk map.view.bidirectional active.id length node.id →
      ∃ distance ≤ length, map.distance? node.id = some distance
  /-- A distance within the limit is stated in the payload exactly when it is the one along the
  links of the payload, from the node that is marked as active. -/
  payload : ∃ center ∈ map.payload.nodes, center.active ∧
    ∀ entry ∈ map.payload.nodes, ∀ distance ≤ map.view.maxDistance,
      entry.distance = some distance ↔
        map.payload.graph.distance? map.view.bidirectional center.id entry.id = some distance

variable {map : Map} {active : NodeRef} {id : Text} {distance length : Nat}

theorem distance?_eq_some_iff_of_active (centered : map.view.active = some active) :
    map.distance? id = some distance ↔
      map.graph.IsDistance map.view.bidirectional active.id distance id := by
  rw [distance?_eq_some_iff]
  simp [centered]

/-- A walk along visible edges is a walk. -/
theorem walk_of_visibleGraph_walk
    (walk : map.visibleGraph.Walk map.view.bidirectional active.id length id) :
    map.graph.Walk map.view.bidirectional active.id length id := by
  apply walk.mono
  rintro before after ⟨edge, visible, joins⟩
  exact ⟨edge, map.visibleEdges_subset visible, joins⟩

theorem exists_distance?_of_visibleGraph_walk (centered : map.view.active = some active)
    (walk : map.visibleGraph.Walk map.view.bidirectional active.id length id) :
    ∃ distance ≤ length, map.distance? id = some distance := by
  obtain ⟨distance, distance_le, least⟩ := (walk_of_visibleGraph_walk walk).exists_isDistance
  exact ⟨distance, distance_le, (distance?_eq_some_iff_of_active centered).2 least⟩

section
variable (closed : map.graph.Closed) (centered : map.view.active = some active)
  (unrestricted : map.view.relationship = none)
include closed centered unrestricted

/-- What is within the limit is visible. -/
theorem mem_map_id_visibleNodes_of_isDistance (limited : distance ≤ map.view.maxDistance)
    (least : map.graph.IsDistance map.view.bidirectional active.id distance id) :
    id ∈ map.visibleNodes.map NodeRef.id := by
  have near : map.IsNear id := by
    refine ⟨active, centered, ?_⟩
    cases distance with
    | zero => exact .inl (Graph.isDistance_zero_iff.1 least)
    | succ distance =>
        obtain ⟨middle, -, step⟩ := least.exists_before
        exact .inr ⟨closed id step.mem_endpoints, distance + 1, limited, least⟩
  rw [mem_map_id_visibleNodes_iff]
  exact ⟨.inl near, by simp [takesPart, unrestricted]⟩

/-- A shortest walk within the limit goes along visible edges. -/
theorem visibleGraph_walk_of_isDistance (limited : distance ≤ map.view.maxDistance)
    (least : map.graph.IsDistance map.view.bidirectional active.id distance id) :
    map.visibleGraph.Walk map.view.bidirectional active.id distance id := by
  induction distance generalizing id with
  | zero => exact Graph.walk_zero_iff.2 (Graph.isDistance_zero_iff.1 least)
  | succ distance ih =>
      obtain ⟨middle, nearer, step⟩ := least.exists_before
      have nearer_limited : distance ≤ map.view.maxDistance := by omega
      have here := mem_map_id_visibleNodes_of_isDistance closed centered unrestricted limited least
      have before := mem_map_id_visibleNodes_of_isDistance closed centered unrestricted
        nearer_limited nearer
      refine .step (ih nearer_limited nearer) ?_
      obtain ⟨edge, edge_mem, joins⟩ := step
      have passes : map.showsLabel edge := by simp [showsLabel, unrestricted]
      refine ⟨edge, mem_visibleEdges_iff.2 ⟨edge_mem, ?_⟩, joins⟩
      rcases joins with ⟨rfl, rfl⟩ | ⟨-, rfl, rfl⟩
      · exact ⟨before, here, passes⟩
      · exact ⟨here, before, passes⟩

theorem isDistance_visibleGraph (limited : distance ≤ map.view.maxDistance)
    (found : map.distance? id = some distance) :
    map.visibleGraph.IsDistance map.view.bidirectional active.id distance id := by
  have least := (distance?_eq_some_iff_of_active centered).1 found
  exact ⟨visibleGraph_walk_of_isDistance closed centered unrestricted limited least,
    fun _ walk => least.2 (walk_of_visibleGraph_walk walk)⟩

/-- Within the limit distances and distances along visible edges are the same. -/
theorem distance?_eq_some_iff_visibleGraph (limited : distance ≤ map.view.maxDistance) :
    map.distance? id = some distance ↔
      map.visibleGraph.IsDistance map.view.bidirectional active.id distance id := by
  constructor
  · exact isDistance_visibleGraph closed centered unrestricted limited
  · intro least
    obtain ⟨nearer, nearer_le, found⟩ := exists_distance?_of_visibleGraph_walk centered least.1
    have nearer_least := isDistance_visibleGraph closed centered unrestricted
      (nearer_le.trans limited) found
    rw [found, nearer_least.unique least]

end

/-! ## Payloads -/

section
variable (centered : map.view.active = some active)
include centered

/-- Around an active concept the links of the payload make the walks that visible edges make. -/
theorem isDistance_payload_graph_iff {bidirectional : Bool} {start : Text} :
    map.payload.graph.IsDistance bidirectional start distance id ↔
      map.visibleGraph.IsDistance bidirectional start distance id := by
  have shown : map.shownEdges = map.visibleEdges := by
    rw [shownEdges, View.isEmpty, centered]
    rfl
  have edges_eq : map.payload.graph.edges = map.visibleEdges.map fun edge =>
      ⟨.detached { id := edge.source.id }, edge.relationship,
        .detached { id := edge.target.id }⟩ := by
    rw [Payload.graph, payload, List.map_map, shown]
    rfl
  apply Graph.isDistance_congr
  intro before after
  simp only [Graph.Step, edges_eq, List.mem_map, exists_exists_and_eq_and]
  rfl

theorem exists_active_mem_payload_nodes (visible : active.id ∈ map.visibleNodes.map NodeRef.id) :
    ∃ entry ∈ map.payload.nodes, entry.active ∧ entry.id = active.id := by
  obtain ⟨node, node_visible, same⟩ := List.mem_map.1 visible
  have shown : node ∈ map.shownNodes := by
    rw [shownNodes, View.isEmpty, centered]
    exact node_visible
  have marked : map.isActive node.id := by simp [isActive, centered, same]
  exact ⟨_, List.mem_map_of_mem shown, marked, same⟩

end

theorem distance_eq_of_mem_payload_nodes {entry : NodeEntry} (found : entry ∈ map.payload.nodes) :
    entry.distance = map.distance? entry.id := by
  obtain ⟨node, -, rfl⟩ := List.mem_map.1 found
  rfl

/-- Around an active concept a view without a relationship tells the distances within its limit. -/
theorem tellsDistances (closed : map.graph.Closed) (centered : map.view.active = some active)
    (unrestricted : map.view.relationship = none) : map.TellsDistances active where
  within _ _ _ limited found := isDistance_visibleGraph closed centered unrestricted limited found
  beyond _ _ _ walk := exists_distance?_of_visibleGraph_walk centered walk
  payload := by
    have visible : active.id ∈ map.visibleNodes.map NodeRef.id :=
      mem_map_id_visibleNodes_of_isDistance closed centered unrestricted (Nat.zero_le _)
        (Graph.isDistance_zero_iff.2 rfl)
    obtain ⟨center, center_mem, marked, center_id⟩ :=
      exists_active_mem_payload_nodes centered visible
    refine ⟨center, center_mem, marked, ?_⟩
    intro entry entry_mem distance limited
    rw [distance_eq_of_mem_payload_nodes entry_mem, center_id, Graph.distance?_eq_some_iff,
      isDistance_payload_graph_iff centered]
    exact distance?_eq_some_iff_visibleGraph closed centered unrestricted limited

/-- A selected chain of concepts is visible beyond the limit, and the way along it is longer than
the one through a hidden concept. -/
theorem tellsDistances_of_detour :
    let edge (source target : Text) : Edge := ⟨.registered source, "to", .registered target⟩
    let map : Map :=
      { name := "m"
        graph :=
          { nodes := [⟨"a", none⟩, ⟨"b", none⟩, ⟨"c", none⟩, ⟨"d", none⟩, ⟨"e", none⟩, ⟨"x", none⟩,
              ⟨"y", none⟩]
            edges := [edge "a" "b", edge "b" "c", edge "c" "d", edge "d" "e", edge "a" "x",
              edge "x" "y", edge "y" "e"] }
        view :=
          { active := some (.registered "a"), maxDistance := 1, bidirectional := false
            selected := [.registered "c", .registered "d"] } }
    map.graph.Closed ∧ map.view.relationship = none ∧ map.TellsDistances (.registered "a") ∧
      map.distance? "e" = some 3 ∧ map.visibleGraph.distance? false "a" "e" = some 4 := by
  intro edge map
  have closed : map.graph.Closed := by decide
  exact ⟨closed, rfl, tellsDistances closed rfl rfl, by decide, by decide⟩

end Map
end ConceptMap
