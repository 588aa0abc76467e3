import ConceptMap.Export.Payload
import ConceptMap.Proofs.Graph.Store
import ConceptMap.Proofs.Map.Request
import ConceptMap.Proofs.Map.Selection
import ConceptMap.Proofs.Map.Visible

/-!
# Any order of sets

The ids one step from an id are a set, and so are the selected concepts: they can be gone through in
any order.  The order decides how the exploration of the graph proceeds and in what order the
visible nodes come that are only there for the selection, but neither a distance nor a visible edge.
-/

namespace ConceptMap
namespace Map

/-- In what order the sets of a map are gone through. -/
structure SetOrder (map : Map) where
  /-- The ids one step from an id. -/
  successors : Text → List Text
  perm_successors : ∀ start, (successors start).Perm ((map.neighbors start).map NodeRef.id)
  /-- The selected concepts. -/
  selected : List NodeRef
  perm_selected : selected.Perm map.view.selected

/-- The map with nothing selected. -/
def unselected (map : Map) : Map := map.withView fun view => { view with selected := [] }

namespace SetOrder

/-- The order in which the model goes through the sets. -/
def standard (map : Map) : map.SetOrder where
  successors start := (map.neighbors start).map NodeRef.id
  perm_successors _ := .refl _
  selected := map.view.selected
  perm_selected := .refl _

/-- The other way round. -/
def reversed (map : Map) : map.SetOrder where
  successors start := ((map.neighbors start).map NodeRef.id).reverse
  perm_successors _ := List.reverse_perm _
  selected := map.view.selected.reverse
  perm_selected := List.reverse_perm _

variable {map : Map} (order : map.SetOrder)

/-! ## What is read off the sets -/

def distances : List (Text × Nat) :=
  match map.view.active with
  | none => []
  | some active => map.graph.distancesAlong order.successors active.id

def distance? (id : Text) : Option Nat := order.distances.lookup id

def aroundActive : List NodeRef :=
  match map.view.active with
  | none => []
  | some active =>
      let near := map.graph.nodes.filter fun node =>
        (order.distance? node.id).any (· ≤ map.view.maxDistance)
      active :: near.map fun node => .registered node.id

def aroundSelection : List NodeRef :=
  order.selected.flatMap fun node => node :: map.neighbors node.id

def visibleNodes : List NodeRef :=
  (firstOccurrences NodeRef.id (order.aroundActive ++ order.aroundSelection)).filter fun node =>
    map.takesPart node.id

def visibleEdges : List Edge :=
  let ids := order.visibleNodes.map NodeRef.id
  map.graph.edges.filter fun edge =>
    ids.contains edge.source.id && ids.contains edge.target.id && map.showsLabel edge

def shownNodes : List NodeRef :=
  if map.view.isEmpty then map.graph.nodes.map fun node => .registered node.id
  else order.visibleNodes

def shownEdges : List Edge :=
  if map.view.isEmpty then map.graph.edges else order.visibleEdges

def payload : Payload :=
  { name := map.name
    nodes := order.shownNodes.map fun node =>
      { id := node.id
        definition := (map.graph.resolve node).definition
        distance := order.distance? node.id
        active := map.isActive node.id
        selected := map.isSelected node.id }
    links := order.shownEdges.map fun edge =>
      { id := edge.id
        source := edge.source.id
        target := edge.target.id
        label := edge.relationship
        highlighted := map.view.relationship = some edge.relationship } }

/-! ## Distances -/

theorem lists_successors : map.graph.Lists map.view.bidirectional order.successors :=
  fun before _ => (order.perm_successors before).mem_iff.trans mem_map_id_neighbors_iff

theorem distance?_eq (id : Text) : order.distance? id = map.distance? id := by
  rw [distance?, distances, Map.distance?, Map.distances]
  cases map.view.active with
  | none => rfl
  | some active =>
      ext distance
      rw [Graph.lookup_distancesAlong_eq_some_iff order.lists_successors]
      exact Graph.distance?_eq_some_iff.symm

theorem aroundActive_eq : order.aroundActive = map.aroundActive := by
  have distance_eq : order.distance? = map.distance? := funext order.distance?_eq
  rw [aroundActive, distance_eq]
  rfl

/-! ## Visible nodes and edges -/

theorem aroundSelection_perm : order.aroundSelection.Perm map.aroundSelection :=
  order.perm_selected.flatMap_right _

/-- The nodes that are visible without the selection come first. -/
theorem unselected_visibleNodes_isPrefix : map.unselected.visibleNodes <+: order.visibleNodes := by
  have alone : map.unselected.aroundActive ++ map.unselected.aroundSelection = map.aroundActive :=
    List.append_nil _
  rw [visibleNodes, aroundActive_eq, Map.visibleNodes, alone]
  exact (firstOccurrences_isPrefix_append _ _ _).filter _

theorem standard_visibleNodes : (standard map).visibleNodes = map.visibleNodes := by
  rw [visibleNodes, aroundActive_eq]
  rfl

/-- Which ids are visible does not depend on the order. -/
theorem perm_map_id_visibleNodes :
    (order.visibleNodes.map NodeRef.id).Perm (map.visibleNodes.map NodeRef.id) := by
  have map_filter_eq (nodes : List NodeRef) :
      (nodes.filter fun node => map.takesPart node.id).map NodeRef.id =
        (nodes.map NodeRef.id).filter fun id => map.takesPart id := by
    rw [List.filter_map]
    rfl
  rw [visibleNodes, Map.visibleNodes, map_filter_eq, map_filter_eq, aroundActive_eq]
  exact (perm_map_firstOccurrences (order.aroundSelection_perm.append_left _)).filter _

theorem visibleEdges_eq : order.visibleEdges = map.visibleEdges := by
  rw [visibleEdges, Map.visibleEdges]
  refine List.filter_congr fun edge _ => ?_
  have ids_perm := order.perm_map_id_visibleNodes
  rw [ids_perm.contains_eq, ids_perm.contains_eq]

/-- Whatever the order, the distances and the visible edges are the same.  The visible nodes have
the same ids, and begin with those that are visible without the selection. -/
structure Alike (first second : map.SetOrder) : Prop where
  distances : ∀ id, first.distance? id = second.distance? id
  edges : first.visibleEdges = second.visibleEdges
  ids : (first.visibleNodes.map NodeRef.id).Perm (second.visibleNodes.map NodeRef.id)
  first_front : map.unselected.visibleNodes <+: first.visibleNodes
  second_front : map.unselected.visibleNodes <+: second.visibleNodes

theorem alike (first second : map.SetOrder) : first.Alike second where
  distances id := by rw [distance?_eq, distance?_eq]
  edges := by rw [visibleEdges_eq, visibleEdges_eq]
  ids := first.perm_map_id_visibleNodes.trans second.perm_map_id_visibleNodes.symm
  first_front := first.unselected_visibleNodes_isPrefix
  second_front := second.unselected_visibleNodes_isPrefix

end SetOrder

/-! ## Maps that hold their nodes by id -/

/-- The ends of the edges, the active concept and the selected ones are nodes of the map itself. -/
structure HoldsById (map : Map) : Prop where
  source : ∀ edge ∈ map.graph.edges, edge.source = .registered edge.source.id
  target : ∀ edge ∈ map.graph.edges, edge.target = .registered edge.target.id
  active : ∀ node ∈ map.view.active, node = .registered node.id
  selected : ∀ node ∈ map.view.selected, node = .registered node.id

variable {map : Map}

theorem HoldsById.neighbors (held : map.HoldsById) {start : Text} {node : NodeRef}
    (found : node ∈ map.neighbors start) : node = .registered node.id := by
  obtain ⟨edge, edge_mem, ahead⟩ := List.mem_flatMap.1 (mem_of_mem_firstOccurrences found)
  rcases List.mem_append.1 ahead with forwards | backwards
  · split at forwards
    next =>
      obtain rfl := List.mem_singleton.1 forwards
      exact held.target edge edge_mem
    next => simp at forwards
  · split at backwards
    next =>
      obtain rfl := List.mem_singleton.1 backwards
      exact held.source edge edge_mem
    next => simp at backwards

/-- A picked concept is a node of the map itself. -/
theorem HoldsById.pick (held : map.HoldsById) {index : Int} {node : NodeRef}
    (picked : map.pick index = some node) :
    (map.withView fun view => view.setActive (some node)).HoldsById where
  source := held.source
  target := held.target
  active other found := by
    obtain ⟨registered, -, rfl⟩ := Option.map_eq_some_iff.1 picked
    obtain rfl : NodeRef.registered registered.id = other := Option.some.inj found
    rfl
  selected := held.selected

/-- A map that was read from a document and looked at as was asked for. -/
theorem holdsById_ofDeclarations (name : Text) (declarations : Declarations)
    (request : ViewRequest) (preferences : ViewPreferences) :
    ((Map.ofDeclarations name declarations).withView (request.change preferences)).HoldsById where
  source edge found := by
    obtain ⟨predicate, -, rfl⟩ := Graph.exists_ofPredicate_of_mem_ofDeclarations found
    rfl
  target edge found := by
    obtain ⟨predicate, -, rfl⟩ := Graph.exists_ofPredicate_of_mem_ofDeclarations found
    rfl
  active node found := by
    have asked : node ∈ request.active.map NodeRef.registered := by
      simpa [ViewRequest.change, Map.ofDeclarations] using found
    obtain ⟨name, -, rfl⟩ := Option.mem_map.1 asked
    rfl
  selected node found := eq_registered_of_mem_selectNames found (by simp [Map.ofDeclarations])

namespace SetOrder

variable (order : map.SetOrder)

theorem eq_registered_of_mem_visibleNodes (held : map.HoldsById) {node : NodeRef}
    (found : node ∈ order.visibleNodes) : node = .registered node.id := by
  rw [visibleNodes, aroundActive_eq] at found
  rcases List.mem_append.1 (mem_of_mem_firstOccurrences (List.mem_filter.1 found).1) with
    near | chosen
  · rw [Map.aroundActive] at near
    cases centered : map.view.active with
    | none => simp [centered] at near
    | some active =>
        simp only [centered, List.mem_cons, List.mem_map] at near
        rcases near with rfl | ⟨other, -, rfl⟩
        · exact held.active _ centered
        · rfl
  · obtain ⟨selected, selected_mem, here⟩ := List.mem_flatMap.1 chosen
    rcases List.mem_cons.1 here with rfl | next
    · exact held.selected _ (order.perm_selected.mem_iff.1 selected_mem)
    · exact held.neighbors next

theorem visibleNodes_perm (held : map.HoldsById) : order.visibleNodes.Perm map.visibleNodes := by
  have registered (order : map.SetOrder) :
      (order.visibleNodes.map NodeRef.id).map NodeRef.registered = order.visibleNodes :=
    map_registered_map_id fun _ => order.eq_registered_of_mem_visibleNodes held
  have mapped := order.perm_map_id_visibleNodes.map NodeRef.registered
  rwa [← standard_visibleNodes, registered, registered, standard_visibleNodes] at mapped

end SetOrder
end Map

/-! ## Payloads -/

/-- Two payloads are the same but for the order of their nodes. -/
structure Payload.Alike (first second : Payload) : Prop where
  name : first.name = second.name
  nodes : first.nodes.Perm second.nodes
  links : first.links = second.links

theorem Map.SetOrder.payload_alike {map : Map} (held : map.HoldsById)
    (first second : map.SetOrder) : first.payload.Alike second.payload where
  name := rfl
  nodes := by
    have distance_eq (order : map.SetOrder) : order.distance? = map.distance? :=
      funext order.distance?_eq
    have shown_perm : first.shownNodes.Perm second.shownNodes := by
      rw [shownNodes, shownNodes]
      split
      next => exact .refl _
      next => exact (first.visibleNodes_perm held).trans (second.visibleNodes_perm held).symm
    rw [payload, payload, distance_eq, distance_eq]
    exact shown_perm.map _
  links := by
    rw [payload, payload, shownEdges, shownEdges, visibleEdges_eq, visibleEdges_eq]

end ConceptMap
