import ConceptMap.Map

/-!
# Visible nodes and edges

A node is visible when it is close to the active concept, selected, or next to a selected concept,
and, under a relationship filter, when it takes part in that relationship.  An edge is visible when
both its ends are, and its label passes the filter.
-/

namespace ConceptMap
namespace Map

/-- The active concept and the registered nodes around it, as far as the limit goes. -/
def aroundActive (map : Map) : List NodeRef :=
  match map.view.active with
  | none => []
  | some active =>
      let distances := map.distances
      let near := map.graph.nodes.filter fun node =>
        (distances.lookup node.id).any (· ≤ map.view.maxDistance)
      active :: near.map fun node => .registered node.id

/-- The selected concepts, each followed by its neighbours. -/
def aroundSelection (map : Map) : List NodeRef :=
  map.view.selected.flatMap fun node => node :: map.neighbors node.id

/-- The id takes part in the relationship of the view, if the view is restricted to one. -/
def takesPart (map : Map) (id : Text) : Bool :=
  match map.view.relationship with
  | none => true
  | some label => map.graph.edges.any fun edge => edge.relationship = label && edge.touches id

/-- The visible nodes: what surrounds the active concept comes first, then what surrounds the
selection; of several nodes with the same id the first is shown. -/
def visibleNodes (map : Map) : List NodeRef :=
  (firstOccurrences NodeRef.id (map.aroundActive ++ map.aroundSelection)).filter fun node =>
    map.takesPart node.id

/-- The edge has the relationship of the view, if the view is restricted to one. -/
def showsLabel (map : Map) (edge : Edge) : Bool :=
  map.view.relationship.all fun label => edge.relationship = label

/-- The visible edges: both ends are visible, and the label passes the filter. -/
def visibleEdges (map : Map) : List Edge :=
  let ids := map.visibleNodes.map NodeRef.id
  map.graph.edges.filter fun edge =>
    ids.contains edge.source.id && ids.contains edge.target.id && map.showsLabel edge

/-- The nodes of an export: the visible ones, or all of them if the view is empty. -/
def shownNodes (map : Map) : List NodeRef :=
  if map.view.isEmpty then map.graph.nodes.map fun node => .registered node.id
  else map.visibleNodes

/-- The edges of an export: the visible ones, or all of them if the view is empty. -/
def shownEdges (map : Map) : List Edge :=
  if map.view.isEmpty then map.graph.edges else map.visibleEdges

/-- No id is visible twice. -/
theorem nodup_visibleNodes (map : Map) : (map.visibleNodes.map NodeRef.id).Nodup :=
  (nodup_map_firstOccurrences _).sublist (List.filter_sublist.map _)

/-- Visible edges are edges of the map. -/
theorem visibleEdges_subset (map : Map) : map.visibleEdges ⊆ map.graph.edges :=
  fun _ found => (List.mem_filter.1 found).1

end Map
end ConceptMap
