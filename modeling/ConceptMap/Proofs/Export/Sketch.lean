import ConceptMap.Export.Sketch
import ConceptMap.Map.Operation
import ConceptMap.Proofs.Export.Payload
import ConceptMap.Proofs.Graph.Search

/-!
# Sketches agree with distances

Drawing a sketch is a search of its own, which stops at the greatest distance and follows each edge
one way only.  An edge from a node to itself is all that it leaves out by that, so that it comes to
the ids whose distances are within the limit, in ascending order of their distances.
-/

namespace ConceptMap

namespace Edge

/-- The edge is drawn below a node: it leaves the node, or it comes from another one and edges are
followed in both directions. -/
def IsDrawn (bidirectional : Bool) (id : Text) (edge : Edge) : Prop :=
  edge.source.id = id ∨
    bidirectional = true ∧ edge.target.id = id ∧ edge.source.id ≠ edge.target.id

instance (bidirectional : Bool) (id : Text) : DecidablePred (IsDrawn bidirectional id) :=
  fun edge => inferInstanceAs (Decidable (edge.source.id = id ∨
    bidirectional = true ∧ edge.target.id = id ∧ edge.source.id ≠ edge.target.id))

/-- The lines in which an edge can be drawn below a node at a depth. -/
inductive Draws (id : Text) (depth : Nat) (edge : Edge) : Text → Prop where
  /-- The edge leaves the node. -/
  | forwards : edge.source.id = id →
      Draws id depth edge
        (List.replicate (2 * depth) ' ' ++ "  |-" ++ edge.relationship ++ "-> " ++ edge.target.id)
  /-- The edge comes from another node. -/
  | backwards : edge.target.id = id → edge.source.id ≠ id →
      Draws id depth edge
        (List.replicate (2 * depth) ' ' ++ "  |<-" ++ edge.relationship ++ "- " ++ edge.source.id)

/-- The other end of an edge that is drawn below a node. -/
def otherEnd? (bidirectional : Bool) (id : Text) (edge : Edge) : Option Text :=
  if edge.source.id = id then some edge.target.id
  else if bidirectional && edge.target.id = id then some edge.source.id
  else none

end Edge

/-- The other ends of the edges that are drawn below a node, edge by edge. -/
def Graph.otherEnds (graph : Graph) (bidirectional : Bool) (id : Text) : List Text :=
  graph.edges.filterMap (Edge.otherEnd? bidirectional id)

namespace Map

/-- The lines of a node with its depth. -/
inductive Sketches (map : Map) : Text × Nat → List Text → Prop where
  /-- Before the greatest distance, the line of the node is followed by the lines of the edges. -/
  | inner {id : Text} {depth : Nat} {lines : List Text} : depth < map.view.maxDistance →
      List.Forall₂ (Edge.Draws id depth)
        (map.graph.edges.filter (Edge.IsDrawn map.view.bidirectional id)) lines →
      Sketches map (id, depth) ((List.replicate (2 * depth) ' ' ++ id) :: lines)
  /-- At the greatest distance, the node stands alone. -/
  | outer {id : Text} {depth : Nat} : depth = map.view.maxDistance →
      Sketches map (id, depth) [List.replicate (2 * depth) ' ' ++ id]

/-- The sketch of a map has these nodes, each with its depth. -/
structure Outlines (map : Map) (active : NodeRef) (rows : List (Text × Nat)) : Prop where
  /-- No id occurs twice. -/
  distinct : (rows.map Prod.fst).Nodup
  /-- The depths are the distances within the limit. -/
  mem_iff : ∀ id depth, (id, depth) ∈ rows ↔
    depth ≤ map.view.maxDistance ∧
      map.graph.distance? map.view.bidirectional active.id id = some depth
  /-- The active concept comes first. -/
  first : rows.head? = some (active.id, 0)
  /-- No node is followed by a nearer one. -/
  ascending : rows.Pairwise fun before after => before.2 ≤ after.2
  /-- The nodes are met by a search that follows the edges that it draws. -/
  search : (Search.start active.id).EndsWith (map.graph.otherEnds map.view.bidirectional)
    (fun depth => depth < map.view.maxDistance) rows
  /-- The sketch has the lines of the nodes, one behind the other. -/
  text : ∃ blocks, List.Forall₂ map.Sketches rows blocks ∧
    map.sketch = Text.joinLines blocks.flatten

end Map

/-! ## Lines -/

/-- An edge has an arrow just if it is drawn, and the arrow gives its line. -/
theorem Edge.arrow?_cases (bidirectional : Bool) (id : Text) (depth : Nat) (edge : Edge) :
    Map.arrow? bidirectional id edge = none ∧ ¬edge.IsDrawn bidirectional id ∨
      ∃ arrow, Map.arrow? bidirectional id edge = some arrow ∧ edge.IsDrawn bidirectional id ∧
        edge.Draws id depth (List.replicate (2 * depth) ' ' ++ "  |" ++ arrow) := by
  by_cases leaves : edge.source.id = id
  · have draws : edge.Draws id depth _ := .forwards leaves
    refine .inr ⟨_, if_pos leaves, .inl leaves, ?_⟩
    simpa using draws
  · by_cases comes : bidirectional = true ∧ edge.target.id = id
    · have apart : edge.source.id ≠ edge.target.id := comes.2 ▸ leaves
      have draws : edge.Draws id depth _ := .backwards comes.2 leaves
      refine .inr ⟨_, (if_neg leaves).trans (if_pos (by simpa using comes)),
        .inr ⟨comes.1, comes.2, apart⟩, ?_⟩
      simpa using draws
    · refine .inl ⟨(if_neg leaves).trans (if_neg (by simpa using comes)), ?_⟩
      rintro (here | ⟨both, here, -⟩)
      · exact leaves here
      · exact comes ⟨both, here⟩

theorem forall₂_draws (bidirectional : Bool) (id : Text) (depth : Nat) (edges : List Edge) :
    List.Forall₂ (Edge.Draws id depth) (edges.filter (Edge.IsDrawn bidirectional id))
      ((edges.filterMap (Map.arrow? bidirectional id)).map fun arrow =>
        List.replicate (2 * depth) ' ' ++ "  |" ++ arrow) := by
  induction edges with
  | nil => exact .nil
  | cons edge rest ih =>
      rcases edge.arrow?_cases bidirectional id depth with
        ⟨no_arrow, hidden⟩ | ⟨arrow, arrow_eq, drawn, draws⟩
      · rw [List.filterMap_cons_none no_arrow, List.filter_cons_of_neg (by simpa using hidden)]
        exact ih
      · rw [List.filterMap_cons_some arrow_eq, List.filter_cons_of_pos (by simpa using drawn)]
        exact .cons draws ih

/-! ## Nodes -/

/-- Apart from the node itself, the edges that are drawn lead to its successors. -/
theorem Graph.filter_successors_eq_filter_otherEnds (graph : Graph) (bidirectional : Bool)
    (id : Text) :
    (graph.successors bidirectional id).filter (· ≠ id) =
      (graph.otherEnds bidirectional id).filter (· ≠ id) := by
  rw [successors, adjacent, List.map_flatMap, List.filter_flatMap, otherEnds,
    List.filterMap_eq_flatMap_toList, List.filter_flatMap]
  refine List.flatMap_congr fun edge _ => ?_
  rw [Edge.ahead, Edge.otherEnd?]
  -- an edge that leaves the node and comes back to it leads to the node itself both ways
  by_cases leaves : edge.source.id = id <;>
    by_cases comes : bidirectional = true ∧ edge.target.id = id <;> simp [leaves, comes]

namespace Map

variable {map : Map} {active : NodeRef} {id : Text} {depth : Nat}

theorem mem_sketchNodes_iff :
    (id, depth) ∈ map.sketchNodes active ↔
      depth ≤ map.view.maxDistance ∧
        map.graph.distance? map.view.bidirectional active.id id = some depth := by
  rw [sketchNodes, Graph.explored_start.mem_withDepth_layers (Graph.lists_successors _ _),
    Graph.distance?_eq_some_iff]
  simp

theorem head?_sketchNodes (map : Map) (active : NodeRef) :
    (map.sketchNodes active).head? = some (active.id, 0) := by
  rw [sketchNodes]
  cases map.view.maxDistance with
  | zero => rfl
  | succ rounds =>
      rw [layers]
      split
      next => rfl
      next => rfl

theorem endsWith_sketchNodes (map : Map) (active : NodeRef) :
    (Search.start active.id).EndsWith (map.graph.otherEnds map.view.bidirectional)
      (fun depth => depth < map.view.maxDistance) (map.sketchNodes active) := by
  rw [sketchNodes, layers_congr
    (map.graph.filter_successors_eq_filter_otherEnds map.view.bidirectional) (List.Subset.refl _)]
  refine Search.endsWith_layers [] [active.id] (fun round below => ?_) fun goes => ?_
  · simpa using below
  · -- the limit ends the search, whether or not anything is left to be met
    simp at goes

theorem sketches_sketchLines (limited : depth ≤ map.view.maxDistance) :
    map.Sketches (id, depth) (map.sketchLines id depth) := by
  rw [sketchLines]
  split
  next last => exact .outer (le_antisymm limited last)
  next inside => exact .inner (by omega) (forall₂_draws _ _ _ _)

theorem outlines_sketchNodes (centered : map.view.active = some active) :
    map.Outlines active (map.sketchNodes active) where
  distinct := nodup_map_fst_layers _ _ _
  mem_iff _ _ := mem_sketchNodes_iff
  first := map.head?_sketchNodes active
  ascending := pairwise_withDepth _ _
  search := map.endsWith_sketchNodes active
  text := by
    refine ⟨(map.sketchNodes active).map fun row => map.sketchLines row.1 row.2, ?_, ?_⟩
    · rw [List.forall₂_map_right_iff, List.forall₂_same]
      rintro ⟨id, depth⟩ listed
      exact sketches_sketchLines (mem_sketchNodes_iff.1 listed).1
    · rw [sketch, centered]
      rfl

/-- What is visible around the active concept alone is what the sketch has. -/
theorem mem_map_fst_iff_of_outlines {rows : List (Text × Nat)} (outlines : map.Outlines active rows)
    (centered : map.view.active = some active) (unselected : map.view.selected = [])
    (unrestricted : map.view.relationship = none) (closed : map.graph.Closed) :
    id ∈ rows.map Prod.fst ↔ id ∈ map.visibleNodes.map NodeRef.id := by
  constructor
  · intro listed
    obtain ⟨⟨_, depth⟩, row_mem, rfl⟩ := List.mem_map.1 listed
    obtain ⟨limited, found⟩ := (outlines.mem_iff _ _).1 row_mem
    exact mem_map_id_visibleNodes_of_isDistance closed centered unrestricted limited
      (Graph.distance?_eq_some_iff.1 found)
  · intro visible
    rcases (mem_map_id_visibleNodes_iff.1 visible).1 with near | chosen
    · obtain ⟨depth, limited, found⟩ := exists_distance?_of_isNear near
      have least := (distance?_eq_some_iff_of_active centered).1 found
      exact List.mem_map_of_mem
        ((outlines.mem_iff id depth).2 ⟨limited, Graph.distance?_eq_some_iff.2 least⟩)
    · obtain ⟨node, selected, -⟩ := chosen
      rw [unselected] at selected
      cases selected

/-- The nodes of a sketch are the ids whose distances are within the limit.  They are the visible
ones if nothing is selected, no relationship is asked for and the ends of the edges are
registered. -/
theorem sketch_agrees (centered : map.view.active = some active) :
    map.Outlines active (map.sketchNodes active) ∧
      (map.view.selected = [] → map.view.relationship = none → map.graph.Closed →
        ((map.sketchNodes active).map Prod.fst).Perm (map.visibleNodes.map NodeRef.id)) := by
  have outlines := outlines_sketchNodes centered
  refine ⟨outlines, fun unselected unrestricted closed => ?_⟩
  refine (List.perm_ext_iff_of_nodup outlines.distinct map.nodup_visibleNodes).2 fun id => ?_
  exact mem_map_fst_iff_of_outlines outlines centered unselected unrestricted closed

/-- The start is joined to itself, and to another concept in both directions. -/
theorem sketch_agrees_of_loop :
    let map := (Map.ofDeclarations "m"
        { predicates := [⟨"a", "r", "b"⟩, ⟨"a", "s", "a"⟩, ⟨"b", "s", "a"⟩, ⟨"c", "r", "b"⟩,
            ⟨"d", "r", "c"⟩] }).after
      [.setActive (some (.id "a"))]
    let rows : List (Text × Nat) := [("a", 0), ("b", 1), ("c", 2)]
    map.view.active = some (.registered "a") ∧ map.sketchNodes (.registered "a") = rows ∧
      map.Outlines (.registered "a") rows ∧
      (["a", "b", "c"] : List Text).Perm (map.visibleNodes.map NodeRef.id) ∧
      map.sketch = Text.joinLines ["a", "  |-r-> b", "  |-s-> a", "  |<-s- b", "  b", "    |<-r- a",
        "    |-s-> a", "    |<-r- c", "    c"] := by
  intro map rows
  have centered : map.view.active = some (.registered "a") := rfl
  have nodes_eq : map.sketchNodes (.registered "a") = rows := by decide
  have agrees := sketch_agrees centered
  rw [nodes_eq] at agrees
  exact ⟨centered, nodes_eq, agrees.1, agrees.2 rfl rfl (by decide), by decide⟩

end Map
end ConceptMap
