import ConceptMap.Graph
import ConceptMap.Proofs.FirstOccurrence

/-!
# Graphs as stores

A graph files nodes and edges under their ids, so no id occurs twice.  Registering keeps it so.
Edges with distinct ids are registered one behind another; the graph of declarations has an edge
for each predicate, in order, if no two predicates have the same key.
-/

namespace ConceptMap

/-- The edge that states a predicate between registered nodes. -/
def Edge.ofPredicate (predicate : Predicate) : Edge :=
  ⟨.registered predicate.source, predicate.relationship, .registered predicate.target⟩

namespace Graph

/-- No two nodes and no two edges have the same id. -/
structure Keyed (graph : Graph) : Prop where
  nodes : (graph.nodes.map (·.id)).Nodup
  edges : (graph.edges.map Edge.id).Nodup

variable {graph : Graph}

/-- The keys of the predicates are the ids of the edges. -/
theorem Keyed.nodup_key (keyed : graph.Keyed) :
    ((graph.edges.map Edge.predicate).map Predicate.key).Nodup := by
  rw [List.map_map]
  exact keyed.edges

theorem node?_isSome_iff {id : Text} :
    (graph.node? id).isSome ↔ id ∈ graph.nodes.map (·.id) := by
  simp [node?, List.find?_isSome]

theorem edge?_isSome_iff {id : Text} :
    (graph.edge? id).isSome ↔ id ∈ graph.edges.map Edge.id := by
  simp [edge?, List.find?_isSome]

/-- An id leads to the node that is filed under it. -/
theorem Keyed.node?_eq_some_iff (keyed : graph.Keyed) {id : Text} {node : Node} :
    graph.node? id = some node ↔ node ∈ graph.nodes ∧ node.id = id :=
  find?_key_eq_some_iff keyed.nodes

/-- An id leads to the edge that is filed under it. -/
theorem Keyed.edge?_eq_some_iff (keyed : graph.Keyed) {id : Text} {edge : Edge} :
    graph.edge? id = some edge ↔ edge ∈ graph.edges ∧ edge.id = id :=
  find?_key_eq_some_iff keyed.edges

theorem id_of_node? {id : Text} {node : Node} (found : graph.node? id = some node) :
    node.id = id := by
  simpa using List.find?_some found

theorem addEdge_of_mem {edge : Edge} (taken : edge.id ∈ graph.edges.map Edge.id) :
    (graph.addEdge edge).edges =
      graph.edges.map fun other => if other.id = edge.id then edge else other := by
  rw [addEdge, if_pos (edge?_isSome_iff.2 taken)]

theorem addEdge_of_not_mem {edge : Edge} (free : edge.id ∉ graph.edges.map Edge.id) :
    (graph.addEdge edge).edges = graph.edges ++ [edge] := by
  rw [addEdge, if_neg (mt edge?_isSome_iff.1 free)]

/-- Registering an edge adds its id behind the others, unless it is there. -/
theorem map_id_addEdge (edge : Edge) :
    (graph.addEdge edge).edges.map Edge.id =
      if edge.id ∈ graph.edges.map Edge.id then graph.edges.map Edge.id
      else graph.edges.map Edge.id ++ [edge.id] := by
  split
  next taken =>
    rw [addEdge_of_mem taken, List.map_map]
    apply List.map_congr_left
    intro other _
    by_cases same : other.id = edge.id <;> simp [same]
  next free => rw [addEdge_of_not_mem free, List.map_append, List.map_singleton]

/-- Registering a node adds its id behind the others, unless it is there. -/
theorem map_id_addNode (id : Text) (definition : Option Text) :
    (graph.addNode id definition).nodes.map (·.id) =
      if id ∈ graph.nodes.map (·.id) then graph.nodes.map (·.id)
      else graph.nodes.map (·.id) ++ [id] := by
  simp only [addNode, node?_isSome_iff]
  split
  next taken =>
    cases definition with
    | none => rfl
    | some text =>
        rw [List.map_map]
        apply List.map_congr_left
        intro node _
        by_cases same : node.id = id <;> simp [same]
  next free => rw [List.map_append, List.map_singleton]

theorem nodup_insert {ids : List Text} (distinct : ids.Nodup) (id : Text) :
    (if id ∈ ids then ids else ids ++ [id]).Nodup := by
  split
  next => exact distinct
  next free =>
    refine List.nodup_append.2 ⟨distinct, by simp, ?_⟩
    rintro other found last added rfl
    exact free (List.mem_singleton.1 added ▸ found)

theorem isPrefix_insert (ids : List Text) (id : Text) :
    ids <+: if id ∈ ids then ids else ids ++ [id] := by
  split
  next => exact List.prefix_refl ids
  next => exact List.prefix_append ids [id]

/-- Nodes are found under the ids that they had before they were defined anew. -/
theorem find?_id_define (nodes : List Node) (id text other : Text) :
    (nodes.map fun node =>
        if node.id = id then { node with definition := some text } else node).find? (·.id = other) =
      (nodes.find? (·.id = other)).map fun node =>
        if node.id = id then { node with definition := some text } else node := by
  have keeps_id (node : Node) :
      (if node.id = id then { node with definition := some text } else node).id = node.id := by
    split
    next => rfl
    next => rfl
  rw [List.find?_map]
  congr 2
  funext node
  rw [Function.comp_apply, keeps_id]

/-- Registering a node gives it its definition, or leaves it the one that it has, and no other node
is touched. -/
theorem node?_addNode (graph : Graph) (id : Text) (definition : Option Text) (other : Text) :
    (graph.addNode id definition).node? other =
      if other = id then some ⟨id, definition.or ((graph.node? id).bind (·.definition))⟩
      else graph.node? other := by
  unfold addNode
  cases found : graph.node? id with
  | none =>
      rw [if_neg (by simp), node?, List.find?_append, ← node?, List.find?_singleton]
      by_cases same : other = id
      · subst same
        simp [found]
      · have differs : id ≠ other := Ne.symm same
        simp [same, differs]
  | some node =>
      obtain rfl := id_of_node? found
      rw [Option.isSome_some, if_pos rfl]
      cases definition with
      | none =>
          by_cases same : other = node.id
          · subst same
            simp [found]
          · rw [if_neg same]
      | some text =>
          simp only [node?]
          rw [find?_id_define]
          by_cases same : other = node.id
          · subst same
            rw [← node?, found]
            simp
          · rw [if_neg same, ← node?]
            refine (Option.map_congr fun member held => ?_).trans Option.map_id'
            rw [if_neg]
            rw [id_of_node? held]
            exact same

theorem Keyed.addNode (keyed : graph.Keyed) (id : Text) (definition : Option Text) :
    (graph.addNode id definition).Keyed := by
  refine ⟨?_, by simpa using keyed.edges⟩
  rw [map_id_addNode]
  exact nodup_insert keyed.nodes id

theorem Keyed.addEdge (keyed : graph.Keyed) (edge : Edge) : (graph.addEdge edge).Keyed := by
  refine ⟨by simpa using keyed.nodes, ?_⟩
  rw [map_id_addEdge]
  exact nodup_insert keyed.edges edge.id

/-- Registering an edge drops the other edges with its id. -/
theorem mem_addEdge_iff {edge other : Edge} :
    other ∈ (graph.addEdge edge).edges ↔
      other = edge ∨ other ∈ graph.edges ∧ other.id ≠ edge.id := by
  by_cases taken : edge.id ∈ graph.edges.map Edge.id
  · rw [addEdge_of_mem taken, List.mem_map]
    constructor
    · rintro ⟨member, found, rfl⟩
      by_cases same : member.id = edge.id
      · exact .inl (if_pos same)
      · rw [if_neg same]
        exact .inr ⟨found, same⟩
    · rintro (rfl | ⟨found, differs⟩)
      · obtain ⟨member, found, same⟩ := List.mem_map.1 taken
        exact ⟨member, found, if_pos same⟩
      · exact ⟨other, found, if_neg differs⟩
  · rw [addEdge_of_not_mem taken, List.mem_append, List.mem_singleton, or_comm]
    refine or_congr_right (and_iff_left_of_imp fun found same => ?_).symm
    exact taken (same ▸ List.mem_map_of_mem found)

theorem mem_of_mem_addEdge {edge other : Edge} (found : other ∈ (graph.addEdge edge).edges) :
    other ∈ graph.edges ∨ other = edge := by
  rcases mem_addEdge_iff.1 found with rfl | ⟨before, -⟩
  · exact .inr rfl
  · exact .inl before

/-! ## Registering one edge after another -/

variable {edges : List Edge}

theorem foldl_addEdge_nodes : (edges.foldl addEdge graph).nodes = graph.nodes := by
  induction edges generalizing graph with
  | nil => rfl
  | cons edge rest ih => rw [List.foldl_cons, ih, addEdge_nodes]

theorem Keyed.foldl_addEdge (keyed : graph.Keyed) : (edges.foldl Graph.addEdge graph).Keyed := by
  induction edges generalizing graph with
  | nil => exact keyed
  | cons edge rest ih => exact ih (keyed.addEdge edge)

theorem mem_of_mem_foldl_addEdge {edge : Edge} (found : edge ∈ (edges.foldl addEdge graph).edges) :
    edge ∈ graph.edges ∨ edge ∈ edges := by
  induction edges generalizing graph with
  | nil => exact .inl found
  | cons first rest ih =>
      rcases ih found with before | later
      · rcases mem_of_mem_addEdge before with older | rfl
        · exact .inl older
        · exact .inr List.mem_cons_self
      · exact .inr (List.mem_cons_of_mem _ later)

/-- No edge is replaced when all ids are distinct. -/
theorem foldl_addEdge_of_nodup
    (distinct : (graph.edges.map Edge.id ++ edges.map Edge.id).Nodup) :
    (edges.foldl addEdge graph).edges = graph.edges ++ edges := by
  induction edges generalizing graph with
  | nil => simp
  | cons edge rest ih =>
      have free : edge.id ∉ graph.edges.map Edge.id := fun taken =>
        (List.nodup_append.1 distinct).2.2 _ taken _ (by simp) rfl
      have added := addEdge_of_not_mem free
      rw [List.foldl_cons, ih, added, List.append_assoc, List.singleton_append]
      rw [added, List.map_append, List.append_assoc]
      exact distinct

/-! ## Graphs of declarations -/

variable {declarations : Declarations}

theorem ofDeclarations_eq_foldl (declarations : Declarations) :
    ofDeclarations declarations =
      (declarations.predicates.map Edge.ofPredicate).foldl addEdge
        { nodes := declarations.concepts.map fun concept =>
            ⟨concept, declarations.definition? concept⟩ } := by
  rw [ofDeclarations, List.foldl_map]
  rfl

theorem ofDeclarations_nodes (declarations : Declarations) :
    (ofDeclarations declarations).nodes =
      declarations.concepts.map fun concept => ⟨concept, declarations.definition? concept⟩ := by
  rw [ofDeclarations_eq_foldl, foldl_addEdge_nodes]

theorem map_id_ofDeclarations_nodes (declarations : Declarations) :
    (ofDeclarations declarations).nodes.map (·.id) = declarations.concepts := by
  rw [ofDeclarations_nodes, List.map_map]
  exact List.map_id _

theorem keyed_ofDeclarations (declarations : Declarations) :
    (ofDeclarations declarations).Keyed := by
  rw [ofDeclarations_eq_foldl]
  apply Keyed.foldl_addEdge
  refine ⟨?_, by simp⟩
  rw [List.map_map]
  exact (List.map_id _).symm ▸ nodup_firstOccurrences_id _

theorem exists_ofPredicate_of_mem_ofDeclarations {edge : Edge}
    (found : edge ∈ (ofDeclarations declarations).edges) :
    ∃ predicate ∈ declarations.predicates, Edge.ofPredicate predicate = edge := by
  rw [ofDeclarations_eq_foldl] at found
  rcases mem_of_mem_foldl_addEdge found with none_before | declared
  · simp at none_before
  · exact List.mem_map.1 declared

theorem predicate_mem_of_mem_ofDeclarations {edge : Edge}
    (found : edge ∈ (ofDeclarations declarations).edges) :
    edge.predicate ∈ declarations.predicates := by
  obtain ⟨predicate, predicate_mem, rfl⟩ := exists_ofPredicate_of_mem_ofDeclarations found
  exact predicate_mem

/-- Without two predicates of the same key there is an edge for each predicate, in order. -/
theorem ofDeclarations_edges
    (distinct : (declarations.predicates.map Predicate.key).Nodup) :
    (ofDeclarations declarations).edges = declarations.predicates.map Edge.ofPredicate := by
  rw [ofDeclarations_eq_foldl, foldl_addEdge_of_nodup]
  · rfl
  · rw [List.map_map]
    exact distinct

theorem map_predicate_ofDeclarations
    (distinct : (declarations.predicates.map Predicate.key).Nodup) :
    (ofDeclarations declarations).edges.map Edge.predicate = declarations.predicates := by
  rw [ofDeclarations_edges distinct, List.map_map]
  exact List.map_id _

end Graph
end ConceptMap
