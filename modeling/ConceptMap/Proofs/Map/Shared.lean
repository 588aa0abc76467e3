import ConceptMap.Proofs.Dot.Drawing
import ConceptMap.Proofs.Map.Grounded
import ConceptMap.Proofs.Map.Invariant

/-!
# Shared nodes

A map that is only ever given nodes of its own holds no others.  Then there is one node for each id,
which its edges, the view and the answers of the map share, so that a definition that is replaced is
replaced wherever it is shown.
-/

namespace ConceptMap

/-- The node is the registered one of its id. -/
def Graph.Registers (graph : Graph) (node : NodeRef) : Prop :=
  node = .registered node.id ∧ node.id ∈ graph.nodes.map (·.id)

/-- The nodes that a caller gives with an operation. -/
def Operation.given : Operation → List NodeName
  | .addEdge source target _ => source.toList ++ target.toList
  | .setActive node | .deselect node => node.toList
  | .select node => [node]
  | .addNode _ _ | .setMaxDistance _ | .setBidirectional _ | .setRelationship _
  | .applySettings _ => []

namespace Graph.Registers

variable {graph next : Graph} {node : NodeRef}

theorem of_mem {node : Node} (found : node ∈ graph.nodes) : graph.Registers (.registered node.id) :=
  ⟨rfl, List.mem_map_of_mem found⟩

/-- A node stays registered while no id is removed. -/
theorem mono (registered : graph.Registers node)
    (kept : graph.nodes.map (·.id) <+: next.nodes.map (·.id)) : next.Registers node :=
  ⟨registered.1, kept.subset registered.2⟩

/-- The definition of a registered node is the one that its id leads to. -/
theorem node?_eq (registered : graph.Registers node) :
    graph.node? node.id = some (graph.resolve node) := by
  obtain ⟨node_eq, here⟩ := registered
  obtain ⟨found, found_eq⟩ := Option.isSome_iff_exists.1 (node?_isSome_iff.2 here)
  rw [node_eq, resolve, NodeRef.id, found_eq]
  rfl

end Graph.Registers

/-- What a graph writes as definitions are those that its ids lead to, but for the empty ones. -/
theorem Graph.Keyed.definition_mem_declarations_iff {graph : Graph} (keyed : graph.Keyed)
    {concept text : Text} :
    ⟨concept, text⟩ ∈ graph.declarations.definitions ↔
      text ≠ [] ∧ graph.node? concept = some ⟨concept, some text⟩ := by
  rw [declarations, List.mem_filterMap, keyed.node?_eq_some_iff]
  constructor
  · rintro ⟨⟨id, definition⟩, found, written⟩
    obtain ⟨rfl, rfl, nonempty⟩ := Node.definition?_eq_some_iff.1 written
    exact ⟨nonempty, found, rfl⟩
  · rintro ⟨nonempty, found, -⟩
    exact ⟨_, found, Node.definition?_eq_some_iff.2 ⟨rfl, rfl, nonempty⟩⟩

namespace Map

/-- The node that a caller means is one of the map. -/
def Owns (map : Map) (name : NodeName) : Prop := ∃ node ∈ map.graph.nodes, name = .id node.id

instance (map : Map) (name : NodeName) : Decidable (map.Owns name) :=
  inferInstanceAs (Decidable (∃ node ∈ map.graph.nodes, name = .id node.id))

/-- The maps that come from declarations by operations with which a caller gives no nodes but those
of the map. -/
inductive SelfContained : Map → Prop where
  | declared (name : Text) (declarations : Declarations) :
      SelfContained (.ofDeclarations name declarations)
  | step {map : Map} (contained : SelfContained map) (operation : Operation)
      (given : ∀ name ∈ operation.given, map.Owns name) : SelfContained (map.after [operation])

/-- The nodes that a map holds, and those that it answers with. -/
inductive Holds (map : Map) : NodeRef → Prop where
  | source {edge : Edge} (found : edge ∈ map.graph.edges) : map.Holds edge.source
  | target {edge : Edge} (found : edge ∈ map.graph.edges) : map.Holds edge.target
  | active {node : NodeRef} (found : node ∈ map.view.active) : map.Holds node
  | selected {node : NodeRef} (found : node ∈ map.view.selected) : map.Holds node
  | neighbor {start : Text} {node : NodeRef} (found : node ∈ map.neighbors start) : map.Holds node
  | visible {node : NodeRef} (found : node ∈ map.visibleNodes) : map.Holds node
  | picked {index : Int} {node : NodeRef} (found : node ∈ map.pick index) : map.Holds node

/-- The map stores no nodes but those that it registers. -/
structure Shares (map : Map) : Prop where
  keyed : map.graph.Keyed
  ends : ∀ edge ∈ map.graph.edges,
    map.graph.Registers edge.source ∧ map.graph.Registers edge.target
  active : ∀ node ∈ map.view.active, map.graph.Registers node
  selected : ∀ node ∈ map.view.selected, map.graph.Registers node

variable {map next : Map} {operation : Operation} {node : NodeRef}

theorem Owns.registers {name : NodeName} (owned : map.Owns name) :
    map.graph.Registers (map.refer name) := by
  obtain ⟨node, found, rfl⟩ := owned
  rw [refer, Graph.refer, if_pos (Graph.node?_isSome_iff.2 (List.mem_map_of_mem found))]
  exact .of_mem found

/-! ## What is stored -/

theorem shares_ofDeclarations (name : Text) (declarations : Declarations) :
    (ofDeclarations name declarations).Shares where
  keyed := Graph.keyed_ofDeclarations declarations
  ends edge found := by
    have closed := Graph.closed_ofDeclarations declarations
    have source_mem := closed edge.source.id (List.mem_flatMap.2 ⟨edge, found, by simp⟩)
    have target_mem := closed edge.target.id (List.mem_flatMap.2 ⟨edge, found, by simp⟩)
    obtain ⟨predicate, -, rfl⟩ := Graph.exists_ofPredicate_of_mem_ofDeclarations found
    exact ⟨⟨rfl, source_mem⟩, ⟨rfl, target_mem⟩⟩
  active := nofun
  selected := nofun

namespace Shares

/-- An operation that is given registered nodes stores no others, and no node that is stored ceases
to be registered. -/
theorem perform (shares : map.Shares) (given : ∀ name ∈ operation.given, map.Owns name)
    (done : map.perform operation = .ok next) : next.Shares := by
  have keyed := keyed_perform shares.keyed done
  -- ids are only added, so that what was stored before needs no further look
  have still {node : NodeRef} (registered : map.graph.Registers node) :
      next.graph.Registers node := registered.mono (alters_perform done).node_ids
  have active node found := still (shares.active node found)
  have selected node found := still (shares.selected node found)
  cases performs_of_perform done with
  | addNode id definition =>
      have edges_eq : (map.addNode id definition).graph.edges = map.graph.edges :=
        Graph.addNode_edges _ _ _
      refine ⟨keyed, ?_, active, selected⟩
      rw [edges_eq]
      exact fun edge found => (shares.ends edge found).imp still still
  | addEdge source target relationship =>
      have source_owned := given source (by simp [Operation.given])
      have target_owned := given target (by simp [Operation.given])
      refine ⟨keyed, fun edge found => ?_, active, selected⟩
      rcases Graph.mem_of_mem_addEdge found with before | rfl
      · exact (shares.ends edge before).imp still still
      · exact ⟨still source_owned.registers, still target_owned.registers⟩
  | setActive node =>
      refine ⟨keyed, shares.ends, ?_, shares.selected⟩
      intro held found
      obtain ⟨name, named, rfl⟩ := Option.map_eq_some_iff.1 found
      exact (given name (by simp [Operation.given, named])).registers
  | select node =>
      refine ⟨keyed, shares.ends, shares.active, ?_⟩
      intro held found
      rcases mem_of_mem_insertById found with rfl | before
      · exact (given node (by simp [Operation.given])).registers
      · exact shares.selected held before
  | deselect node =>
      exact ⟨keyed, shares.ends, shares.active,
        fun held found => shares.selected held (List.mem_of_mem_filter found)⟩
  | deselectNothing | setMaxDistance | setBidirectional | setRelationship =>
      exact ⟨keyed, shares.ends, shares.active, shares.selected⟩
  | applySettings applied =>
      obtain ⟨active_eq, -, selected_eq⟩ := View.applySettings_keeps applied
      exact ⟨keyed, shares.ends, active_eq ▸ shares.active, selected_eq ▸ shares.selected⟩

theorem after (shares : map.Shares) (given : ∀ name ∈ operation.given, map.Owns name) :
    (map.after [operation]).Shares := by
  rcases map.after_cases operation with same | done
  · rw [same]
    exact shares
  · exact shares.perform given done

/-- A map that stores only its own nodes is grounded. -/
theorem grounded (shares : map.Shares) : map.Grounded where
  held :=
    { source := fun edge found => (shares.ends edge found).1.1
      target := fun edge found => (shares.ends edge found).2.1
      active := fun node found => (shares.active node found).1
      selected := fun node found => (shares.selected node found).1 }
  nodup := shares.keyed.nodes
  closed id found := by
    obtain ⟨edge, edge_mem, ends⟩ := List.mem_flatMap.1 found
    rcases List.mem_pair.1 ends with rfl | rfl
    · exact (shares.ends edge edge_mem).1.2
    · exact (shares.ends edge edge_mem).2.2
  active node found := (shares.active node found).2
  selected node found := (shares.selected node found).2

/-- What a map answers with is registered if what it stores is. -/
theorem registers (shares : map.Shares) (holds : map.Holds node) : map.graph.Registers node := by
  cases holds with
  | source found => exact (shares.ends _ found).1
  | target found => exact (shares.ends _ found).2
  | active found => exact shares.active node found
  | selected found => exact shares.selected node found
  | neighbor found =>
      exact ⟨shares.grounded.held.neighbors found, shares.grounded.closed.mem_of_step
        (mem_map_id_neighbors_iff.1 (List.mem_map_of_mem found))⟩
  | visible found =>
      exact ⟨shares.grounded.eq_registered_of_mem_visibleNodes found,
        shares.grounded.mem_of_mem_visibleNodes (List.mem_map_of_mem found)⟩
  | picked found =>
      obtain ⟨registered, here, rfl⟩ := Option.map_eq_some_iff.1 found
      exact .of_mem (List.mem_of_getElem? here)

theorem registers_of_mem_shownNodes (shares : map.Shares) (shown : node ∈ map.shownNodes) :
    map.graph.Registers node := by
  rw [shownNodes] at shown
  split at shown
  next =>
    obtain ⟨registered, found, rfl⟩ := List.mem_map.1 shown
    exact .of_mem found
  next => exact shares.registers (.visible shown)

end Shares

theorem SelfContained.shares (contained : map.SelfContained) : map.Shares := by
  induction contained with
  | declared name declarations => exact shares_ofDeclarations name declarations
  | step _ _ given ih => exact ih.after given

/-! ## What is shown -/

/-- Wherever the map shows a definition, it is the one that the id leads to. -/
structure UpToDate (map : Map) : Prop where
  /-- What is held of an id is its registered node. -/
  held : ∀ node, map.Holds node → map.graph.Registers node
  definitions : ∀ node, map.Holds node → map.graph.node? node.id = some (map.graph.resolve node)
  payload : ∀ entry ∈ map.payload.nodes,
    (map.graph.node? entry.id).map (·.definition) = some entry.definition
  /-- An empty definition is not drawn. -/
  drawing : ∃ drawing, Dot.read? map.toDot = some drawing ∧ ∀ drawn ∈ drawing.nodes,
    (map.graph.node? drawn.id).map (·.definition.filter fun text => !text.isEmpty) =
      some drawn.tooltip
  /-- An empty definition is not written. -/
  document : ∃ declarations : Declarations,
    map.toText = Text.trimEnd (Text.joinLines declarations.lines) ∧
      ∀ concept text, ⟨concept, text⟩ ∈ declarations.definitions ↔
        text ≠ [] ∧ map.graph.node? concept = some ⟨concept, some text⟩

theorem Shares.upToDate (shares : map.Shares) : map.UpToDate where
  held _ holds := shares.registers holds
  definitions _ holds := (shares.registers holds).node?_eq
  payload entry found := by
    obtain ⟨node, shown, rfl⟩ := List.mem_map.1 found
    exact congrArg (Option.map _) (shares.registers_of_mem_shownNodes shown).node?_eq
  drawing := by
    refine ⟨map.drawing, by rw [toDot_eq_render, Dot.Drawing.read?_render_tokens], ?_⟩
    intro drawn found
    obtain ⟨node, shown, rfl⟩ := List.mem_map.1 found
    exact congrArg (Option.map _) (shares.registers_of_mem_shownNodes shown).node?_eq
  document := ⟨map.graph.declarations, map.toText_eq, fun _ _ =>
    shares.keyed.definition_mem_declarations_iff⟩

theorem isPrefix_after (map : Map) (operations : List Operation) :
    map.graph.nodes.map (·.id) <+: (map.after operations).graph.nodes.map (·.id) := by
  induction operations generalizing map with
  | nil => exact List.prefix_refl _
  | cons operation rest ih =>
      rw [← List.singleton_append, after_append]
      exact (map.alters_after operation).node_ids.trans (ih _)

/-- In a map that is only ever given nodes of its own no definition is out of date, and a definition
that is given anew is the one that is shown from then on.  What the map held of an id goes on to be
the registered node, whatever is done with the map. -/
theorem upToDate_of_selfContained (contained : map.SelfContained) :
    map.UpToDate ∧
      (∀ id text,
        (map.after [.addNode id (some text)]).UpToDate ∧
          (map.after [.addNode id (some text)]).graph.node? id = some ⟨id, some text⟩) ∧
      ∀ node, map.Holds node → ∀ operations,
        (map.after operations).graph.node? node.id =
          some ((map.after operations).graph.resolve node) := by
  refine ⟨contained.shares.upToDate, fun id text => ⟨?_, ?_⟩, fun node holds operations => ?_⟩
  · exact (contained.step (.addNode id (some text)) nofun).shares.upToDate
  · exact (Graph.node?_addNode map.graph id (some text) id).trans (if_pos rfl)
  · exact ((contained.shares.registers holds).mono (map.isPrefix_after operations)).node?_eq

/-- A definition is replaced that an edge, the selection and the active concept have in common. -/
theorem upToDate_of_replaced_definition :
    let map := (((Map.ofDeclarations "m"
        { predicates := [⟨"a", "r", "b"⟩], definitions := [⟨"b", "old"⟩] }).after
      [.setActive (some (.id "b"))]).after
      [.select (.id "b")]).after
      [.addEdge (some (.id "b")) (some (.id "a")) "s"]
    let next := map.after [.addNode "b" (some "new")]
    map.SelfContained ∧ next.UpToDate ∧
      next.graph.edges.map (fun edge => next.graph.resolve edge.source) =
        [⟨"a", none⟩, ⟨"b", some "new"⟩] ∧
      next.view.active.map next.graph.resolve = some ⟨"b", some "new"⟩ ∧
      next.view.selected.map next.graph.resolve = [⟨"b", some "new"⟩] ∧
      next.payload.nodes =
        [⟨"b", some "new", some 0, true, true⟩, ⟨"a", none, some 1, false, false⟩] := by
  intro map next
  have contained : map.SelfContained :=
    (((SelfContained.declared _ _).step _ (by decide)).step _ (by decide)).step _ (by decide)
  exact ⟨contained, ((upToDate_of_selfContained contained).2.1 "b" "new").1, by decide⟩

end Map
end ConceptMap
