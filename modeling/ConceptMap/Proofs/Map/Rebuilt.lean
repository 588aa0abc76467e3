import ConceptMap.Export.Dot
import ConceptMap.Export.Payload
import ConceptMap.Export.Sketch
import ConceptMap.Proofs.Map.Normalization
import Mathlib.Data.List.Forall2

/-!
# Maps that are rebuilt

The map that is read again from the document of a map has lost at most the empty definitions.
Operations keep the two maps in this relation, and whatever is asked of them is answered in the same
way, but for the definitions themselves.
-/

namespace ConceptMap

/-- What is left of a node that may lose an empty definition. -/
inductive Node.Loses : Node → Node → Prop where
  | same (node : Node) : Loses node node
  | emptied (id : Text) : Loses ⟨id, some []⟩ ⟨id, none⟩

/-- What is left of an exported node that may lose an empty definition. -/
inductive NodeEntry.Loses : NodeEntry → NodeEntry → Prop where
  | same (entry : NodeEntry) : Loses entry entry
  | emptied (id : Text) (distance : Option Nat) (active selected : Bool) :
      Loses ⟨id, some [], distance, active, selected⟩ ⟨id, none, distance, active, selected⟩

namespace Node.Loses

variable {first second : Node}

theorem id_eq (loses : first.Loses second) : second.id = first.id := by
  cases loses <;> rfl

/-- An empty definition is not written anyway. -/
theorem definition?_eq (loses : first.Loses second) : second.definition? = first.definition? := by
  cases loses <;> rfl

/-- A new definition takes the place of a lost one. -/
theorem define (loses : first.Loses second) (text : Text) :
    ({ first with definition := some text } : Node).Loses
      { second with definition := some text } := by
  cases loses <;> exact .same _

end Node.Loses

/-! ## Lists of nodes -/

section
variable {nodes others : List Node}

theorem map_id_eq_of_loses (lose : List.Forall₂ Node.Loses nodes others) :
    others.map (·.id) = nodes.map (·.id) := by
  induction lose with
  | nil => rfl
  | cons loses _ ih => rw [List.map_cons, List.map_cons, loses.id_eq, ih]

theorem filterMap_definition?_eq_of_loses (lose : List.Forall₂ Node.Loses nodes others) :
    others.filterMap Node.definition? = nodes.filterMap Node.definition? := by
  induction lose with
  | nil => rfl
  | cons loses _ ih => rw [List.filterMap_cons, List.filterMap_cons, loses.definition?_eq, ih]

/-- Under an id there is nothing in both lists, or a node and what is left of it. -/
theorem find?_id_cases (lose : List.Forall₂ Node.Loses nodes others) (id : Text) :
    (nodes.find? (·.id = id) = none ∧ others.find? (·.id = id) = none) ∨
      ∃ node other, nodes.find? (·.id = id) = some node ∧
        others.find? (·.id = id) = some other ∧ node.Loses other := by
  induction lose with
  | nil => exact .inl ⟨rfl, rfl⟩
  | @cons node other _ _ loses _ ih =>
      by_cases here : node.id = id
      · have there : other.id = id := loses.id_eq.trans here
        exact .inr ⟨node, other, by simp [here], by simp [there], loses⟩
      · have elsewhere : other.id ≠ id := fun there => here (loses.id_eq.symm.trans there)
        simpa [here, elsewhere] using ih

/-- Nodes that are chosen by their ids are the same if the ids are. -/
theorem map_filter_id_eq (ids_eq : others.map (·.id) = nodes.map (·.id)) (keep : Text → Bool) :
    ((others.filter fun node => keep node.id).map fun node => NodeRef.registered node.id) =
      (nodes.filter fun node => keep node.id).map fun node => NodeRef.registered node.id := by
  have chosen (list : List Node) :
      ((list.filter fun node => keep node.id).map fun node => NodeRef.registered node.id) =
        ((list.map (·.id)).filter keep).map .registered := by
    rw [List.filter_map, List.map_map]
    rfl
  rw [chosen, chosen, ids_eq]

/-- Both lists are defined anew in the same place. -/
theorem loses_define (lose : List.Forall₂ Node.Loses nodes others) (id text : Text) :
    List.Forall₂ Node.Loses
      (nodes.map fun node => if node.id = id then { node with definition := some text } else node)
      (others.map fun node =>
        if node.id = id then { node with definition := some text } else node) := by
  rw [List.forall₂_map_left_iff, List.forall₂_map_right_iff]
  refine lose.imp fun node other loses => ?_
  by_cases here : node.id = id
  · rw [if_pos here, if_pos (loses.id_eq.trans here)]
    exact loses.define text
  · rw [if_neg here, if_neg fun there => here (loses.id_eq.symm.trans there)]
    exact loses

end

/-! ## Graphs -/

namespace Graph

/-- The second graph is the first one, but for empty definitions that are lost. -/
structure Loses (first second : Graph) : Prop where
  nodes : List.Forall₂ Node.Loses first.nodes second.nodes
  edges : second.edges = first.edges

namespace Loses

variable {first second : Graph}

theorem isSome_node?_eq (loses : first.Loses second) (id : Text) :
    (second.node? id).isSome = (first.node? id).isSome := by
  rcases find?_id_cases loses.nodes id with ⟨here, there⟩ | ⟨node, other, here, there, _⟩
  · rw [node?, node?, here, there]
  · rw [node?, node?, here, there]
    rfl

theorem refer_eq (loses : first.Loses second) (id : Text) : second.refer id = first.refer id := by
  rw [refer, refer, loses.isSome_node?_eq]

theorem resolve (loses : first.Loses second) (node : NodeRef) :
    (first.resolve node).Loses (second.resolve node) := by
  cases node with
  | detached node => exact .same node
  | registered id =>
      rcases find?_id_cases loses.nodes id with ⟨here, there⟩ | ⟨node, other, here, there, left⟩
      · rw [Graph.resolve, Graph.resolve, node?, node?, here, there]
        exact .same _
      · rw [Graph.resolve, Graph.resolve, node?, node?, here, there]
        exact left

theorem addNode (loses : first.Loses second) (id : Text) (definition : Option Text) :
    (first.addNode id definition).Loses (second.addNode id definition) := by
  refine ⟨?_, by rw [addNode_edges, addNode_edges, loses.edges]⟩
  simp only [Graph.addNode, loses.isSome_node?_eq]
  split
  next =>
    cases definition with
    | none => exact loses.nodes
    | some text => exact loses_define loses.nodes id text
  next => exact List.rel_append loses.nodes (.cons (.same _) .nil)

theorem addEdge (loses : first.Loses second) (edge : Edge) :
    (first.addEdge edge).Loses (second.addEdge edge) := by
  refine ⟨by simpa using loses.nodes, ?_⟩
  rw [Graph.addEdge, Graph.addEdge, edge?, edge?, loses.edges]
  split <;> rfl

theorem declarations_eq (loses : first.Loses second) :
    second.declarations = first.declarations := by
  rw [declarations, declarations, loses.edges, filterMap_definition?_eq_of_loses loses.nodes]

end Loses
end Graph

/-! ## Maps -/

/-- The second export is the first one, but for empty definitions that are lost. -/
structure Payload.Loses (first second : Payload) : Prop where
  name : second.name = first.name
  nodes : List.Forall₂ NodeEntry.Loses first.nodes second.nodes
  links : second.links = first.links

namespace Map

/-- The second map is the first one, but for empty definitions that are lost. -/
structure Loses (first second : Map) : Prop where
  name : second.name = first.name
  graph : first.graph.Loses second.graph
  view : second.view = first.view

/-- Whatever is asked of the two maps has the same answer, but for empty definitions that the
second map has lost. -/
structure LooksLike (first second : Map) : Prop where
  ids : second.graph.nodes.map (·.id) = first.graph.nodes.map (·.id)
  definitions : ∀ node, (first.graph.resolve node).Loses (second.graph.resolve node)
  edges : second.graph.edges = first.graph.edges
  relationships : second.graph.relationships = first.graph.relationships
  neighbors : ∀ node, second.neighborsOf node = first.neighborsOf node
  distances : ∀ node, second.distanceOf node = first.distanceOf node
  visibleNodes : second.visibleNodes = first.visibleNodes
  visibleEdges : second.visibleEdges = first.visibleEdges
  sketch : second.sketch = first.sketch
  dot : second.toDot = first.toDot
  text : second.toText = first.toText
  payload : first.payload.Loses second.payload
  faults : ∀ operation fault,
    second.perform operation = .error fault ↔ first.perform operation = .error fault

namespace Loses

variable {first second : Map}

theorem ids_eq (loses : first.Loses second) :
    second.graph.nodes.map (·.id) = first.graph.nodes.map (·.id) :=
  map_id_eq_of_loses loses.graph.nodes

/-! ### Operations -/

theorem refer_eq (loses : first.Loses second) (node : NodeName) :
    second.refer node = first.refer node := by
  cases node with
  | id id => exact loses.graph.refer_eq id
  | own node => rfl

theorem need_eq (loses : first.Loses second) (node : Option NodeName) :
    second.need node = first.need node := by
  cases node with
  | none => rfl
  | some node => rw [need, need, loses.refer_eq]

theorem edgeOf_eq (loses : first.Loses second) (source target : Option NodeName)
    (relationship : Text) :
    second.edgeOf source target relationship = first.edgeOf source target relationship := by
  rw [edgeOf, edgeOf, loses.need_eq, loses.need_eq]

theorem withView (loses : first.Loses second) (change : View → View) :
    (first.withView change).Loses (second.withView change) :=
  ⟨loses.name, loses.graph, by rw [withView_view, withView_view, loses.view]⟩

/-- An operation fails on both maps in the same way, or keeps them in relation. -/
theorem perform (loses : first.Loses second) (operation : Operation) :
    (∃ fault, first.perform operation = .error fault ∧ second.perform operation = .error fault) ∨
      ∃ next other, first.perform operation = .ok next ∧ second.perform operation = .ok other ∧
        next.Loses other := by
  cases operation with
  | addNode id definition =>
      exact .inr ⟨_, _, rfl, rfl, loses.name, loses.graph.addNode id definition, loses.view⟩
  | addEdge source target relationship =>
      rw [Map.perform, Map.perform, loses.edgeOf_eq]
      cases first.edgeOf source target relationship with
      | error fault => exact .inl ⟨fault, rfl, rfl⟩
      | ok edge => exact .inr ⟨_, _, rfl, rfl, loses.name, loses.graph.addEdge edge, loses.view⟩
  | setActive node =>
      have refer_eq : second.refer = first.refer := funext loses.refer_eq
      rw [Map.perform, Map.perform, refer_eq]
      exact .inr ⟨_, _, rfl, rfl, loses.withView _⟩
  | select node =>
      rw [Map.perform, Map.perform, loses.refer_eq]
      exact .inr ⟨_, _, rfl, rfl, loses.withView _⟩
  | deselect node =>
      cases node with
      | none => exact .inr ⟨_, _, rfl, rfl, loses⟩
      | some node =>
          rw [Map.perform, Map.perform, loses.refer_eq]
          exact .inr ⟨_, _, rfl, rfl, loses.withView _⟩
  | setMaxDistance distance => exact .inr ⟨_, _, rfl, rfl, loses.withView _⟩
  | setBidirectional bidirectional => exact .inr ⟨_, _, rfl, rfl, loses.withView _⟩
  | setRelationship relationship => exact .inr ⟨_, _, rfl, rfl, loses.withView _⟩
  | applySettings table =>
      rw [Map.perform, Map.perform, loses.view]
      cases first.view.applySettings table with
      | error fault => exact .inl ⟨_, rfl, rfl⟩
      | ok view => exact .inr ⟨_, _, rfl, rfl, loses.name, loses.graph, rfl⟩

theorem after (loses : first.Loses second) (operations : List Operation) :
    (first.after operations).Loses (second.after operations) := by
  induction operations generalizing first second with
  | nil => exact loses
  | cons operation rest ih =>
      rw [Map.after, Map.after]
      rcases loses.perform operation with
        ⟨fault, failed, other_failed⟩ | ⟨next, other, done, other_done, next_loses⟩
      · rw [failed, other_failed]
        exact ih loses
      · rw [done, other_done]
        exact ih next_loses

/-! ### Answers -/

/-- Only nodes can be told apart. -/
theorem eq_withNodes (loses : first.Loses second) :
    second = ⟨first.name, ⟨second.graph.nodes, first.graph.edges⟩, first.view⟩ := by
  rw [← loses.name, ← loses.graph.edges, ← loses.view]

theorem distances_eq (loses : first.Loses second) : second.distances = first.distances := by
  rw [loses.eq_withNodes]
  rfl

theorem aroundActive_eq (loses : first.Loses second) :
    second.aroundActive = first.aroundActive := by
  rw [aroundActive, aroundActive, loses.view, loses.distances_eq]
  cases first.view.active with
  | none => rfl
  | some active =>
      exact congrArg (active :: ·) (map_filter_id_eq loses.ids_eq fun id =>
        (first.distances.lookup id).any (· ≤ first.view.maxDistance))

theorem visibleNodes_eq (loses : first.Loses second) :
    second.visibleNodes = first.visibleNodes := by
  have selection_eq : second.aroundSelection = first.aroundSelection := by
    rw [loses.eq_withNodes]
    rfl
  have takesPart_eq : second.takesPart = first.takesPart := by
    rw [loses.eq_withNodes]
    rfl
  rw [visibleNodes, visibleNodes, loses.aroundActive_eq, selection_eq, takesPart_eq]

theorem visibleEdges_eq (loses : first.Loses second) :
    second.visibleEdges = first.visibleEdges := by
  have showsLabel_eq : second.showsLabel = first.showsLabel := by
    rw [loses.eq_withNodes]
    rfl
  rw [visibleEdges, visibleEdges, loses.visibleNodes_eq, loses.graph.edges, showsLabel_eq]

theorem shownNodes_eq (loses : first.Loses second) : second.shownNodes = first.shownNodes := by
  have all_eq (map : Map) : (map.graph.nodes.map fun node => NodeRef.registered node.id) =
      (map.graph.nodes.map (·.id)).map .registered := List.map_map.symm
  rw [shownNodes, shownNodes, loses.view, loses.visibleNodes_eq, all_eq, all_eq, loses.ids_eq]

theorem shownEdges_eq (loses : first.Loses second) : second.shownEdges = first.shownEdges := by
  rw [shownEdges, shownEdges, loses.view, loses.visibleEdges_eq, loses.graph.edges]

theorem toText_eq (loses : first.Loses second) : second.toText = first.toText := by
  rw [Map.toText_eq, Map.toText_eq, loses.graph.declarations_eq]

/-- An empty definition makes no tooltip. -/
theorem attributes_eq (loses : first.Loses second) (node : NodeRef) :
    Dot.attributes second node = Dot.attributes first node := by
  have left := loses.graph.resolve node
  rw [Dot.attributes, Dot.attributes, isActive, isActive, loses.view]
  generalize first.graph.resolve node = here at left ⊢
  generalize second.graph.resolve node = there at left ⊢
  cases left <;> rfl

theorem toDot_eq (loses : first.Loses second) : second.toDot = first.toDot := by
  have nodeLine_eq : Dot.nodeLine second = Dot.nodeLine first := by
    funext node
    simp only [Dot.nodeLine, loses.attributes_eq]
  have openLine_eq : Dot.openLine second = Dot.openLine first := by
    rw [loses.eq_withNodes]
    rfl
  rw [toDot, toDot, openLine_eq, loses.shownNodes_eq, loses.shownEdges_eq, nodeLine_eq]

theorem payload (loses : first.Loses second) : first.payload.Loses second.payload where
  name := loses.name
  nodes := by
    simp only [Map.payload, isActive, isSelected, loses.shownNodes_eq, loses.distances_eq,
      loses.view]
    rw [List.forall₂_map_left_iff, List.forall₂_map_right_iff, List.forall₂_same]
    intro node _
    have left := loses.graph.resolve node
    generalize first.graph.resolve node = here at left ⊢
    generalize second.graph.resolve node = there at left ⊢
    cases left with
    | same => exact .same _
    | emptied => exact .emptied _ _ _ _
  links := by
    rw [Map.payload, Map.payload, loses.shownEdges_eq, loses.view]

theorem looksLike (loses : first.Loses second) : first.LooksLike second where
  ids := loses.ids_eq
  definitions := loses.graph.resolve
  edges := loses.graph.edges
  relationships := by rw [Graph.relationships, Graph.relationships, loses.graph.edges]
  neighbors node := by
    rw [neighborsOf, neighborsOf, loses.need_eq, loses.eq_withNodes]
    rfl
  distances node := by
    rw [distanceOf, distanceOf, loses.need_eq, loses.eq_withNodes]
    rfl
  visibleNodes := loses.visibleNodes_eq
  visibleEdges := loses.visibleEdges_eq
  sketch := by
    rw [loses.eq_withNodes]
    rfl
  dot := loses.toDot_eq
  text := loses.toText_eq
  payload := loses.payload
  faults operation fault := by
    rcases loses.perform operation with
      ⟨_, failed, other_failed⟩ | ⟨_, _, done, other_done, _⟩
    · rw [failed, other_failed]
    · simp [done, other_done]

end Loses
end Map

/-! ## Reading a map again -/

/-- In the normal form a related concept has its definition, unless that is empty. -/
theorem Declarations.definition?_normal {declarations : Declarations} {concept : Text}
    (related : concept ∈ declarations.concepts) :
    declarations.normal.definition? concept =
      (declarations.definition? concept).filter fun text => !text.isEmpty := by
  ext text
  rw [Declarations.definition?_normal_eq_some_iff, Option.filter_eq_some_iff]
  simp [related]

/-- Leaving out an empty definition loses no more than that. -/
theorem Node.loses_filter (id : Text) (definition : Option Text) :
    (⟨id, definition⟩ : Node).Loses ⟨id, definition.filter fun text => !text.isEmpty⟩ := by
  cases definition with
  | none => exact .same _
  | some text =>
      cases text with
      | nil => exact .emptied id
      | cons => exact .same _

namespace Map

/-- The map of a normal form has lost the empty definitions, and nothing else. -/
theorem loses_normal (name : Text) {declarations : Declarations}
    (distinct : (declarations.predicates.map Predicate.key).Nodup) :
    (ofDeclarations name declarations).Loses (ofDeclarations name declarations.normal) := by
  refine ⟨rfl, ⟨?_, ?_⟩, rfl⟩
  · rw [ofDeclarations, ofDeclarations, Graph.ofDeclarations_nodes, Graph.ofDeclarations_nodes,
      Declarations.concepts_normal distinct, List.forall₂_map_left_iff, List.forall₂_map_right_iff,
      List.forall₂_same]
    intro concept related
    rw [Declarations.definition?_normal related]
    exact Node.loses_filter concept _
  · rw [ofDeclarations, ofDeclarations, Graph.ofDeclarations_edges distinct,
      Graph.ofDeclarations_edges (Declarations.nodup_key_normal declarations),
      Declarations.normal_predicates distinct]

/-- A map that is read again from its own document looks like the map, whatever is done to both,
if no two predicates have the same key. -/
theorem looksLike_of_parse_toText (name : Text) {text : Text} {document : Document}
    (parsed : Document.parse text = .ok document)
    (distinct : (document.declarations.predicates.map Predicate.key).Nodup) :
    ∃ again, Document.parse (ofDeclarations name document.declarations).toText = .ok again ∧
      ∀ operations, ((ofDeclarations name document.declarations).after operations).LooksLike
        ((ofDeclarations name again.declarations).after operations) := by
  obtain ⟨again, again_parsed, declared⟩ := Document.parse_normalText name parsed
  refine ⟨again, again_parsed, fun operations => ?_⟩
  rw [declared]
  exact ((loses_normal name distinct).after operations).looksLike

/-- A map with an empty definition and the one without it. -/
theorem looksLike_of_empty_definition :
    let text : Text := "b -- above -> a\nz:\nold\n---\na:\n---\nb:\nhigh\n---"
    let document : Document :=
      { predicates := [⟨1, ⟨"b", "above", "a"⟩⟩]
        definitions := [⟨2, ⟨"z", "old"⟩⟩, ⟨5, ⟨"a", []⟩⟩, ⟨7, ⟨"b", "high"⟩⟩] }
    let rebuilt : Declarations := ⟨[⟨"b", "above", "a"⟩], [⟨"b", "high"⟩]⟩
    Document.parse text = .ok document ∧
      (document.declarations.predicates.map Predicate.key).Nodup ∧
      (ofDeclarations "m" document.declarations).graph.node? "a" = some ⟨"a", some []⟩ ∧
      (ofDeclarations "m" rebuilt).graph.node? "a" = some ⟨"a", none⟩ ∧
      ∀ operations, ((ofDeclarations "m" document.declarations).after operations).LooksLike
        ((ofDeclarations "m" rebuilt).after operations) := by
  intro text document rebuilt
  have parsed : Document.parse text = .ok document := by decide
  have distinct : (document.declarations.predicates.map Predicate.key).Nodup := by decide
  obtain ⟨again, again_parsed, alike⟩ := looksLike_of_parse_toText "m" parsed distinct
  have again_eq : again = ⟨[⟨1, ⟨"b", "above", "a"⟩⟩], [⟨3, ⟨"b", "high"⟩⟩]⟩ :=
    Except.ok.inj (again_parsed.symm.trans (by decide))
  rw [again_eq] at alike
  exact ⟨parsed, distinct, by decide, by decide, alike⟩

end Map
end ConceptMap
