import ConceptMap.Proofs.Map.RoundTrip
import ConceptMap.Proofs.Predicate.Key

/-!
# Predicates on the way through a map

The map of a document has an edge for each predicate unless two predicates have the same key: then
the later one takes the place of the earlier one, and the ends of the earlier one may be left
without an edge.
-/

namespace ConceptMap

open Text

namespace Map

/-- The map says what the predicates say: each of them is an edge, in order, nothing else is
registered, and they are read again from the document that is written for the map. -/
structure Keeps (map : Map) (predicates : List Predicate) : Prop where
  edges : map.graph.edges.map Edge.predicate = predicates
  ends : ∀ node ∈ map.graph.nodes, ∃ edge ∈ map.graph.edges, edge.touches node.id
  relationships : map.graph.relationships = firstOccurrences id (predicates.map (·.relationship))
  written : ∃ again, Document.parse map.toText = .ok again ∧
    again.declarations.predicates = predicates

theorem relationships_eq (graph : Graph) :
    graph.relationships =
      firstOccurrences id ((graph.edges.map Edge.predicate).map (·.relationship)) := by
  rw [Graph.relationships, List.map_map]
  rfl

/-- A related concept is an end of an edge if every predicate has an edge. -/
theorem exists_edge_touches {declarations : Declarations}
    (edges : (Graph.ofDeclarations declarations).edges.map Edge.predicate =
      declarations.predicates)
    {node : Node} (found : node ∈ (Graph.ofDeclarations declarations).nodes) :
    ∃ edge ∈ (Graph.ofDeclarations declarations).edges, edge.touches node.id := by
  have related : node.id ∈ declarations.concepts := by
    rw [← Graph.map_id_ofDeclarations_nodes]
    exact List.mem_map_of_mem found
  rw [Declarations.concepts, mem_firstOccurrences_id, List.mem_flatMap] at related
  obtain ⟨predicate, stated, mentioned⟩ := related
  rw [← edges] at stated
  obtain ⟨edge, edge_found, rfl⟩ := List.mem_map.1 stated
  simp only [List.mem_cons, List.not_mem_nil, or_false] at mentioned
  refine ⟨edge, edge_found, ?_⟩
  rw [Edge.touches, Bool.or_eq_true, decide_eq_true_iff, decide_eq_true_iff]
  exact mentioned.imp Eq.symm Eq.symm

/-- A map keeps the predicates of a document if it has an edge for each of them. -/
theorem keeps_of_edges {name text : Text} {document : Document}
    (parsed : Document.parse text = .ok document)
    (edges : (ofDeclarations name document.declarations).graph.edges.map Edge.predicate =
      document.declarations.predicates) :
    (ofDeclarations name document.declarations).Keeps document.declarations.predicates where
  edges := edges
  ends _ found := exists_edge_touches edges found
  relationships := by rw [relationships_eq, edges]
  written := by
    have printable := printable_ofDeclarations (Document.printable_of_parse parsed) name
    have keyed : (ofDeclarations name document.declarations).graph.Keyed :=
      Graph.keyed_ofDeclarations _
    obtain ⟨again, again_parsed, declared⟩ := printable.parse_toText keyed
    exact ⟨again, again_parsed, by rw [declared]; exact edges⟩

/-- The map of a document keeps its predicates exactly when no two of them differ only in whether
a dash ends the source or begins the relationship. -/
theorem keeps_iff_not_shifts (name : Text) {text : Text} {document : Document}
    (parsed : Document.parse text = .ok document) :
    (ofDeclarations name document.declarations).Keeps document.declarations.predicates ↔
      ∀ first ∈ document.declarations.predicates, ∀ second ∈ document.declarations.predicates,
        ¬ first.Shifts second := by
  have printable := Document.printable_of_parse parsed
  rw [← Predicate.nodup_map_key_iff
    (fun predicate found => (printable.predicates predicate found).wellFormed)
    printable.predicates_distinct]
  constructor
  · intro keeps
    rw [← keeps.edges]
    exact (Graph.keyed_ofDeclarations _).nodup_key
  · intro distinct
    exact keeps_of_edges parsed (Graph.map_predicate_ofDeclarations distinct)

/-- Parts that begin or end with a dash, and a target that begins with `>`, are kept. -/
theorem keeps_of_inner_dashes :
    let text : Text := "a- -- b- -> >c\n-a -- -b -> c-"
    let document : Document :=
      { predicates := [⟨1, ⟨"a-", "b-", ">c"⟩⟩, ⟨2, ⟨"-a", "-b", "c-"⟩⟩], definitions := [] }
    Document.parse text = .ok document ∧
      (ofDeclarations "m" document.declarations).Keeps document.declarations.predicates := by
  intro text document
  have parsed : Document.parse text = .ok document := by decide
  exact ⟨parsed, (keeps_iff_not_shifts "m" parsed).2 (by decide)⟩

/-- Two predicates that a document tells apart by a dash become one edge, and the source of the
first one is left alone. -/
theorem not_keeps_shifted_dash :
    let text : Text := "a- -- b -> c\na -- -b -> c"
    let document : Document :=
      { predicates := [⟨1, ⟨"a-", "b", "c"⟩⟩, ⟨2, ⟨"a", "-b", "c"⟩⟩], definitions := [] }
    Document.parse text = .ok document ∧
      (ofDeclarations "m" document.declarations).graph.edges.map Edge.predicate =
        [⟨"a", "-b", "c"⟩] ∧
      (∃ node ∈ (ofDeclarations "m" document.declarations).graph.nodes, node.id = "a-" ∧
        ∀ edge ∈ (ofDeclarations "m" document.declarations).graph.edges,
          ¬ edge.touches node.id) ∧
      ¬ (ofDeclarations "m" document.declarations).Keeps document.declarations.predicates := by
  intro text document
  refine ⟨by decide, by decide, by decide, ?_⟩
  intro keeps
  exact absurd keeps.edges (by decide)

end Map
end ConceptMap
