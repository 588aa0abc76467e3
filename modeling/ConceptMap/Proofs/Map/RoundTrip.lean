import ConceptMap.Proofs.Document.Written
import ConceptMap.Proofs.Map.Reachable
import Mathlib.Data.List.Nodup

/-!
# Maps that are written and read again

A map is written as the predicates of its edges and the definitions of its nodes.  If these are
printable, they are read again from the document; the map of a document that was read is of this
kind.
-/

namespace ConceptMap

open Text

/-- What a graph says when it is written. -/
def Graph.declarations (graph : Graph) : Declarations :=
  { predicates := graph.edges.map Edge.predicate
    definitions := graph.nodes.filterMap Node.definition? }

namespace Map

/-- All edges and all definitions of the map can be written. -/
structure Printable (map : Map) : Prop where
  edges : ∀ edge ∈ map.graph.edges, edge.predicate.Printable
  definitions : ∀ node ∈ map.graph.nodes, ∀ definition ∈ node.definition?, definition.Printable

instance (map : Map) : Decidable map.Printable :=
  decidable_of_iff
    ((∀ edge ∈ map.graph.edges, edge.predicate.Printable) ∧
      ∀ node ∈ map.graph.nodes, ∀ definition ∈ node.definition?, definition.Printable)
    ⟨fun ⟨edges, definitions⟩ => ⟨edges, definitions⟩,
      fun ⟨edges, definitions⟩ => ⟨edges, definitions⟩⟩

theorem toText_eq (map : Map) : map.toText = trimEnd (joinLines map.graph.declarations.lines) := by
  have empty_iff : (map.graph.edges.map Edge.predicate).isEmpty = map.graph.edges.isEmpty :=
    List.isEmpty_map
  rw [toText, documentLines, Declarations.lines, Graph.declarations, empty_iff, List.map_map]
  rfl

end Map

theorem Node.definition?_eq_some_iff {node : Node} {definition : Definition} :
    node.definition? = some definition ↔
      definition.concept = node.id ∧ node.definition = some definition.text ∧
        definition.text ≠ [] := by
  obtain ⟨concept, text⟩ := definition
  obtain ⟨id, held⟩ := node
  rw [Node.definition?]
  split
  next found => simp [show held = none from found]
  next found =>
    obtain rfl : held = some [] := found
    simp only [reduceCtorEq, Option.some.injEq, false_iff, not_and, not_not]
    exact fun _ => Eq.symm
  next other nonempty found =>
    obtain rfl : held = some other := found
    simp only [Option.some.injEq, Definition.mk.injEq]
    constructor
    · rintro ⟨rfl, rfl⟩
      exact ⟨rfl, rfl, nonempty⟩
    · rintro ⟨rfl, rfl, _⟩
      exact ⟨rfl, rfl⟩

theorem map_concept_sublist (nodes : List Node) :
    ((nodes.filterMap Node.definition?).map (·.concept)).Sublist (nodes.map (·.id)) := by
  induction nodes with
  | nil => exact .slnil
  | cons node rest ih =>
      cases found : node.definition? with
      | none =>
          rw [List.filterMap_cons_none found]
          exact ih.cons _
      | some definition =>
          rw [List.filterMap_cons_some found, List.map_cons,
            (Node.definition?_eq_some_iff.1 found).1]
          exact ih.cons_cons _

/-- The declarations of a store with printable content are printable. -/
theorem Map.Printable.declarations {map : Map} (printable : map.Printable)
    (keyed : map.graph.Keyed) : map.graph.declarations.Printable := by
  refine ⟨?_, ?_, ?_, keyed.nodes.sublist (map_concept_sublist _)⟩
  · intro predicate found
    obtain ⟨edge, edge_found, rfl⟩ := List.mem_map.1 found
    exact printable.edges edge edge_found
  · intro definition found
    obtain ⟨node, node_found, defined⟩ := List.mem_filterMap.1 found
    exact printable.definitions node node_found definition defined
  · exact List.Nodup.of_map _ keyed.nodup_key

theorem Map.Printable.parse_toText {map : Map} (printable : map.Printable)
    (keyed : map.graph.Keyed) :
    ∃ document, Document.parse map.toText = .ok document ∧
      document.declarations = map.graph.declarations := by
  rw [Map.toText_eq]
  exact (printable.declarations keyed).parse

theorem Declarations.definition?_eq_some_iff {declarations : Declarations}
    (distinct : (declarations.definitions.map (·.concept)).Nodup) {concept text : Text} :
    declarations.definition? concept = some text ↔
      ⟨concept, text⟩ ∈ declarations.definitions := by
  rw [Declarations.definition?, Option.map_eq_some_iff]
  simp only [find?_key_eq_some_iff distinct]
  constructor
  · rintro ⟨definition, ⟨found, rfl⟩, rfl⟩
    exact found
  · intro found
    exact ⟨⟨concept, text⟩, ⟨found, rfl⟩, rfl⟩

namespace Map

theorem definition_mem_of_mem_ofDeclarations {declarations : Declarations}
    (distinct : (declarations.definitions.map (·.concept)).Nodup) {name : Text} {node : Node}
    (found : node ∈ (ofDeclarations name declarations).graph.nodes) {definition : Definition}
    (defined : node.definition? = some definition) : definition ∈ declarations.definitions := by
  rw [ofDeclarations, Graph.ofDeclarations_nodes] at found
  obtain ⟨concept, _, rfl⟩ := List.mem_map.1 found
  obtain ⟨concept_eq, text_eq, _⟩ := Node.definition?_eq_some_iff.1 defined
  obtain rfl : definition.concept = concept := concept_eq
  exact (Declarations.definition?_eq_some_iff distinct).1 text_eq

/-- The map of printable declarations is printable. -/
theorem printable_ofDeclarations {declarations : Declarations}
    (printable : declarations.Printable) (name : Text) :
    (ofDeclarations name declarations).Printable := by
  refine ⟨?_, ?_⟩
  · intro edge found
    exact printable.predicates _ (Graph.predicate_mem_of_mem_ofDeclarations found)
  · intro node found definition defined
    exact printable.definitions definition
      (definition_mem_of_mem_ofDeclarations printable.concepts_distinct found defined)

/-- A printable map is read again from the document that is written for it: its edges in order
and, in order, its nodes with a definition that is not empty.  The maps of documents are
printable. -/
theorem parse_toText_of_printable :
    (∀ map : Map, map.Reachable → map.Printable →
      ∃ document, Document.parse map.toText = .ok document ∧
        document.declarations.predicates = map.graph.edges.map Edge.predicate ∧
        document.declarations.definitions = map.graph.nodes.filterMap Node.definition?) ∧
      ∀ name text document, Document.parse text = .ok document →
        (ofDeclarations name document.declarations).Printable := by
  constructor
  · intro map reachable printable
    obtain ⟨document, parsed, declared⟩ := printable.parse_toText reachable.keyed
    exact ⟨document, parsed, by rw [declared, Graph.declarations],
      by rw [declared, Graph.declarations]⟩
  · intro name text document parsed
    exact printable_ofDeclarations (Document.printable_of_parse parsed) name

/-- A definition that reads like predicates and like the start of another definition. -/
theorem parse_toText_of_misleading_definition :
    let map := Map.after (ofDeclarations "m" {})
      [.addNode "a: --" (some "b -- c -> d\n\nb:\n--- -"),
        .addEdge (some (.id "a")) (some (.own ⟨":b", none⟩)) ">"]
    map.Reachable ∧ map.Printable ∧
      ∃ document, Document.parse map.toText = .ok document ∧
        document.declarations.predicates = [⟨"a", ">", ":b"⟩] ∧
        document.declarations.definitions = [⟨"a: --", "b -- c -> d\n\nb:\n--- -"⟩] := by
  intro map
  have reachable : map.Reachable := (Reachable.declared "m" {}).after _
  have printable : map.Printable := by decide
  obtain ⟨document, parsed, predicates_eq, definitions_eq⟩ :=
    parse_toText_of_printable.1 map reachable printable
  exact ⟨reachable, printable, document, parsed, predicates_eq.trans (by decide),
    definitions_eq.trans (by decide)⟩

end Map
end ConceptMap
