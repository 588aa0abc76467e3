import ConceptMap.Proofs.Document.Warning
import ConceptMap.Proofs.Map.RoundTrip

/-!
# Normal documents

Writing the map of a document normalizes the document: of predicates with the same key only the
last is kept, definitions follow the order in which their concepts are first related, and those
that are empty or orphaned are left out.  Normalizing twice is as good as normalizing three times,
and once is enough when no two predicates have the same key.
-/

namespace ConceptMap

open Text

namespace Declarations

/-- What the graph of the declarations says. -/
def normal (declarations : Declarations) : Declarations :=
  (Graph.ofDeclarations declarations).declarations

variable {declarations : Declarations}

theorem nodup_concept_definitions_normal (declarations : Declarations) :
    (declarations.normal.definitions.map (·.concept)).Nodup :=
  (Graph.keyed_ofDeclarations declarations).nodes.sublist (map_concept_sublist _)

theorem nodup_key_normal (declarations : Declarations) :
    (declarations.normal.predicates.map Predicate.key).Nodup :=
  (Graph.keyed_ofDeclarations declarations).nodup_key

theorem normal_predicates (distinct : (declarations.predicates.map Predicate.key).Nodup) :
    declarations.normal.predicates = declarations.predicates :=
  Graph.map_predicate_ofDeclarations distinct

theorem concepts_normal (distinct : (declarations.predicates.map Predicate.key).Nodup) :
    declarations.normal.concepts = declarations.concepts := by
  rw [concepts, concepts, normal_predicates distinct]

theorem normal_definitions (declarations : Declarations) :
    declarations.normal.definitions = declarations.concepts.filterMap fun concept =>
      Node.definition? ⟨concept, declarations.definition? concept⟩ := by
  rw [normal, Graph.declarations, Graph.ofDeclarations_nodes, List.filterMap_map]
  rfl

/-- The normal form keeps the texts of related concepts that are not empty. -/
theorem definition?_normal_eq_some_iff {concept text : Text} :
    declarations.normal.definition? concept = some text ↔
      concept ∈ declarations.concepts ∧ declarations.definition? concept = some text ∧
        text ≠ [] := by
  rw [definition?_eq_some_iff (nodup_concept_definitions_normal declarations),
    normal_definitions, List.mem_filterMap]
  simp only [Node.definition?_eq_some_iff]
  constructor
  · rintro ⟨other, related, rfl, explained, nonempty⟩
    exact ⟨related, explained, nonempty⟩
  · rintro ⟨related, explained, nonempty⟩
    exact ⟨concept, related, rfl, explained, nonempty⟩

/-- Without colliding keys the normal form of the declarations is its own normal form. -/
theorem normal_normal (distinct : (declarations.predicates.map Predicate.key).Nodup) :
    declarations.normal.normal = declarations.normal := by
  have predicates_eq : declarations.normal.normal.predicates = declarations.normal.predicates :=
    normal_predicates (nodup_key_normal declarations)
  have definitions_eq :
      declarations.normal.normal.definitions = declarations.normal.definitions := by
    rw [normal_definitions, normal_definitions declarations, concepts_normal distinct]
    apply List.filterMap_congr
    intro concept related
    ext definition
    simp only [Node.definition?_eq_some_iff, definition?_normal_eq_some_iff]
    constructor
    · rintro ⟨same, ⟨_, explained, nonempty⟩, _⟩
      exact ⟨same, explained, nonempty⟩
    · rintro ⟨same, explained, nonempty⟩
      exact ⟨same, ⟨related, explained, nonempty⟩, nonempty⟩
  calc
    declarations.normal.normal =
        ⟨declarations.normal.normal.predicates, declarations.normal.normal.definitions⟩ := rfl
    _ = ⟨declarations.normal.predicates, declarations.normal.definitions⟩ := by
      rw [predicates_eq, definitions_eq]

/-- In the normal form the related concepts have the definitions that were given, unless these are
empty. -/
theorem normal_definitions_eq_find?
    (distinct : (declarations.definitions.map (·.concept)).Nodup) :
    declarations.normal.definitions = declarations.concepts.filterMap fun concept =>
      declarations.definitions.find? fun definition =>
        definition.concept = concept ∧ definition.text ≠ [] := by
  rw [normal_definitions]
  apply List.filterMap_congr
  intro concept _
  ext definition
  rw [Node.definition?_eq_some_iff, definition?_eq_some_iff distinct,
    find?_key_and_eq_some_iff distinct fun definition : Definition => definition.text ≠ []]
  constructor
  · rintro ⟨rfl, found, nonempty⟩
    exact ⟨found, rfl, nonempty⟩
  · rintro ⟨found, rfl, nonempty⟩
    exact ⟨rfl, found, nonempty⟩

end Declarations

namespace Document

/-- The document that is written for the map of a document. -/
def normalText (name : Text) (document : Document) : Text :=
  (Map.ofDeclarations name document.declarations).toText

theorem normalText_eq (name : Text) (document : Document) :
    document.normalText name = trimEnd (joinLines document.declarations.normal.lines) :=
  Map.toText_eq _

/-- A normalized document is accepted and declares the normal form. -/
theorem parse_normalText {text : Text} {document : Document} (name : Text)
    (parsed : parse text = .ok document) :
    ∃ second, parse (document.normalText name) = .ok second ∧
      second.declarations = document.declarations.normal :=
  (Map.printable_ofDeclarations (printable_of_parse parsed) name).parse_toText
    (Graph.keyed_ofDeclarations _)

theorem doubt_ne_orphanedDefinition {document : Document} (none_orphaned : document.orphans = []) :
    ∀ warning ∈ document.warnings, warning.doubt ≠ .orphanedDefinition := by
  intro warning found
  rw [warnings, none_orphaned, List.nil_append, undefined] at found
  obtain ⟨reference, _, rfl⟩ := List.mem_map.1 found
  simp

/-- Only related concepts are defined in the normal form. -/
theorem orphans_eq_nil_of_normal {document : Document} {declarations : Declarations}
    (distinct : (declarations.predicates.map Predicate.key).Nodup)
    (normalized : document.declarations = declarations.normal) : document.orphans = [] := by
  rw [orphans_eq_nil_iff, normalized, Declarations.concepts_normal distinct,
    Declarations.normal_definitions, List.forall_mem_map]
  intro definition found
  obtain ⟨concept, related, made⟩ := List.mem_filterMap.1 found
  rw [(Node.definition?_eq_some_iff.1 made).1]
  exact related

/-- Normalizing reaches a fixed point: the normal document is accepted, and from the second pass
on it stays the same.  If no two predicates have the same key, the first pass is enough: it keeps
the predicates, and the definitions of related concepts that are not empty, in the order of the
concepts. -/
theorem normalText_fixed (name : Text) {text : Text} {document : Document}
    (parsed : parse text = .ok document) :
    ∃ second third, parse (document.normalText name) = .ok second ∧
      parse (second.normalText name) = .ok third ∧
      third.normalText name = second.normalText name ∧
      ((document.declarations.predicates.map Predicate.key).Nodup →
        second.normalText name = document.normalText name ∧
        second.declarations.predicates = document.declarations.predicates ∧
        (second.declarations.definitions =
          document.declarations.concepts.filterMap fun concept =>
            document.declarations.definitions.find? fun definition =>
              definition.concept = concept ∧ definition.text ≠ []) ∧
        ∀ warning ∈ second.warnings, warning.doubt ≠ .orphanedDefinition) := by
  obtain ⟨second, second_parsed, second_eq⟩ := parse_normalText name parsed
  obtain ⟨third, third_parsed, third_eq⟩ := parse_normalText name second_parsed
  refine ⟨second, third, second_parsed, third_parsed, ?_, ?_⟩
  · -- the normal form has distinct keys, whether or not the document has
    have distinct : (second.declarations.predicates.map Predicate.key).Nodup := by
      rw [second_eq]
      exact Declarations.nodup_key_normal _
    rw [normalText_eq, normalText_eq, third_eq, Declarations.normal_normal distinct]
  · intro distinct
    refine ⟨?_, ?_, ?_, ?_⟩
    · rw [normalText_eq, normalText_eq, second_eq, Declarations.normal_normal distinct]
    · rw [second_eq, Declarations.normal_predicates distinct]
    · rw [second_eq]
      exact Declarations.normal_definitions_eq_find? (printable_of_parse parsed).concepts_distinct
    · exact doubt_ne_orphanedDefinition (orphans_eq_nil_of_normal distinct second_eq)

/-- An orphaned definition, one that is empty, and definitions in another order than the
concepts. -/
theorem normalText_fixed_of_unordered :
    let text : Text := "b -- above -> a\nz:\nold\n---\na:\nlow\n---\nb:\nhigh\n---\nc:\n---"
    let document : Document :=
      { predicates := [⟨1, ⟨"b", "above", "a"⟩⟩]
        definitions := [⟨2, ⟨"z", "old"⟩⟩, ⟨5, ⟨"a", "low"⟩⟩, ⟨8, ⟨"b", "high"⟩⟩, ⟨11, ⟨"c", []⟩⟩] }
    parse text = .ok document ∧
      document.normalText "m" = "b -- above -> a\n\nb:\nhigh\n---\n\na:\nlow\n---" ∧
      ∃ second, parse (document.normalText "m") = .ok second ∧
        second.normalText "m" = document.normalText "m" ∧
        second.declarations.definitions = [⟨"b", "high"⟩, ⟨"a", "low"⟩] := by
  intro text document
  have parsed : parse text = .ok document := by decide
  obtain ⟨second, _, second_parsed, -, -, once⟩ := normalText_fixed "m" parsed
  obtain ⟨same_text, -, definitions_eq, -⟩ := once (by decide)
  exact ⟨parsed, by decide, second, second_parsed, same_text, definitions_eq.trans (by decide)⟩

end Document
end ConceptMap
