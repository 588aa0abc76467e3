import ConceptMap.Proofs.Document.Append
import ConceptMap.Proofs.Map.RoundTrip

/-!
# Written maps as files

The text that is written for a document's map has no characters but those of the document and those
that mark its statements.  So it has no carriage returns, and reading it from a file does not change
it: it is read as a document again, with the line feed that stands at the end of the file.
-/

namespace ConceptMap

open Text

/-- The characters that are written between the parts of statements. -/
def Statement.marks : Text := [' ', '-', '>', ':', '\n']

/-- The character stands in no part of the declarations. -/
structure Declarations.Avoids (character : Char) (declarations : Declarations) : Prop where
  predicates : ∀ predicate ∈ declarations.predicates,
    character ∉ predicate.source ∧ character ∉ predicate.relationship ∧ character ∉ predicate.target
  definitions : ∀ definition ∈ declarations.definitions,
    character ∉ definition.concept ∧ character ∉ definition.text

section Characters

variable {character : Char} {declarations : Declarations}

theorem mem_joinLines_cases {lines : List Text} (found : character ∈ joinLines lines) :
    character = '\n' ∨ ∃ line ∈ lines, character ∈ line := by
  rw [joinLines] at found
  cases lines with
  | nil => simp at found
  | cons first rest =>
      rw [join_cons, List.mem_append, List.mem_flatMap] at found
      rcases found with inside | ⟨line, later, inside⟩
      · exact .inr ⟨first, List.mem_cons_self, inside⟩
      · rcases List.mem_append.1 inside with feed | inside
        · exact .inl (List.mem_singleton.1 feed)
        · exact .inr ⟨line, List.mem_cons_of_mem _ later, inside⟩

theorem Predicate.States.subset {line : Text} {predicate : Predicate}
    (states : States line predicate) :
    predicate.source ⊆ line ∧ predicate.relationship ⊆ line ∧ predicate.target ⊆ line := by
  obtain @⟨source, rest, relationship, target, at_dashes, at_arrow, -⟩ := states
  rw [at_dashes.text_eq, at_arrow.text_eq]
  refine ⟨fun found inside => ?_, fun found inside => ?_, fun found inside => ?_⟩
  · simp [mem_of_mem_trim inside]
  · simp [mem_of_mem_trim inside]
  · simp [mem_of_mem_trim inside]

/-- What a document declares consists of its characters. -/
theorem Document.avoids_of_parse {text : Text} {document : Document}
    (parsed : parse text = .ok document) (foreign : character ∉ text)
    (no_mark : character ∉ Statement.marks) : document.declarations.Avoids character := by
  obtain ⟨items, lines_eq, -, rfl⟩ := exists_items_of_parse parsed
  have line_free : ∀ item ∈ items, ∀ line ∈ item.lines, character ∉ line := by
    intro item item_found line found inside
    have line_found : line ∈ splitLines text := by
      rw [← lines_eq]
      exact List.mem_flatMap.2 ⟨item, item_found, found⟩
    exact foreign (mem_of_mem_splitLines line_found inside)
  have not_newline : character ≠ '\n' := by
    rintro rfl
    exact no_mark (by decide)
  rw [declarations_ofStatements_numbered]
  constructor
  · intro predicate found
    rw [declared, mem_firstOccurrences_id] at found
    obtain ⟨item, item_found, states⟩ := List.mem_filterMap.1 found
    cases item with
    | blank => simp [Item.predicate?, Item.statement?] at states
    | block => simp [Item.predicate?, Item.statement?, Statement.predicate?] at states
    | relates line stated _ _ line_states =>
        obtain rfl : stated = predicate := Option.some.inj states
        have free : character ∉ trim line :=
          mt mem_of_mem_trim (line_free _ item_found line (by simp [Item.lines]))
        obtain ⟨source_inside, relationship_inside, target_inside⟩ := line_states.subset
        exact ⟨mt (@source_inside _) free, mt (@relationship_inside _) free,
          mt (@target_inside _) free⟩
  · intro definition found
    obtain ⟨item, item_found, defines⟩ := List.mem_filterMap.1 found
    cases item with
    | blank => simp [Item.definition?, Item.statement?] at defines
    | relates => simp [Item.definition?, Item.statement?, Statement.definition?] at defines
    | block header concept body final opens =>
        obtain rfl := Option.some.inj defines
        obtain ⟨name, header_eq, rfl⟩ := opens
        have header_free : character ∉ trim header :=
          mt mem_of_mem_trim (line_free _ item_found header (by simp [Item.lines]))
        have name_free : character ∉ name := by
          rw [header_eq, List.mem_append, not_or] at header_free
          exact header_free.1
        refine ⟨mt mem_of_mem_trim name_free, fun inside => ?_⟩
        rcases mem_joinLines_cases (mem_of_mem_trim inside) with feed | ⟨line, found, line_inside⟩
        · exact not_newline feed
        · exact line_free _ item_found line (by simp [Item.lines, found]) line_inside

theorem Declarations.Avoids.not_mem_joinLines (avoids : declarations.Avoids character)
    (no_mark : character ∉ Statement.marks) : character ∉ joinLines declarations.lines := by
  simp only [Statement.marks, List.mem_cons, List.not_mem_nil, or_false, not_or] at no_mark
  obtain ⟨not_space, not_dash, not_arrow, not_colon, not_newline⟩ := no_mark
  intro inside
  rcases mem_joinLines_cases inside with feed | ⟨line, found, inside⟩
  · exact not_newline feed
  rw [lines, List.mem_append, List.mem_append, List.mem_map, List.mem_flatMap] at found
  rcases found with
    (⟨predicate, predicate_found, rfl⟩ | gap) | ⟨definition, definition_found, found⟩
  · obtain ⟨source_free, relationship_free, target_free⟩ :=
      avoids.predicates predicate predicate_found
    simp [Predicate.render, source_free, relationship_free, target_free, not_space, not_dash,
      not_arrow] at inside
  · split at gap
    next => simp at gap
    next =>
      obtain rfl := List.mem_singleton.1 gap
      simp at inside
  · obtain ⟨concept_free, text_free⟩ := avoids.definitions definition definition_found
    simp only [Definition.lines, List.mem_cons, List.not_mem_nil, or_false] at found
    rcases found with rfl | rfl | rfl | rfl
    · simp [concept_free, not_colon] at inside
    · exact text_free inside
    · simp [Statement.terminator, not_dash] at inside
    · simp at inside

theorem Declarations.Avoids.ofDeclarations (avoids : declarations.Avoids character)
    (printable : declarations.Printable) (name : Text) :
    (Map.ofDeclarations name declarations).graph.declarations.Avoids character := by
  constructor
  · intro predicate found
    obtain ⟨edge, edge_found, rfl⟩ := List.mem_map.1 found
    exact avoids.predicates _ (Graph.predicate_mem_of_mem_ofDeclarations edge_found)
  · intro definition found
    obtain ⟨node, node_found, defined⟩ := List.mem_filterMap.1 found
    exact avoids.definitions _
      (Map.definition_mem_of_mem_ofDeclarations printable.concepts_distinct node_found defined)

/-- The text of a document's map has no characters but those of the document and the marks. -/
theorem Document.not_mem_toText {text : Text} {document : Document}
    (parsed : parse text = .ok document) (foreign : character ∉ text)
    (no_mark : character ∉ Statement.marks) (name : Text) :
    character ∉ (Map.ofDeclarations name document.declarations).toText := by
  have avoids := (avoids_of_parse parsed foreign no_mark).ofDeclarations
    (printable_of_parse parsed) name
  rw [Map.toText_eq]
  intro inside
  obtain ⟨margin, -, joined_eq⟩ := exists_trimEnd_append
    (joinLines (Map.ofDeclarations name document.declarations).graph.declarations.lines)
  apply avoids.not_mem_joinLines no_mark
  rw [joined_eq]
  exact List.mem_append_left _ inside

end Characters

/-! ## Reading from a file -/

theorem Text.not_mem_unifyNewlines (text : Text) : '\r' ∉ unifyNewlines text := by
  fun_induction unifyNewlines text with
  | case1 => simp
  | case2 rest ih => simp [ih]
  | case3 rest _ ih => simp [ih]
  | case4 character rest _ other_character ih =>
      rw [List.mem_cons, not_or]
      exact ⟨Ne.symm other_character, ih⟩

theorem Text.unifyNewlines_eq_self {text : Text} (free : '\r' ∉ text) :
    unifyNewlines text = text := by
  fun_induction unifyNewlines text with
  | case1 => rfl
  | case2 => simp at free
  | case3 => simp at free
  | case4 character rest _ _ ih =>
      rw [List.mem_cons, not_or] at free
      rw [ih free.2]

/-- A line feed at its end changes nothing in a document. -/
theorem Document.parse_append_newline {text : Text} {document : Document}
    (parsed : parse text = .ok document) : parse (text ++ ['\n']) = .ok document := by
  obtain ⟨accepted, rfl⟩ := parse_eq_ok_iff_scan.1 parsed
  have apart : ∀ header, Statement.Reaches [[]] header →
      header.content ∉ Statement.concepts (Statement.scan (splitLines text)).statements := by
    rintro header ⟨front, line, rest, lines_eq, -, -, opens⟩ -
    have line_eq : line = [] := by
      have found : line ∈ ([[]] : List Text) := by simp [lines_eq]
      exact List.mem_singleton.1 found
    exact opens.trim_ne_nil (by rw [line_eq, trim_nil])
  have scan_eq := Statement.scan_append_of_apart accepted apart
  rw [parse_eq_ok_iff_scan, splitLines_append_newline, splitLines_nil, scan_eq]
  have blank : Statement.scan [[]] = ⟨[], none⟩ := rfl
  rw [blank]
  simp

/-- A document's map, written to a file, is a document again when it is read from there. -/
theorem Document.exists_parse_saved {text : Text} {document : Document}
    (parsed : parse (unifyNewlines text) = .ok document) (name : Text) :
    ∃ again, parse (unifyNewlines
      ((Map.ofDeclarations name document.declarations).toText ++ ['\n'])) = .ok again := by
  have printable := Map.printable_ofDeclarations (printable_of_parse parsed) name
  obtain ⟨again, again_parsed, -⟩ :=
    printable.parse_toText (Graph.keyed_ofDeclarations document.declarations)
  have no_return := not_mem_toText parsed (not_mem_unifyNewlines text) (by decide) name
  refine ⟨again, ?_⟩
  rw [unifyNewlines_eq_self (by simp [no_return])]
  exact parse_append_newline again_parsed

end ConceptMap
