import Mathlib.Data.List.Nodup
import Mathlib.Order.Bounds.Basic
import ConceptMap.Proofs.Document.Fault

/-!
# Warnings

A document that is accepted is warned about with the lines of its text.  Predicates are kept once
and concepts are related once, each at its first line; since statements are numbered in ascending
order, that is the smallest line of all statements, repeated ones included.
-/

namespace ConceptMap

/-- The predicate has the concept for its source or its target. -/
def Predicate.Mentions (predicate : Predicate) (concept : Text) : Prop :=
  predicate.source = concept ∨ predicate.target = concept

theorem nodup_filter_append_filter {α : Type} [BEq α] [LawfulBEq α] {left right : List α}
    (left_distinct : left.Nodup) (right_distinct : right.Nodup) :
    (left.filter (· ∉ right) ++ right.filter (· ∉ left)).Nodup := by
  rw [List.nodup_append]
  refine ⟨left_distinct.filter _, right_distinct.filter _, ?_⟩
  rintro member only_left _ only_right rfl
  rw [List.mem_filter, decide_eq_true_iff] at only_left only_right
  exact only_left.2 only_right.1

namespace Statement

variable {statement : Statement}

theorem predicate?_eq_some_iff {predicate : Predicate} :
    statement.predicate? = some predicate ↔ statement = .relates predicate := by
  cases statement <;> simp [predicate?]

theorem definition?_eq_some_iff {definition : Definition} :
    statement.definition? = some definition ↔ statement = .defines definition := by
  cases statement <;> simp [definition?]

end Statement

namespace Document

open Text Statement

/-- The text consists of items, and the one that begins on the line makes the statement. -/
def Says (text : Text) (line : Nat) (statement : Statement) : Prop :=
  ∃ front item rest, splitLines text = (front ++ item :: rest).flatMap Item.lines ∧
    line = (front.flatMap Item.lines).length + 1 ∧ item.statement? = some statement

/-! ## Numbered statements -/

theorem mem_numbered_iff {items : List Item} {start line : Nat} {statement : Statement} :
    ⟨line, statement⟩ ∈ numbered start items ↔
      ∃ front item rest, items = front ++ item :: rest ∧
        line = start + (front.flatMap Item.lines).length ∧ item.statement? = some statement := by
  induction items generalizing start with
  | nil => simp [numbered]
  | cons first others ih =>
      rw [numbered, List.mem_append, ih]
      constructor
      · rintro (here | ⟨front, item, rest, rfl, rfl, said⟩)
        · simp only [List.mem_map, Option.mem_toList, Numbered.mk.injEq] at here
          obtain ⟨_, said, rfl, rfl⟩ := here
          exact ⟨[], first, others, rfl, rfl, said⟩
        · refine ⟨first :: front, item, rest, rfl, ?_, said⟩
          rw [List.flatMap_cons, List.length_append, Nat.add_assoc]
      · rintro ⟨front, item, rest, items_eq, rfl, said⟩
        cases front with
        | nil =>
            obtain ⟨rfl, rfl⟩ := List.cons.inj items_eq
            exact .inl (by simp [said])
        | cons head front =>
            obtain ⟨rfl, rfl⟩ := List.cons.inj items_eq
            refine .inr ⟨front, item, rest, rfl, ?_, said⟩
            rw [List.flatMap_cons, List.length_append, Nat.add_assoc]

/-- Statements follow one another in the order of their numbers. -/
theorem pairwise_numbered (start : Nat) (items : List Item) :
    (numbered start items).Pairwise fun entry other => entry.line ≤ other.line := by
  induction items generalizing start with
  | nil => exact List.Pairwise.nil
  | cons item rest ih =>
      rw [numbered, List.pairwise_append]
      refine ⟨?_, ih _, ?_⟩
      · cases item.statement? <;> simp
      · intro entry here other later
        obtain ⟨_, _, rfl⟩ := List.mem_map.1 here
        obtain ⟨_, _, _, _, line_eq, _⟩ := mem_numbered_iff.1 later
        simp only [line_eq]
        omega

/-- Since the lines of a text determine its items, any items of the text show what it says. -/
theorem says_iff_mem_numbered {text : Text} {items : List Item}
    (lines_eq : items.flatMap Item.lines = splitLines text) {line : Nat} {statement : Statement} :
    Says text line statement ↔ ⟨line, statement⟩ ∈ numbered 1 items := by
  rw [mem_numbered_iff]
  constructor
  · rintro ⟨front, item, rest, text_eq, rfl, said⟩
    exact ⟨front, item, rest, items_unique (lines_eq.trans text_eq), Nat.add_comm .., said⟩
  · rintro ⟨front, item, rest, rfl, rfl, said⟩
    exact ⟨front, item, rest, lines_eq.symm, Nat.add_comm .., said⟩

/-! ## The lines of what is declared -/

theorem mem_filterMap_numbered_iff {α : Type} {read : Statement → Option α} {line : Nat}
    {content : α} {statements : List (Numbered Statement)} :
    ⟨line, content⟩ ∈ statements.filterMap (fun statement =>
        (read statement.content).map (Numbered.mk statement.line)) ↔
      ∃ statement, ⟨line, statement⟩ ∈ statements ∧ read statement = some content := by
  simp only [List.mem_filterMap, Option.map_eq_some_iff, Numbered.mk.injEq]
  constructor
  · rintro ⟨⟨_, statement⟩, found, _, kept, rfl, rfl⟩
    exact ⟨statement, found, kept⟩
  · rintro ⟨statement, found, kept⟩
    exact ⟨_, found, content, kept, rfl, rfl⟩

variable {text : Text} {document : Document} {line : Nat}

theorem mem_definitions_iff (parsed : parse text = .ok document) {definition : Definition} :
    ⟨line, definition⟩ ∈ document.definitions ↔ Says text line (.defines definition) := by
  obtain ⟨items, lines_eq, -, rfl⟩ := exists_items_of_parse parsed
  rw [says_iff_mem_numbered lines_eq, ofStatements, mem_filterMap_numbered_iff]
  simp only [definition?_eq_some_iff, exists_eq_right]

theorem pairwise_stated (start : Nat) (items : List Item) :
    ((numbered start items).filterMap fun statement =>
      statement.content.predicate?.map (Numbered.mk statement.line)).Pairwise
        fun entry other => entry.line ≤ other.line := by
  refine List.Pairwise.filterMap _ ?_ (pairwise_numbered start items)
  intro entry other before stated kept other_stated other_kept
  obtain ⟨_, _, rfl⟩ := Option.map_eq_some_iff.1 kept
  obtain ⟨_, _, rfl⟩ := Option.map_eq_some_iff.1 other_kept
  exact before

theorem says_of_mem_predicates (parsed : parse text = .ok document) {predicate : Predicate}
    (found : ⟨line, predicate⟩ ∈ document.predicates) : Says text line (.relates predicate) := by
  obtain ⟨items, lines_eq, -, rfl⟩ := exists_items_of_parse parsed
  have stated := mem_filterMap_numbered_iff.1 (mem_of_mem_firstOccurrences found)
  simp only [predicate?_eq_some_iff, exists_eq_right] at stated
  exact (says_iff_mem_numbered lines_eq).2 stated

/-- The predicates are kept in the order of their lines. -/
theorem pairwise_predicates (parsed : parse text = .ok document) :
    document.predicates.Pairwise fun entry other => entry.line ≤ other.line := by
  obtain ⟨items, -, -, rfl⟩ := exists_items_of_parse parsed
  exact (pairwise_stated 1 items).sublist (firstOccurrences_sublist _ _)

/-- A predicate is kept with the first line that states it. -/
theorem exists_mem_predicates_of_says (parsed : parse text = .ok document)
    {predicate : Predicate} (said : Says text line (.relates predicate)) :
    ∃ first ≤ line, ⟨first, predicate⟩ ∈ document.predicates := by
  obtain ⟨items, lines_eq, -, rfl⟩ := exists_items_of_parse parsed
  rw [says_iff_mem_numbered lines_eq] at said
  have stated := mem_filterMap_numbered_iff.2 ⟨_, said, predicate?_eq_some_iff.2 rfl⟩
  obtain ⟨⟨first, _⟩, found, rfl⟩ : ∃ kept ∈ (ofStatements (numbered 1 items)).predicates,
      kept.content = predicate := exists_mem_firstOccurrences stated
  exact ⟨first, le_of_mem_firstOccurrences (pairwise_stated 1 items) found stated rfl, found⟩

/-- The concepts of predicates, each with the line of its predicate. -/
theorem mem_flatMap_predicates_iff {concept : Text} :
    ⟨line, concept⟩ ∈ document.predicates.flatMap (fun predicate =>
        [(⟨predicate.line, predicate.content.source⟩ : Numbered Text),
          ⟨predicate.line, predicate.content.target⟩]) ↔
      ∃ predicate, ⟨line, predicate⟩ ∈ document.predicates ∧ predicate.Mentions concept := by
  simp only [List.mem_flatMap, List.mem_cons, Numbered.mk.injEq, List.not_mem_nil, or_false,
    ← and_or_left, Predicate.Mentions]
  constructor
  · rintro ⟨⟨_, predicate⟩, found, rfl, mentioned⟩
    exact ⟨predicate, found, mentioned.imp Eq.symm Eq.symm⟩
  · rintro ⟨predicate, found, mentioned⟩
    exact ⟨_, found, rfl, mentioned.imp Eq.symm Eq.symm⟩

theorem pairwise_flatMap_predicates (parsed : parse text = .ok document) :
    (document.predicates.flatMap fun predicate =>
      [(⟨predicate.line, predicate.content.source⟩ : Numbered Text),
        ⟨predicate.line, predicate.content.target⟩]).Pairwise
      fun entry other => entry.line ≤ other.line := by
  rw [List.pairwise_flatMap]
  refine ⟨fun predicate _ => by simp, (pairwise_predicates parsed).imp ?_⟩
  intro entry other before
  simp [before]

/-- A related concept is kept with the first line that relates it. -/
theorem isLeast_of_mem_references (parsed : parse text = .ok document) {concept : Text}
    (found : ⟨line, concept⟩ ∈ document.references) :
    IsLeast {line | ∃ predicate, Says text line (.relates predicate) ∧ predicate.Mentions concept}
      line := by
  constructor
  · obtain ⟨predicate, stated, mentioned⟩ :=
      mem_flatMap_predicates_iff.1 (mem_of_mem_firstOccurrences found)
    exact ⟨predicate, says_of_mem_predicates parsed stated, mentioned⟩
  · rintro other ⟨predicate, said, mentioned⟩
    obtain ⟨first, first_le, stated⟩ := exists_mem_predicates_of_says parsed said
    exact Nat.le_trans (le_of_mem_firstOccurrences (pairwise_flatMap_predicates parsed) found
      (mem_flatMap_predicates_iff.2 ⟨predicate, stated, mentioned⟩) rfl) first_le

theorem map_content_references (document : Document) :
    document.references.map (·.content) = document.declarations.concepts := by
  have mapped := map_firstOccurrences (fun reference : Numbered Text => reference.content) id
    (document.predicates.flatMap fun predicate =>
      [⟨predicate.line, predicate.content.source⟩, ⟨predicate.line, predicate.content.target⟩])
  rw [List.map_flatMap] at mapped
  simp only [id, List.map_cons, List.map_nil] at mapped
  rw [references, mapped, Declarations.concepts, declarations, List.flatMap_map]

/-- The defined concepts, each with the line that opens its definition. -/
def headers (document : Document) : List (Numbered Text) :=
  document.definitions.map fun definition => ⟨definition.line, definition.content.concept⟩

theorem map_content_headers (document : Document) :
    document.headers.map (·.content) = document.declarations.definitions.map (·.concept) := by
  rw [headers, declarations, List.map_map, List.map_map]
  rfl

theorem mem_headers_iff (parsed : parse text = .ok document) {concept : Text} :
    ⟨line, concept⟩ ∈ document.headers ↔
      ∃ definition, Says text line (.defines definition) ∧ definition.concept = concept := by
  simp only [headers, List.mem_map, Numbered.mk.injEq, ← mem_definitions_iff parsed]
  constructor
  · rintro ⟨⟨_, definition⟩, found, rfl, rfl⟩
    exact ⟨definition, found, rfl⟩
  · rintro ⟨definition, found, rfl⟩
    exact ⟨_, found, rfl, rfl⟩

/-- No concept has two headers. -/
theorem nodup_headers (parsed : parse text = .ok document) :
    (document.headers.map (·.content)).Nodup := by
  obtain ⟨items, -, distinct, rfl⟩ := exists_items_of_parse parsed
  rw [map_content_headers, declarations_ofStatements_numbered, declared, List.map_filterMap]
  exact distinct

/-- The header of a concept is its only one. -/
theorem eq_line_iff_of_mem_headers (parsed : parse text = .ok document) {header : Numbered Text}
    (found : header ∈ document.headers) :
    line = header.line ↔
      ∃ definition, Says text line (.defines definition) ∧ definition.concept = header.content := by
  rw [← mem_headers_iff parsed]
  constructor
  · rintro rfl
    exact found
  · intro other_found
    have same := List.inj_on_of_nodup_map (nodup_headers parsed) other_found found rfl
    exact congrArg Numbered.line same

theorem orphans_eq (document : Document) :
    document.orphans =
      (document.headers.filter fun header => header.content ∉ document.declarations.concepts).map
        fun header => ⟨header.line, .orphanedDefinition, header.content⟩ := by
  rw [orphans, headers, List.filter_map, List.map_map, ← map_content_references]
  congr 1
  apply List.filter_congr
  intro definition _
  rw [Bool.eq_iff_iff]
  simp

theorem undefined_eq (document : Document) :
    document.undefined =
      (document.references.filter fun reference =>
          reference.content ∉ document.declarations.definitions.map (·.concept)).map
        fun reference => ⟨reference.line, .missingDefinition, reference.content⟩ := by
  rw [undefined, declarations]
  congr 1
  apply List.filter_congr
  intro reference _
  rw [Bool.eq_iff_iff]
  simp

/-- There are no orphans exactly when all defined concepts are related. -/
theorem orphans_eq_nil_iff (document : Document) :
    document.orphans = [] ↔
      ∀ concept ∈ document.declarations.definitions.map (·.concept),
        concept ∈ document.declarations.concepts := by
  rw [orphans_eq, List.map_eq_nil_iff, List.filter_eq_nil_iff, ← map_content_headers,
    List.forall_mem_map]
  simp

/-- Nothing is missing exactly when all related concepts are defined. -/
theorem undefined_eq_nil_iff (document : Document) :
    document.undefined = [] ↔
      ∀ concept ∈ document.declarations.concepts,
        concept ∈ document.declarations.definitions.map (·.concept) := by
  rw [undefined_eq, List.map_eq_nil_iff, List.filter_eq_nil_iff, ← map_content_references,
    List.forall_mem_map]
  simp

theorem mem_map_concept_iff (parsed : parse text = .ok document) {concept : Text} :
    concept ∈ document.declarations.definitions.map (·.concept) ↔
      ∃ line definition, Says text line (.defines definition) ∧ definition.concept = concept := by
  simp only [← mem_headers_iff parsed, ← map_content_headers, List.mem_map]
  constructor
  · rintro ⟨header, found, rfl⟩
    exact ⟨header.line, found⟩
  · rintro ⟨line, found⟩
    exact ⟨⟨line, concept⟩, found, rfl⟩

theorem mem_concepts_iff (parsed : parse text = .ok document) {concept : Text} :
    concept ∈ document.declarations.concepts ↔
      ∃ line predicate, Says text line (.relates predicate) ∧ predicate.Mentions concept := by
  rw [← map_content_references]
  constructor
  · intro related
    obtain ⟨⟨line, _⟩, found, rfl⟩ := List.mem_map.1 related
    exact ⟨line, (isLeast_of_mem_references parsed found).1⟩
  · rintro ⟨line, predicate, said, mentioned⟩
    obtain ⟨first, _, stated⟩ := exists_mem_predicates_of_says parsed said
    have found := mem_flatMap_predicates_iff.2 ⟨predicate, stated, mentioned⟩
    exact mem_map_firstOccurrences.2 (List.mem_map_of_mem (f := (·.content)) found)

/-- The warnings about an accepted document.  First come the concepts that are defined but not
related, in the order of their definitions, each with the line of its header, and then those that
are related but not defined, in the order in which the predicates first relate them, each with the
smallest line that relates it.  So there are no warnings exactly when the concepts that are defined
are those that are related. -/
theorem warnings_exact {text : Text} (accepted : (report text).errors = []) :
    ∃ orphaned missing : List (Numbered Text),
      (report text).warnings =
        orphaned.map (fun concept =>
            Warning.remark ⟨concept.line, .orphanedDefinition, concept.content⟩) ++
          missing.map (fun concept =>
            Warning.remark ⟨concept.line, .missingDefinition, concept.content⟩) ∧
      orphaned.map (·.content) =
        ((report text).declarations.definitions.map (·.concept)).filter
          (· ∉ (report text).declarations.concepts) ∧
      (∀ concept ∈ orphaned, ∀ line, line = concept.line ↔
        ∃ definition, Says text line (.defines definition) ∧
          definition.concept = concept.content) ∧
      missing.map (·.content) =
        (report text).declarations.concepts.filter
          (· ∉ (report text).declarations.definitions.map (·.concept)) ∧
      (∀ concept ∈ missing,
        IsLeast
          {line | ∃ predicate, Says text line (.relates predicate) ∧
            predicate.Mentions concept.content}
          concept.line) ∧
      ((orphaned ++ missing).map (·.content)).Nodup ∧
      ((report text).warnings = [] ↔
        {concept | ∃ line definition, Says text line (.defines definition) ∧
            definition.concept = concept} =
          {concept | ∃ line predicate, Says text line (.relates predicate) ∧
            predicate.Mentions concept}) := by
  cases parsed : parse text with
  | error fault => simp [report_of_error parsed] at accepted
  | ok document =>
      rw [report_of_ok parsed]
      have orphaned_eq : (document.headers.filter
            (·.content ∉ document.declarations.concepts)).map (·.content) =
          (document.declarations.definitions.map (·.concept)).filter
            (· ∉ document.declarations.concepts) := by
        rw [← map_content_headers, List.filter_map]
        rfl
      have missing_eq : (document.references.filter
            (·.content ∉ document.declarations.definitions.map (·.concept))).map (·.content) =
          document.declarations.concepts.filter
            (· ∉ document.declarations.definitions.map (·.concept)) := by
        rw [← map_content_references, List.filter_map]
        rfl
      refine ⟨_, _, ?_, orphaned_eq, ?_, missing_eq, ?_, ?_, ?_⟩
      · simp only [warnings, orphans_eq, undefined_eq, List.map_append, List.map_map,
          Function.comp_def]
      · intro concept found line
        exact eq_line_iff_of_mem_headers parsed (List.mem_of_mem_filter found)
      · intro concept found
        exact isLeast_of_mem_references parsed (List.mem_of_mem_filter found)
      · rw [List.map_append, orphaned_eq, missing_eq]
        apply nodup_filter_append_filter
        · exact map_content_headers document ▸ nodup_headers parsed
        · exact nodup_firstOccurrences_id _
      · rw [List.map_eq_nil_iff, warnings, List.append_eq_nil_iff, orphans_eq_nil_iff,
          undefined_eq_nil_iff, Set.ext_iff]
        simp only [Set.mem_ofPred_eq, ← mem_map_concept_iff parsed, ← mem_concepts_iff parsed]
        exact forall_and.symm.trans (forall_congr' fun concept => iff_def.symm)

/-- An orphaned definition in front of two missing ones; the second predicate is repeated. -/
theorem warnings_exact_of_repeated :
    let text : Text := "z:\nold\n---\na -- above -> c\na -- above -> b\na -- above -> b\na:\n---"
    (report text).errors = [] ∧ (report text).warnings.map (·.line) = [1, 4, 5] ∧
      ∃ missing : List (Numbered Text), missing.map (·.content) = ["c", "b"] ∧
        ∀ concept ∈ missing,
          IsLeast
            {line | ∃ predicate, Says text line (.relates predicate) ∧
              predicate.Mentions concept.content}
            concept.line := by
  intro text
  have accepted : (report text).errors = [] := by decide
  obtain ⟨_, missing, -, -, -, missing_eq, least, -, -⟩ := warnings_exact accepted
  exact ⟨accepted, by decide, missing, missing_eq.trans (by decide), least⟩

end Document
end ConceptMap
