import ConceptMap.Map.Written
import ConceptMap.Proofs.Document.Grammar

/-!
# Written declarations

Declarations are written without any escapes: a line for each predicate, and a block for each
definition.  Printable declarations are found again in the document that is written for them, and
what a document declares is printable; so documents declare just what is printable.
-/

namespace ConceptMap

open Text Document

/-- The predicate can be written on a line: a target with a colon at its end would open a
definition. -/
structure Predicate.Printable (predicate : Predicate) : Prop where
  wellFormed : predicate.WellFormed
  no_colon : ¬ [':'] <:+ predicate.target

/-- The definition can be written as a block: its concept fits on the line that opens it, and no
line of its text ends it. -/
structure Definition.Printable (definition : Definition) : Prop where
  concept_nonempty : definition.concept ≠ []
  concept_trimmed : IsTrimmed definition.concept
  concept_one_line : '\n' ∉ definition.concept
  text_trimmed : IsTrimmed definition.text
  text_open : ∀ line ∈ splitLines definition.text, trim line ≠ Statement.terminator

instance (predicate : Predicate) : Decidable predicate.Printable :=
  decidable_of_iff (predicate.WellFormed ∧ ¬ [':'] <:+ predicate.target)
    ⟨fun ⟨wellFormed, no_colon⟩ => ⟨wellFormed, no_colon⟩,
      fun ⟨wellFormed, no_colon⟩ => ⟨wellFormed, no_colon⟩⟩

instance (definition : Definition) : Decidable definition.Printable :=
  decidable_of_iff
    (definition.concept ≠ [] ∧ IsTrimmed definition.concept ∧ '\n' ∉ definition.concept ∧
      IsTrimmed definition.text ∧
      ∀ line ∈ splitLines definition.text, trim line ≠ Statement.terminator)
    ⟨fun ⟨nonempty, trimmed, one_line, text_trimmed, text_open⟩ =>
        ⟨nonempty, trimmed, one_line, text_trimmed, text_open⟩,
      fun ⟨nonempty, trimmed, one_line, text_trimmed, text_open⟩ =>
        ⟨nonempty, trimmed, one_line, text_trimmed, text_open⟩⟩

namespace Declarations

/-- The declarations can be written, and nothing is declared twice. -/
structure Printable (declarations : Declarations) : Prop where
  predicates : ∀ predicate ∈ declarations.predicates, predicate.Printable
  definitions : ∀ definition ∈ declarations.definitions, definition.Printable
  predicates_distinct : declarations.predicates.Nodup
  concepts_distinct : (declarations.definitions.map (·.concept)).Nodup

/-- The lines of a document for declarations: the predicates, an empty line if there are any, and
the definitions. -/
def lines (declarations : Declarations) : List Text :=
  declarations.predicates.map Predicate.render ++
    (if declarations.predicates.isEmpty then [] else [[]]) ++
      declarations.definitions.flatMap Definition.lines

end Declarations

/-! ## What is written is read again -/

theorem Predicate.Printable.no_colon_render {predicate : Predicate}
    (printable : predicate.Printable) : ¬ [':'] <:+ predicate.render := by
  have target_ends := printable.no_colon
  rw [List.singleton_suffix_iff_getLast?_eq_some] at target_ends ⊢
  rwa [Predicate.getLast?_render printable.wellFormed.target.ne_nil]

theorem exists_item_of_predicate {predicate : Predicate} (printable : predicate.Printable) :
    ∃ item : Item, item.lines = [predicate.render] ∧
      item.statement? = some (.relates predicate) := by
  have trim_eq : trim predicate.render = predicate.render := printable.wellFormed.isTrimmed_render
  have nonempty : trim predicate.render ≠ [] := by
    rw [trim_eq]
    simp [Predicate.render]
  have no_colon : ¬ [':'] <:+ trim predicate.render := by
    rw [trim_eq]
    exact printable.no_colon_render
  have states : Predicate.States (trim predicate.render) predicate := by
    rw [trim_eq]
    exact printable.wellFormed.states_render
  exact ⟨.relates predicate.render predicate nonempty no_colon states, rfl, rfl⟩

theorem exists_items_of_predicates {predicates : List Predicate}
    (printable : ∀ predicate ∈ predicates, predicate.Printable) :
    ∃ items : List Item, items.flatMap Item.lines = predicates.map Predicate.render ∧
      items.filterMap Item.predicate? = predicates ∧ items.filterMap Item.definition? = [] := by
  induction predicates with
  | nil => exact ⟨[], rfl, rfl, rfl⟩
  | cons predicate rest ih =>
      obtain ⟨item, item_lines, item_states⟩ :=
        exists_item_of_predicate (printable predicate List.mem_cons_self)
      obtain ⟨items, lines_eq, predicates_eq, definitions_eq⟩ :=
        ih fun other found => printable other (List.mem_cons_of_mem _ found)
      refine ⟨item :: items, by simp [item_lines, lines_eq], ?_, ?_⟩
      · rw [List.filterMap_cons_some (Item.predicate?_eq item_states), predicates_eq]
      · rw [List.filterMap_cons_none (Item.definition?_eq item_states), definitions_eq]

theorem splitLines_definition {definition : Definition}
    (one_line : '\n' ∉ definition.concept) :
    definition.lines.flatMap splitLines =
      (definition.concept ++ [':']) :: splitLines definition.text ++
        [Statement.terminator] ++ [[]] := by
  have header_free : '\n' ∉ definition.concept ++ [':'] := by simp [one_line]
  have header_eq : splitLines (definition.concept ++ [':']) = [definition.concept ++ [':']] :=
    splitLines_of_not_mem header_free
  have terminator_eq : splitLines Statement.terminator = [Statement.terminator] := by decide
  simp [Definition.lines, header_eq, terminator_eq]

theorem exists_item_of_definition {definition : Definition} (printable : definition.Printable) :
    ∃ item : Item,
      item.lines = (definition.concept ++ [':']) :: splitLines definition.text ++
        [Statement.terminator] ∧
      item.statement? = some (.defines definition) := by
  obtain ⟨concept, text⟩ := definition
  obtain ⟨concept_nonempty, concept_trimmed, -, text_trimmed, text_open⟩ := printable
  have header_trimmed : IsTrimmed (concept ++ [] ++ [':']) :=
    isTrimmed_append concept_nonempty (by simp) concept_trimmed (by decide) []
  rw [List.append_nil] at header_trimmed
  have opens : Opens (concept ++ [':']) concept := ⟨concept, header_trimmed, concept_trimmed⟩
  refine ⟨.block (concept ++ [':']) concept (splitLines text) Statement.terminator opens
    concept_nonempty text_open (by decide), rfl, ?_⟩
  rw [Item.statement?, joinLines_splitLines, text_trimmed]

theorem exists_items_of_definitions {definitions : List Definition}
    (printable : ∀ definition ∈ definitions, definition.Printable) :
    ∃ items : List Item,
      items.flatMap Item.lines = (definitions.flatMap Definition.lines).flatMap splitLines ∧
      items.filterMap Item.predicate? = [] ∧ items.filterMap Item.definition? = definitions := by
  induction definitions with
  | nil => exact ⟨[], rfl, rfl, rfl⟩
  | cons definition rest ih =>
      have first := printable definition List.mem_cons_self
      obtain ⟨item, item_lines, item_defines⟩ := exists_item_of_definition first
      obtain ⟨items, lines_eq, predicates_eq, definitions_eq⟩ :=
        ih fun other found => printable other (List.mem_cons_of_mem _ found)
      refine ⟨item :: .gap :: items, ?_, ?_, ?_⟩
      · rw [List.flatMap_cons, List.flatMap_cons, item_lines, lines_eq, List.flatMap_cons,
          List.flatMap_append, splitLines_definition first.concept_one_line]
        simp [Item.lines, Item.gap]
      · rw [List.filterMap_cons_none (Item.predicate?_eq item_defines)]
        exact predicates_eq
      · rw [List.filterMap_cons_some (Item.definition?_eq item_defines)]
        exact congrArg (definition :: ·) definitions_eq

theorem exists_items_of_gap (predicates : List Predicate) :
    ∃ items : List Item,
      items.flatMap Item.lines = (if predicates.isEmpty then [] else [[]]) ∧
      items.filterMap Item.predicate? = [] ∧ items.filterMap Item.definition? = [] := by
  split
  next => exact ⟨[], rfl, rfl, rfl⟩
  next => exact ⟨[.gap], rfl, rfl, rfl⟩

namespace Declarations

variable {declarations : Declarations}

/-- The lines that are written for printable declarations are those of items. -/
theorem Printable.exists_items (printable : declarations.Printable) :
    ∃ items : List Item, items.flatMap Item.lines = declarations.lines.flatMap splitLines ∧
      items.filterMap Item.predicate? = declarations.predicates ∧
      items.filterMap Item.definition? = declarations.definitions := by
  obtain ⟨stated, stated_lines, stated_predicates, stated_definitions⟩ :=
    exists_items_of_predicates printable.predicates
  obtain ⟨gap, gap_lines, gap_predicates, gap_definitions⟩ :=
    exists_items_of_gap declarations.predicates
  obtain ⟨defined, defined_lines, defined_predicates, defined_definitions⟩ :=
    exists_items_of_definitions printable.definitions
  have rendered_lines : (declarations.predicates.map Predicate.render).flatMap splitLines =
      declarations.predicates.map Predicate.render := by
    rw [List.flatMap_map]
    calc
      declarations.predicates.flatMap (fun predicate => splitLines predicate.render) =
          declarations.predicates.flatMap fun predicate => [predicate.render] :=
        List.flatMap_congr fun predicate found =>
          splitLines_of_not_mem (printable.predicates predicate found).wellFormed.not_mem_render
      _ = declarations.predicates.map Predicate.render := List.flatMap_pure_eq_map _ _
  have gap_split : (if declarations.predicates.isEmpty then ([] : List Text) else [[]]).flatMap
      splitLines = if declarations.predicates.isEmpty then [] else [[]] := by
    split <;> rfl
  refine ⟨stated ++ gap ++ defined, ?_, ?_, ?_⟩
  · rw [lines, List.flatMap_append, List.flatMap_append, List.flatMap_append,
      List.flatMap_append, stated_lines, gap_lines, defined_lines, rendered_lines, gap_split]
  · simp [stated_predicates, gap_predicates, defined_predicates]
  · simp [stated_definitions, gap_definitions, defined_definitions]

/-- Printable declarations are read from the document that is written for them, with or without
blanks at its end. -/
theorem Printable.parse (printable : declarations.Printable) :
    ∃ document, Document.parse (trimEnd (joinLines declarations.lines)) = .ok document ∧
      document.declarations = declarations := by
  obtain ⟨items, lines_eq, predicates_eq, definitions_eq⟩ := printable.exists_items
  have concepts_eq : items.filterMap Item.concept? =
      declarations.definitions.map (·.concept) := by
    rw [← definitions_eq, List.map_filterMap]
    rfl
  have distinct : (items.filterMap Item.concept?).Nodup := by
    rw [concepts_eq]
    exact printable.concepts_distinct
  have declared_eq : declared items = declarations := by
    rw [declared, predicates_eq, definitions_eq, firstOccurrences_eq_self]
    simpa using printable.predicates_distinct
  by_cases empty : declarations.lines = []
  · -- for no declarations the empty document is written, whose only line is blank
    have items_eq : items = [] := by
      rw [empty] at lines_eq
      cases items with
      | nil => rfl
      | cons item rest => simp [item.lines_ne_nil] at lines_eq
    subst items_eq
    rw [empty]
    have gap_lines : [Item.gap].flatMap Item.lines = splitLines [] := rfl
    exact ⟨_, parse_of_items gap_lines List.nodup_nil,
      (declarations_ofStatements_numbered 1 [.gap]).trans declared_eq⟩
  · rw [← splitLines_joinLines empty] at lines_eq
    exact ⟨_, parse_trimEnd (parse_of_items lines_eq distinct),
      (declarations_ofStatements_numbered 1 items).trans declared_eq⟩

end Declarations

/-! ## What is read can be written -/

theorem Document.Item.printable_predicate {item : Item} {predicate : Predicate}
    (one_line : ∀ line ∈ item.lines, '\n' ∉ line) (states : item.predicate? = some predicate) :
    predicate.Printable := by
  cases item with
  | blank => simp [Item.predicate?, Item.statement?] at states
  | block => simp [Item.predicate?, Item.statement?, Statement.predicate?] at states
  | relates line stated nonempty no_colon line_states =>
      obtain rfl : stated = predicate := Option.some.inj states
      have line_free : '\n' ∉ trim line := mt mem_of_mem_trim (one_line line (by simp [Item.lines]))
      refine ⟨line_states.wellFormed line_free, ?_⟩
      rw [List.singleton_suffix_iff_getLast?_eq_some] at no_colon ⊢
      rwa [line_states.getLast?_target (isTrimmed_trim line)]

/-- Trimming the text of a block does not make a terminator of any of its lines. -/
theorem trim_ne_terminator_of_body {body : List Text}
    (one_line : ∀ line ∈ body, '\n' ∉ line)
    (body_open : ∀ line ∈ body, trim line ≠ Statement.terminator) :
    ∀ line ∈ splitLines (trim (joinLines body)), trim line ≠ Statement.terminator := by
  intro line found
  obtain ⟨wider, wider_found, trim_eq⟩ := exists_mem_splitLines_of_trim found
  rw [← trim_eq]
  cases body with
  | nil =>
      obtain rfl : wider = [] := List.mem_singleton.1 wider_found
      decide
  | cons first rest =>
      rw [splitLines_joinLines_of_not_mem (List.cons_ne_nil _ _) one_line] at wider_found
      exact body_open wider wider_found

theorem Document.Item.printable_definition {item : Item} {definition : Definition}
    (one_line : ∀ line ∈ item.lines, '\n' ∉ line) (defines : item.definition? = some definition) :
    definition.Printable := by
  cases item with
  | blank => simp [Item.definition?, Item.statement?] at defines
  | relates => simp [Item.definition?, Item.statement?, Statement.definition?] at defines
  | block header concept body final opens nonempty body_open ends =>
      obtain rfl := Option.some.inj defines
      obtain ⟨name, header_eq, rfl⟩ := opens
      have header_free : '\n' ∉ trim header :=
        mt mem_of_mem_trim (one_line header (by simp [Item.lines]))
      have name_free : '\n' ∉ name := by
        rw [header_eq, List.mem_append, not_or] at header_free
        exact header_free.1
      exact
        { concept_nonempty := nonempty
          concept_trimmed := isTrimmed_trim name
          concept_one_line := mt mem_of_mem_trim name_free
          text_trimmed := isTrimmed_trim _
          text_open := trim_ne_terminator_of_body
            (fun line found => one_line line (by simp [Item.lines, found])) body_open }

/-- What a document declares is printable. -/
theorem Document.printable_of_parse {text : Text} {document : Document}
    (parsed : parse text = .ok document) : document.declarations.Printable := by
  obtain ⟨items, lines_eq, distinct, rfl⟩ := exists_items_of_parse parsed
  have one_line : ∀ item ∈ items, ∀ line ∈ item.lines, '\n' ∉ line := by
    intro item item_found line found
    have inside : line ∈ splitLines text := by
      rw [← lines_eq]
      exact List.mem_flatMap.2 ⟨item, item_found, found⟩
    exact not_mem_of_mem_splitLines inside
  rw [declarations_ofStatements_numbered]
  refine ⟨?_, ?_, nodup_firstOccurrences_id _, ?_⟩
  · intro predicate found
    rw [declared, mem_firstOccurrences_id] at found
    obtain ⟨item, item_found, states⟩ := List.mem_filterMap.1 found
    exact item.printable_predicate (one_line item item_found) states
  · intro definition found
    obtain ⟨item, item_found, defines⟩ := List.mem_filterMap.1 found
    exact item.printable_definition (one_line item item_found) defines
  · rw [declared, List.map_filterMap]
    exact distinct

/-- Just the printable declarations are those of documents.  Nothing else is asked of what a
document declares: predicates and concepts without repetitions, parts without tokens, concepts on
one line, and texts that no line of their own ends. -/
theorem Document.declares_iff_writable (predicates : List Predicate)
    (definitions : List Definition) :
    (∃ text document, parse text = .ok document ∧
        document.declarations = ⟨predicates, definitions⟩) ↔
      (predicates.Nodup ∧ ∀ predicate ∈ predicates, ¬ [':'] <:+ predicate.target ∧
        ∀ part ∈ [predicate.source, predicate.relationship, predicate.target],
          part ≠ [] ∧ trim part = part ∧ '\n' ∉ part ∧
            ¬ Predicate.dashes <:+: part ∧ ¬ Predicate.arrow <:+: part) ∧
      (definitions.map (·.concept)).Nodup ∧ ∀ definition ∈ definitions,
        (definition.concept ≠ [] ∧ trim definition.concept = definition.concept ∧
          '\n' ∉ definition.concept) ∧
        trim definition.text = definition.text ∧
          ∀ line ∈ splitLines definition.text, trim line ≠ Statement.terminator := by
  simp only [← Predicate.isPart_iff]
  constructor
  · rintro ⟨text, document, parsed, declares⟩
    have printable : Declarations.Printable ⟨predicates, definitions⟩ :=
      declares ▸ printable_of_parse parsed
    refine ⟨⟨printable.predicates_distinct, ?_⟩, printable.concepts_distinct, ?_⟩
    · intro predicate found
      obtain ⟨⟨source, relationship, target⟩, no_colon⟩ := printable.predicates predicate found
      exact ⟨no_colon, by simp [source, relationship, target]⟩
    · intro definition found
      obtain ⟨nonempty, trimmed, one_line, text_trimmed, text_open⟩ :=
        printable.definitions definition found
      exact ⟨⟨nonempty, trimmed, one_line⟩, text_trimmed, text_open⟩
  · rintro ⟨⟨predicates_distinct, writable⟩, concepts_distinct, definable⟩
    have printable : Declarations.Printable ⟨predicates, definitions⟩ := by
      refine ⟨?_, ?_, predicates_distinct, concepts_distinct⟩
      · intro predicate found
        obtain ⟨no_colon, parts⟩ := writable predicate found
        exact ⟨⟨parts _ (by simp), parts _ (by simp), parts _ (by simp)⟩, no_colon⟩
      · intro definition found
        obtain ⟨⟨nonempty, trimmed, one_line⟩, text_trimmed, text_open⟩ :=
          definable definition found
        exact ⟨nonempty, trimmed, one_line, text_trimmed, text_open⟩
    obtain ⟨document, parsed, declares⟩ := printable.parse
    exact ⟨_, document, parsed, declares⟩

end ConceptMap
