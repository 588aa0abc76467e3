import ConceptMap.Proofs.Document.Reading
import ConceptMap.Proofs.FirstOccurrence
import ConceptMap.Proofs.Predicate

/-!
# The grammar of documents

A document is a sequence of items: blank lines, lines that state a predicate, and blocks that
define a concept.  The lines of a document determine its items, and a document is accepted exactly
when its lines are those of some items that define no concept twice.
-/

namespace ConceptMap
namespace Document

open Text Statement

/-- The trimmed line is a name with a colon behind it, and the name, once trimmed, is the
concept. -/
def Opens (line concept : Text) : Prop := ∃ name, trim line = name ++ [':'] ∧ trim name = concept

theorem Opens.unique {line concept other : Text} (left : Opens line concept)
    (right : Opens line other) : concept = other := by
  obtain ⟨name, left_eq, rfl⟩ := left
  obtain ⟨other_name, right_eq, rfl⟩ := right
  rw [left_eq] at right_eq
  rw [List.append_cancel_right right_eq]

theorem Opens.suffix {line concept : Text} (opens : Opens line concept) :
    [':'] <:+ trim line := by
  obtain ⟨name, line_eq, _⟩ := opens
  exact ⟨name, line_eq.symm⟩

theorem Opens.trim_ne_nil {line concept : Text} (opens : Opens line concept) : trim line ≠ [] := by
  obtain ⟨name, line_eq, _⟩ := opens
  simp [line_eq]

/-- A piece of a document. -/
inductive Item where
  /-- A line that separates. -/
  | blank (line : Text) (empty : trim line = [])
  /-- A line that states a predicate and does not end with a colon. -/
  | relates (line : Text) (predicate : Predicate) (nonempty : trim line ≠ [])
      (no_colon : ¬ [':'] <:+ trim line) (states : Predicate.States (trim line) predicate)
  /-- A definition: the line that opens it, the lines up to the first terminator, and that. -/
  | block (header concept : Text) (body : List Text) (final : Text)
      (opens : Opens header concept) (nonempty : concept ≠ [])
      (body_open : ∀ line ∈ body, trim line ≠ terminator) (ends : trim final = terminator)

namespace Item

/-- The lines of an item. -/
def lines : Item → List Text
  | .blank line _ => [line]
  | .relates line _ _ _ _ => [line]
  | .block header _ body final _ _ _ _ => header :: body ++ [final]

theorem lines_ne_nil (item : Item) : item.lines ≠ [] := by
  cases item <;> simp [lines]

/-- What an item says, if it says something. -/
def statement? : Item → Option Statement
  | .blank _ _ => none
  | .relates _ predicate _ _ _ => some (.relates predicate)
  | .block _ concept body _ _ _ _ _ => some (.defines ⟨concept, trim (joinLines body)⟩)

/-- The predicate that an item states. -/
def predicate? (item : Item) : Option Predicate := item.statement?.bind Statement.predicate?

/-- The definition that an item is. -/
def definition? (item : Item) : Option Definition := item.statement?.bind Statement.definition?

/-- The concept that an item defines. -/
def concept? (item : Item) : Option Text := item.definition?.map (·.concept)

theorem predicate?_eq {item : Item} {statement : Statement}
    (said : item.statement? = some statement) : item.predicate? = statement.predicate? := by
  rw [predicate?, said, Option.bind_some]

theorem definition?_eq {item : Item} {statement : Statement}
    (said : item.statement? = some statement) : item.definition? = statement.definition? := by
  rw [definition?, said, Option.bind_some]

@[simp]
theorem concept?_blank {line : Text} (empty : trim line = []) :
    (blank line empty).concept? = none := rfl

@[simp]
theorem concept?_relates {line : Text} {predicate : Predicate} (nonempty : trim line ≠ [])
    (no_colon : ¬ [':'] <:+ trim line) (states : Predicate.States (trim line) predicate) :
    (relates line predicate nonempty no_colon states).concept? = none := rfl

@[simp]
theorem concept?_block {header concept final : Text} {body : List Text}
    (opens : Opens header concept) (nonempty : concept ≠ [])
    (body_open : ∀ line ∈ body, trim line ≠ terminator) (ends : trim final = terminator) :
    (block header concept body final opens nonempty body_open ends).concept? = some concept := rfl

theorem filterMap_concept?_cons (item : Item) (items : List Item) :
    (item :: items).filterMap concept? = item.concept?.toList ++ items.filterMap concept? := by
  cases found : item.concept? <;> simp [found]

/-- The empty line. -/
def gap : Item := .blank [] trim_nil

end Item

/-- The statements of items, each with the number of its first line. -/
def numbered (line : Nat) : List Item → List (Numbered Statement)
  | [] => []
  | item :: rest =>
      item.statement?.toList.map (⟨line, ·⟩) ++ numbered (line + item.lines.length) rest

theorem filterMap_numbered {α : Type} (read : Statement → Option α) (line : Nat)
    (items : List Item) :
    (numbered line items).filterMap (fun statement => read statement.content) =
      items.filterMap fun item => item.statement?.bind read := by
  induction items generalizing line with
  | nil => rfl
  | cons item rest ih =>
      rw [numbered, List.filterMap_append, ih, List.filterMap_cons]
      cases said : item.statement? with
      | none => rfl
      | some statement => cases kept : read statement <;> simp [kept]

/-! ## Items are read -/

theorem headerConcept?_eq_some_iff {line concept : Text} :
    headerConcept? line = some concept ↔ Opens line concept := by
  constructor
  · intro found
    rw [headerConcept?] at found
    split at found
    next name reversed =>
      rw [List.reverse_eq_cons_iff] at reversed
      exact ⟨name.reverse, reversed, Option.some.inj found⟩
    next => simp at found
  · rintro ⟨name, ends, rfl⟩
    simp [headerConcept?, ends]

theorem headerConcept?_eq_none {line : Text} (no_colon : ¬ [':'] <:+ trim line) :
    headerConcept? line = none := by
  cases found : headerConcept? line with
  | none => rfl
  | some concept => exact absurd (headerConcept?_eq_some_iff.1 found).suffix no_colon

/-- A body is collected line by line. -/
theorem reads_body {body : List Text} (body_open : ∀ line ∈ body, trim line ≠ terminator)
    (line : Nat) (defined : List Text) (block : OpenBlock) :
    Reads ⟨line, defined, some block⟩ body []
      ⟨line + body.length, defined, some { block with body := block.body ++ body }⟩ := by
  induction body generalizing line block with
  | nil => simpa using Reads.nil ⟨line, defined, some block⟩
  | cons first rest ih =>
      have step : Scanner.read ⟨line, defined, some block⟩ first =
          .ok (⟨line + 1, defined, some { block with body := block.body ++ [first] }⟩, none) := by
        simp [Scanner.read, Scanner.readInside, body_open first List.mem_cons_self]
      have later := ih (fun other found => body_open other (List.mem_cons_of_mem _ found))
        (line + 1) { block with body := block.body ++ [first] }
      simpa [Nat.add_assoc, Nat.add_comm, Nat.add_left_comm] using Reads.cons step later

/-- An item is read as what it says, unless its concept has been defined before. -/
theorem Item.reads (item : Item) (line : Nat) (defined : List Text)
    (one_line : ∀ line ∈ item.lines, '\n' ∉ line)
    (fresh : ∀ concept ∈ item.concept?, concept ∉ defined) :
    Reads ⟨line, defined, none⟩ item.lines (item.statement?.toList.map (⟨line, ·⟩))
      ⟨line + item.lines.length, item.concept?.toList ++ defined, none⟩ := by
  cases item with
  | blank content empty =>
      have step : Scanner.read ⟨line, defined, none⟩ content =
          .ok (⟨line + 1, defined, none⟩, none) := by
        simp [Scanner.read, Scanner.readOutside, empty]
      exact .cons step (.nil _)
  | relates content predicate nonempty no_colon states =>
      have parsed : Predicate.parse (trim content) = .ok predicate :=
        Predicate.parse_eq_ok_iff.2
          ⟨mt mem_of_mem_trim (one_line content (by simp [lines])), states⟩
      have step : Scanner.read ⟨line, defined, none⟩ content =
          .ok (⟨line + 1, defined, none⟩, some ⟨line, .relates predicate⟩) := by
        simp [Scanner.read, Scanner.readOutside, nonempty, headerConcept?_eq_none no_colon, parsed]
      exact .cons step (.nil _)
  | block header concept body final opens nonempty body_open ends =>
      have fresh_concept : concept ∉ defined := fresh concept rfl
      have opening : Scanner.read ⟨line, defined, none⟩ header =
          .ok (⟨line + 1, defined, some ⟨line, concept, []⟩⟩, none) := by
        simp [Scanner.read, Scanner.readOutside, headerConcept?_eq_some_iff.2 opens,
          opens.trim_ne_nil, nonempty, fresh_concept]
      have closing : Scanner.read
          ⟨line + 1 + body.length, defined, some ⟨line, concept, [] ++ body⟩⟩ final =
          .ok (⟨line + 1 + body.length + 1, concept :: defined, none⟩,
            some ⟨line, .defines ⟨concept, trim (joinLines body)⟩⟩) := by
        simp [Scanner.read, Scanner.readInside, ends, OpenBlock.close]
      have inside := reads_body body_open (line + 1) defined ⟨line, concept, []⟩
      have whole := Reads.cons opening (inside.append (.cons closing (.nil _)))
      simpa [lines, statement?, Nat.add_assoc, Nat.add_comm, Nat.add_left_comm] using whole

/-- Items are read one after another, as long as no concept is defined twice. -/
theorem reads_items {items : List Item} (line : Nat) (defined : List Text)
    (one_line : ∀ line ∈ items.flatMap Item.lines, '\n' ∉ line)
    (fresh : ∀ concept ∈ items.filterMap Item.concept?, concept ∉ defined)
    (distinct : (items.filterMap Item.concept?).Nodup) :
    ∃ last, Reads ⟨line, defined, none⟩ (items.flatMap Item.lines) (numbered line items) last ∧
      last.block = none := by
  induction items generalizing line defined with
  | nil => exact ⟨_, .nil _, rfl⟩
  | cons item rest ih =>
      rw [List.flatMap_cons] at one_line ⊢
      rw [Item.filterMap_concept?_cons] at fresh distinct
      obtain ⟨_, rest_distinct, apart⟩ := List.nodup_append.1 distinct
      have first := item.reads line defined
        (fun content found => one_line content (List.mem_append_left _ found))
        (fun concept found => fresh concept (List.mem_append_left _ (by simpa using found)))
      obtain ⟨last, later, closed⟩ := ih (line + item.lines.length)
        (item.concept?.toList ++ defined)
        (fun content found => one_line content (List.mem_append_right _ found))
        (fun concept found => by
          rw [List.mem_append, not_or]
          exact ⟨fun again => apart concept again concept found rfl,
            fresh concept (List.mem_append_right _ found)⟩)
        rest_distinct
      exact ⟨last, first.append later, closed⟩

/-! ## What is read consists of items -/

/-- A definition that does not stay open ends at the first terminator behind it. -/
theorem exists_body_of_reads {scanner last : Scanner} {lines : List Text}
    {statements : List (Numbered Statement)} {block : OpenBlock}
    (reads : Reads scanner lines statements last) (inside : scanner.block = some block)
    (closed : last.block = none) :
    ∃ body final rest later, lines = body ++ final :: rest ∧
      (∀ line ∈ body, trim line ≠ terminator) ∧ trim final = terminator ∧
      statements = OpenBlock.close { block with body := block.body ++ body } :: later ∧
      Reads ⟨scanner.line + body.length + 1, block.concept :: scanner.defined, none⟩
        rest later last := by
  induction reads generalizing block with
  | nil => simp [inside] at closed
  | @cons scanner next last line rest statement statements step later ih =>
      simp only [Scanner.read, inside, Scanner.readInside, Except.ok.injEq] at step
      split at step
      next ends =>
        obtain ⟨rfl, rfl⟩ := Prod.mk.inj step
        exact ⟨[], line, rest, statements, rfl, by simp, ends, by simp, later⟩
      next goes_on =>
        obtain ⟨rfl, rfl⟩ := Prod.mk.inj step
        obtain ⟨body, final, after, more, rfl, body_open, ends, rfl, reads⟩ := ih rfl closed
        refine ⟨line :: body, final, after, more, rfl, ?_, ends, by simp, ?_⟩
        · simpa using ⟨goes_on, body_open⟩
        · simpa [Nat.add_assoc, Nat.add_comm, Nat.add_left_comm] using reads

/-- Lines that are read from outside a definition to outside a definition begin with an item. -/
theorem exists_item_of_reads {line : Nat} {defined : List Text} {last : Scanner} {first : Text}
    {lines : List Text} {statements : List (Numbered Statement)}
    (reads : Reads ⟨line, defined, none⟩ (first :: lines) statements last)
    (closed : last.block = none) :
    ∃ (item : Item) (rest : List Text) (later : List (Numbered Statement)),
      first :: lines = item.lines ++ rest ∧
      statements = item.statement?.toList.map (⟨line, ·⟩) ++ later ∧
      (∀ concept ∈ item.concept?, concept ∉ defined) ∧
      Reads ⟨line + item.lines.length, item.concept?.toList ++ defined, none⟩ rest later last := by
  obtain _ | ⟨step, later_reads⟩ := reads
  rename_i next statement later
  simp only [Scanner.read, Scanner.readOutside] at step
  split at step
  next empty =>
    obtain ⟨rfl, rfl⟩ := Prod.mk.inj (Except.ok.inj step)
    exact ⟨.blank first (List.isEmpty_iff.1 empty), lines, later, rfl, rfl, by simp, later_reads⟩
  next nonempty =>
    rw [List.isEmpty_iff] at nonempty
    split at step
    next no_header =>
      have no_colon : ¬ [':'] <:+ trim first := by
        rintro ⟨name, ends⟩
        have opens : Opens first (trim name) := ⟨name, ends.symm, rfl⟩
        simp [headerConcept?_eq_some_iff.2 opens] at no_header
      split at step
      next => simp at step
      next predicate parsed =>
        obtain ⟨rfl, rfl⟩ := Prod.mk.inj (Except.ok.inj step)
        exact ⟨.relates first predicate nonempty no_colon (Predicate.parse_eq_ok_iff.1 parsed).2,
          lines, later, rfl, rfl, by simp, later_reads⟩
    next concept header =>
      split at step
      next => simp at step
      next named =>
        split at step
        next => simp at step
        next fresh =>
          obtain ⟨rfl, rfl⟩ := Prod.mk.inj (Except.ok.inj step)
          obtain ⟨body, final, rest, more, rfl, body_open, ends, rfl, rest_reads⟩ :=
            exists_body_of_reads later_reads rfl closed
          refine ⟨.block first concept body final (headerConcept?_eq_some_iff.1 header)
            (by simpa using named) body_open ends, rest, more, by simp [Item.lines], rfl, ?_, ?_⟩
          · simpa using fresh
          · simpa [Item.lines, Nat.add_assoc, Nat.add_comm, Nat.add_left_comm] using rest_reads

/-- Lines that are read from outside a definition to outside a definition are those of items. -/
theorem exists_items_of_reads {line : Nat} {defined : List Text} {last : Scanner}
    {lines : List Text} {statements : List (Numbered Statement)}
    (reads : Reads ⟨line, defined, none⟩ lines statements last) (closed : last.block = none) :
    ∃ items : List Item, items.flatMap Item.lines = lines ∧ statements = numbered line items ∧
      (items.filterMap Item.concept?).Nodup ∧
      ∀ concept ∈ items.filterMap Item.concept?, concept ∉ defined := by
  induction length : lines.length using Nat.strong_induction_on generalizing
    line defined lines statements with
  | _ count ih =>
      cases lines with
      | nil =>
          obtain _ | _ := reads
          exact ⟨[], rfl, rfl, by simp, by simp⟩
      | cons first lines =>
          obtain ⟨item, rest, later, lines_eq, rfl, fresh, rest_reads⟩ :=
            exists_item_of_reads reads closed
          have shorter : rest.length < count := by
            have positive : 0 < item.lines.length :=
              List.length_pos_iff.2 item.lines_ne_nil
            have length_eq := congrArg List.length lines_eq
            rw [List.length_append] at length_eq
            omega
          obtain ⟨items, rfl, rfl, distinct, apart⟩ := ih _ shorter rest_reads rfl
          have single : item.concept?.toList.Nodup := by
            cases item.concept? <;> simp
          refine ⟨item :: items, lines_eq.symm, rfl, ?_, ?_⟩
          · rw [Item.filterMap_concept?_cons]
            refine List.nodup_append.2 ⟨single, distinct, ?_⟩
            rintro concept here other again rfl
            exact apart concept again (List.mem_append_left _ here)
          · rw [Item.filterMap_concept?_cons]
            intro concept found
            rcases List.mem_append.1 found with here | again
            · exact fresh concept (by simpa using here)
            · exact fun before => apart concept again (List.mem_append_right _ before)

/-! ## Lines determine their items -/

/-- Two ways to end a body at its first terminator are the same. -/
theorem body_unique {body other : List Text} {final last : Text} {rest more : List Text}
    (body_open : ∀ line ∈ body, trim line ≠ terminator) (ends : trim final = terminator)
    (other_open : ∀ line ∈ other, trim line ≠ terminator) (other_ends : trim last = terminator)
    (lines_eq : body ++ final :: rest = other ++ last :: more) :
    body = other ∧ final = last ∧ rest = more := by
  induction body generalizing other with
  | nil =>
      cases other with
      | nil => simpa using lines_eq
      | cons line other =>
          obtain ⟨rfl, _⟩ := List.cons.inj lines_eq
          exact absurd ends (other_open _ List.mem_cons_self)
  | cons line body ih =>
      cases other with
      | nil =>
          obtain ⟨rfl, _⟩ := List.cons.inj lines_eq
          exact absurd other_ends (body_open _ List.mem_cons_self)
      | cons head other =>
          obtain ⟨rfl, tail_eq⟩ := List.cons.inj lines_eq
          obtain ⟨rfl, rfl, rfl⟩ := ih
            (fun line found => body_open line (List.mem_cons_of_mem _ found))
            (fun line found => other_open line (List.mem_cons_of_mem _ found)) tail_eq
          exact ⟨rfl, rfl, rfl⟩

/-- The first lines determine the first item. -/
theorem item_unique {item other : Item} {rest more : List Text}
    (lines_eq : item.lines ++ rest = other.lines ++ more) : item = other ∧ rest = more := by
  cases item with
  | blank line empty =>
      cases other with
      | blank => simpa [Item.lines] using lines_eq
      | relates _ _ nonempty =>
          obtain ⟨rfl, _⟩ := List.cons.inj lines_eq
          exact absurd empty nonempty
      | block _ _ _ _ opens =>
          obtain ⟨rfl, _⟩ := List.cons.inj lines_eq
          exact absurd empty opens.trim_ne_nil
  | relates line predicate nonempty no_colon states =>
      cases other with
      | blank _ empty =>
          obtain ⟨rfl, _⟩ := List.cons.inj lines_eq
          exact absurd empty nonempty
      | relates _ _ _ _ other_states =>
          obtain ⟨rfl, rest_eq⟩ := List.cons.inj lines_eq
          obtain rfl := states.unique other_states
          exact ⟨rfl, rest_eq⟩
      | block _ _ _ _ opens =>
          obtain ⟨rfl, _⟩ := List.cons.inj lines_eq
          exact absurd opens.suffix no_colon
  | block header concept body final opens nonempty body_open ends =>
      cases other with
      | blank _ empty =>
          obtain ⟨rfl, _⟩ := List.cons.inj lines_eq
          exact absurd empty opens.trim_ne_nil
      | relates _ _ _ no_colon =>
          obtain ⟨rfl, _⟩ := List.cons.inj lines_eq
          exact absurd opens.suffix no_colon
      | block _ _ _ _ other_opens _ other_open other_ends =>
          obtain ⟨rfl, tail_eq⟩ := List.cons.inj lines_eq
          obtain rfl := opens.unique other_opens
          obtain ⟨rfl, rfl, rfl⟩ := body_unique body_open ends other_open other_ends
            (by simpa using tail_eq)
          exact ⟨rfl, rfl⟩

/-- No two sequences of items have the same lines. -/
theorem items_unique {items others : List Item}
    (lines_eq : items.flatMap Item.lines = others.flatMap Item.lines) : items = others := by
  induction items generalizing others with
  | nil =>
      cases others with
      | nil => rfl
      | cons other others => simp [other.lines_ne_nil] at lines_eq
  | cons item items ih =>
      cases others with
      | nil => simp [item.lines_ne_nil] at lines_eq
      | cons other others =>
          obtain ⟨rfl, rest_eq⟩ := item_unique lines_eq
          rw [ih rest_eq]

/-! ## Accepted documents -/

/-- What items declare. -/
def declared (items : List Item) : Declarations :=
  { predicates := firstOccurrences id (items.filterMap Item.predicate?)
    definitions := items.filterMap Item.definition? }

/-- Statements declare each of their predicates once, and all of their definitions. -/
theorem declarations_ofStatements (statements : List (Numbered Statement)) :
    (ofStatements statements).declarations =
      { predicates := firstOccurrences id (statements.filterMap (·.content.predicate?))
        definitions := statements.filterMap (·.content.definition?) } := by
  have predicates_eq : (firstOccurrences (·.content)
      (statements.filterMap fun statement =>
        statement.content.predicate?.map (Numbered.mk statement.line))).map (·.content) =
      firstOccurrences id (statements.filterMap (·.content.predicate?)) := by
    have mapped := map_firstOccurrences (fun numbered : Numbered Predicate => numbered.content) id
      (statements.filterMap fun statement =>
        statement.content.predicate?.map (Numbered.mk statement.line))
    simp only [id] at mapped
    rw [mapped, List.map_filterMap]
    simp only [Option.map_map, Function.comp_def, Option.map_id']
  have definitions_eq : (statements.filterMap fun statement =>
      statement.content.definition?.map (Numbered.mk statement.line)).map (·.content) =
      statements.filterMap (·.content.definition?) := by
    rw [List.map_filterMap]
    simp only [Option.map_map, Function.comp_def, Option.map_id']
  simp only [ofStatements, declarations, predicates_eq, definitions_eq]

/-- The statements of items declare what the items declare. -/
theorem declarations_ofStatements_numbered (line : Nat) (items : List Item) :
    (ofStatements (numbered line items)).declarations = declared items := by
  rw [declarations_ofStatements, filterMap_numbered, filterMap_numbered]
  rfl

/-- A document whose lines are those of items is accepted, if no concept is defined twice. -/
theorem parse_of_items {text : Text} {items : List Item}
    (lines_eq : items.flatMap Item.lines = splitLines text)
    (distinct : (items.filterMap Item.concept?).Nodup) :
    parse text = .ok (ofStatements (numbered 1 items)) := by
  obtain ⟨last, reads, closed⟩ := reads_items 1 []
    (fun line found => not_mem_of_mem_splitLines (lines_eq ▸ found)) (by simp) distinct
  rw [lines_eq] at reads
  exact parse_eq_ok_iff.2 ⟨_, last, reads, closed, rfl⟩

/-- The lines of an accepted document are those of items, and no concept is defined twice. -/
theorem exists_items_of_parse {text : Text} {document : Document}
    (parsed : parse text = .ok document) :
    ∃ items : List Item, items.flatMap Item.lines = splitLines text ∧
      (items.filterMap Item.concept?).Nodup ∧ document = ofStatements (numbered 1 items) := by
  obtain ⟨statements, last, reads, closed, rfl⟩ := parse_eq_ok_iff.1 parsed
  obtain ⟨items, lines_eq, rfl, distinct, _⟩ := exists_items_of_reads reads closed
  exact ⟨items, lines_eq, distinct, rfl⟩

/-- A document is accepted with certain declarations exactly when its lines are those of items
that define no concept twice and declare just these.  No lines are those of two sequences of
items. -/
theorem declares_iff_items (text : Text) :
    (∀ predicates definitions,
      (∃ document, parse text = .ok document ∧
          document.declarations = ⟨predicates, definitions⟩) ↔
        ∃ items : List Item, items.flatMap Item.lines = splitLines text ∧
          (items.filterMap Item.concept?).Nodup ∧
          predicates = firstOccurrences id (items.filterMap Item.predicate?) ∧
          definitions = items.filterMap Item.definition?) ∧
      Function.Injective fun items : List Item => items.flatMap Item.lines := by
  refine ⟨fun predicates definitions => ⟨?_, ?_⟩, fun _ _ lines_eq => items_unique lines_eq⟩
  · rintro ⟨document, parsed, declares⟩
    obtain ⟨items, lines_eq, distinct, rfl⟩ := exists_items_of_parse parsed
    rw [declarations_ofStatements_numbered] at declares
    obtain ⟨predicates_eq, definitions_eq⟩ := Declarations.mk.inj declares
    exact ⟨items, lines_eq, distinct, predicates_eq.symm, definitions_eq.symm⟩
  · rintro ⟨items, lines_eq, distinct, rfl, rfl⟩
    exact ⟨_, parse_of_items lines_eq distinct, declarations_ofStatements_numbered 1 items⟩

end Document
end ConceptMap
