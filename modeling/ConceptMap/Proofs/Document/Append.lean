import Mathlib.Data.Nat.Find
import ConceptMap.Proofs.Document.Fault

/-!
# Documents one behind another

Lines in front of a document move its line numbers, and the concepts that they define cannot be
defined again.  Nothing else of them counts behind them: scanning goes on as if it began there, up
to the first line that opens a definition of one of those concepts.
-/

namespace ConceptMap

/-- What stands on a line, with a number of lines put in front. -/
def Numbered.shift {α : Type} (offset : Nat) (entry : Numbered α) : Numbered α :=
  { entry with line := entry.line + offset }

namespace Statement

open Text Document

/-- The concepts that statements define. -/
def concepts (statements : List (Numbered Statement)) : List Text :=
  statements.filterMap fun statement => statement.content.definition?.map (·.concept)

/-- Scanning the lines comes to one that opens a definition of the concept: the lines before it are
read without a fault. -/
def Reaches (lines : List Text) (header : Numbered Text) : Prop :=
  ∃ front line rest, lines = front ++ line :: rest ∧ header.line = front.length + 1 ∧
    (scan front).fault = none ∧ Opens line header.content

/-- The scanner with lines put in front that define the known concepts. -/
def Scanner.behind (offset : Nat) (known : List Text) (scanner : Scanner) : Scanner :=
  { line := scanner.line + offset
    defined := scanner.defined ++ known
    block := scanner.block.map fun block => { block with line := block.line + offset } }

variable (offset : Nat) {known : List Text} {scanner middle last : Scanner} {line concept : Text}
variable {lines front : List Text} {statements : List (Numbered Statement)}

/-! ## One line -/

/-- A line is read as before, unless it opens a definition of a known concept. -/
theorem read_behind
    (apart : scanner.block = none → ∀ concept, Opens line concept → concept ∉ known) :
    (scanner.behind offset known).read line =
      (scanner.read line).map fun (next, statement) =>
        (next.behind offset known, statement.map (·.shift offset)) := by
  have number_eq : scanner.line + offset + 1 = scanner.line + 1 + offset := Nat.add_right_comm ..
  obtain ⟨number, defined, block⟩ := scanner
  cases block with
  | some block =>
      simp only [Scanner.behind, Scanner.read, Option.map_some, Scanner.readInside] at number_eq ⊢
      rw [number_eq]
      split
      next => rfl
      next => rfl
  | none =>
      simp only [Scanner.behind, Scanner.read, Option.map_none, Scanner.readOutside] at number_eq ⊢
      rw [number_eq]
      split
      next => rfl
      next =>
        split
        next =>
          split
          next => rfl
          next => rfl
        next concept found =>
          have unknown : concept ∉ known := apart rfl concept (headerConcept?_eq_some_iff.1 found)
          simp only [List.mem_append, unknown, or_false]
          split
          next => rfl
          next =>
            split
            next => rfl
            next => rfl

theorem read_behind_known (outside : scanner.block = none) (opens : Opens line concept)
    (again : concept ∈ known) (named : concept ≠ []) :
    (scanner.behind offset known).read line = .error (.duplicate concept) := by
  simp [Scanner.read, Scanner.behind, outside, Scanner.readOutside, opens.trim_ne_nil,
    headerConcept?_eq_some_iff.2 opens, named, again]

/-! ## All lines -/

/-- Reading the lines never comes to one that opens a definition of a known concept. -/
def Apart (known : List Text) (scanner : Scanner) (lines : List Text) : Prop :=
  ∀ front line rest statements middle concept, lines = front ++ line :: rest →
    Reads scanner front statements middle → middle.block = none → Opens line concept →
      concept ∉ known

theorem Apart.head {rest : List Text} (apart : Apart known scanner (line :: rest))
    (outside : scanner.block = none) (concept : Text) (opens : Opens line concept) :
    concept ∉ known :=
  apart [] line rest [] scanner concept rfl (.nil scanner) outside opens

theorem Apart.tail {next : Scanner} {rest : List Text} {statement : Option (Numbered Statement)}
    (apart : Apart known scanner (line :: rest))
    (step : scanner.read line = .ok (next, statement)) :
    Apart known next rest := by
  intro front later more statements middle concept rest_eq reads outside opens
  exact apart (line :: front) later more _ middle concept (by rw [rest_eq]; rfl) (.cons step reads)
    outside opens

/-- Lines that are apart from what stands before them are read as before. -/
theorem Reads.behind (reads : Reads scanner lines statements last)
    (apart : Apart known scanner lines) :
    Reads (scanner.behind offset known) lines (statements.map (·.shift offset))
      (last.behind offset known) := by
  induction reads with
  | nil scanner => exact .nil _
  | @cons scanner next last line rest statement statements step later ih =>
      have step_behind := read_behind offset apart.head
      rw [step] at step_behind
      have read := Reads.cons step_behind (ih (apart.tail step))
      cases statement with
      | none => exact read
      | some statement => exact read

theorem scanFrom_behind (apart : Apart known scanner lines) :
    scanFrom (scanner.behind offset known) lines =
      ⟨(scanFrom scanner lines).statements.map (·.shift offset),
        (scanFrom scanner lines).fault.map (·.shift offset)⟩ := by
  induction lines generalizing scanner with
  | nil =>
      cases inside : scanner.block with
      | none => simp [Scanner.endFault?, Scanner.behind, inside]
      | some block => simp [Scanner.endFault?, Scanner.behind, inside, Numbered.shift]
  | cons line rest ih =>
      rw [scanFrom, scanFrom, read_behind offset apart.head]
      cases step : scanner.read line with
      | error fault => rfl
      | ok result =>
          obtain ⟨next, statement⟩ := result
          simp only [Except.map]
          rw [ih (apart.tail step), List.map_append]
          cases statement with
          | none => rfl
          | some statement => rfl

/-! ## What scanning leaves behind -/

/-- What reading a line does: which scanner it leads to, and which statement it completes. -/
inductive Scanner.Step (scanner : Scanner) (line : Text) :
    Scanner → Option (Numbered Statement) → Prop where
  | skips (outside : scanner.block = none) :
      Step scanner line ⟨scanner.line + 1, scanner.defined, none⟩ none
  | states (outside : scanner.block = none) (predicate : Predicate) :
      Step scanner line ⟨scanner.line + 1, scanner.defined, none⟩
        (some ⟨scanner.line, .relates predicate⟩)
  | opens (outside : scanner.block = none) (concept : Text) :
      Step scanner line (scanner.opening concept) none
  | ends {block : OpenBlock} (inside : scanner.block = some block) :
      Step scanner line ⟨scanner.line + 1, block.concept :: scanner.defined, none⟩
        (some block.close)
  | collects {block : OpenBlock} (inside : scanner.block = some block) :
      Step scanner line
        ⟨scanner.line + 1, scanner.defined, some { block with body := block.body ++ [line] }⟩ none

theorem step_of_read {next : Scanner} {statement : Option (Numbered Statement)}
    (step : scanner.read line = .ok (next, statement)) : scanner.Step line next statement := by
  obtain ⟨number, defined, block⟩ := scanner
  cases block with
  | some block =>
      simp only [Scanner.read, Scanner.readInside] at step
      split at step
      next =>
        obtain ⟨rfl, rfl⟩ := Prod.mk.inj (Except.ok.inj step)
        exact .ends rfl
      next =>
        obtain ⟨rfl, rfl⟩ := Prod.mk.inj (Except.ok.inj step)
        exact .collects rfl
  | none =>
      simp only [Scanner.read, Scanner.readOutside] at step
      split at step
      next =>
        obtain ⟨rfl, rfl⟩ := Prod.mk.inj (Except.ok.inj step)
        exact .skips rfl
      next =>
        split at step
        next =>
          split at step
          next => simp at step
          next predicate _ =>
            obtain ⟨rfl, rfl⟩ := Prod.mk.inj (Except.ok.inj step)
            exact .states rfl predicate
        next concept _ =>
          split at step
          next => simp at step
          next =>
            split at step
            next => simp at step
            next =>
              obtain ⟨rfl, rfl⟩ := Prod.mk.inj (Except.ok.inj step)
              exact .opens rfl concept

/-- A scanner knows the concepts of the statements that it has read. -/
theorem Reads.mem_defined_iff (reads : Reads scanner lines statements last) :
    concept ∈ last.defined ↔ concept ∈ concepts statements ∨ concept ∈ scanner.defined := by
  induction reads with
  | nil => simp [concepts]
  | cons step _ ih =>
      rw [ih]
      cases step_of_read step with
      | skips => rfl
      | states => rfl
      | opens => rfl
      | collects => rfl
      | @ends block inside =>
          have own : concepts (some block.close).toList = [block.concept] := rfl
          rw [concepts, concepts, List.filterMap_append, ← concepts, ← concepts, own]
          simp only [List.mem_cons, List.mem_append, List.not_mem_nil, or_false]
          tauto

/-- The statements that are read stand before the line that is read next. -/
theorem Reads.line_lt (reads : Reads scanner lines statements last)
    (opened : ∀ block ∈ scanner.block, block.line < scanner.line) :
    ∀ statement ∈ statements, statement.line < last.line := by
  induction reads with
  | nil => simp
  | @cons scanner next last line rest statement statements step later ih =>
      have passed : scanner.line + 1 ≤ last.line := by
        rw [later.line_eq, line_of_read step]
        omega
      cases step_of_read step with
      | skips => exact ih (by simp)
      | states =>
          have first_lt : scanner.line < last.line := passed
          simpa using ⟨first_lt, ih (by simp)⟩
      | opens => exact ih (by simp [Scanner.opening])
      | @ends block inside =>
          have block_lt : block.line < last.line := by
            have before := opened block inside
            omega
          simpa [OpenBlock.close] using ⟨block_lt, ih (by simp)⟩
      | @collects block inside =>
          refine ih ?_
          have before := opened block inside
          simp only [Option.mem_some_iff, forall_eq']
          omega

/-- Statements that are still to come stand behind what was read. -/
theorem le_line_of_mem_scanFrom {bound : Nat} {statement : Numbered Statement}
    (reached : bound ≤ scanner.line) (opened : ∀ block ∈ scanner.block, bound ≤ block.line)
    (found : statement ∈ (scanFrom scanner lines).statements) : bound ≤ statement.line := by
  induction lines generalizing scanner with
  | nil => simp at found
  | cons line rest ih =>
      rw [scanFrom] at found
      split at found
      next => simp at found
      next next completed step =>
        have next_reached : bound ≤ next.line := by
          rw [line_of_read step]
          omega
        cases step_of_read step with
        | skips => exact ih next_reached (by simp) found
        | states =>
            rcases List.mem_cons.1 found with rfl | later
            · exact reached
            · exact ih next_reached (by simp) later
        | opens => exact ih next_reached (by simpa [Scanner.opening] using reached) found
        | @ends block inside =>
            rcases List.mem_cons.1 found with rfl | later
            · exact opened block inside
            · exact ih next_reached (by simp) later
        | @collects block inside =>
            exact ih next_reached (by simpa using opened block inside) found

/-! ## Lines behind lines -/

theorem fault_scan_eq_none_iff :
    (scan lines).fault = none ↔
      ∃ last, Reads {} lines (scan lines).statements last ∧ last.block = none := by
  rw [← scanFrom_eq_iff, scan]
  constructor
  · intro accepted
    rw [← accepted]
  · intro accepted
    rw [accepted]

/-- The scanner behind lines that were read is the one at the start with these lines in front. -/
theorem Reads.last_eq_behind (reads : Reads {} lines statements last) (closed : last.block = none) :
    last = Scanner.behind lines.length last.defined {} := by
  have number := reads.line_eq
  obtain ⟨number, defined, block⟩ := last
  obtain rfl : block = none := closed
  simp only at number
  simp [Scanner.behind, number]

theorem ne_nil_of_mem_concepts (accepted : (scan lines).fault = none)
    (found : concept ∈ concepts (scan lines).statements) : concept ≠ [] := by
  obtain ⟨last, reads, closed⟩ := fault_scan_eq_none_iff.1 accepted
  obtain ⟨items, -, statements_eq, -, -⟩ := exists_items_of_reads reads closed
  have concepts_eq : concepts (scan lines).statements = items.filterMap Item.concept? := by
    have numbered_eq := filterMap_numbered
      (fun statement => statement.definition?.map (·.concept)) 1 items
    rw [statements_eq, concepts, numbered_eq]
    congr 1
    funext item
    rw [Item.concept?, Item.definition?]
    cases item.statement? <;> rfl
  rw [concepts_eq] at found
  obtain ⟨item, -, defines⟩ := List.mem_filterMap.1 found
  cases item with
  | blank => simp at defines
  | relates => simp at defines
  | block _ own _ _ _ nonempty =>
      obtain rfl : own = concept := Option.some.inj defines
      exact nonempty

section
variable (accepted : (scan lines).fault = none)
include accepted

/-- If no line is come to that defines a concept again, the second lines are scanned as if they
stood alone. -/
theorem scan_append_of_apart {second : List Text}
    (apart : ∀ header, Reaches second header → header.content ∉ concepts (scan lines).statements) :
    scan (lines ++ second) =
      ⟨(scan lines).statements ++ (scan second).statements.map (·.shift lines.length),
        (scan second).fault.map (·.shift lines.length)⟩ := by
  obtain ⟨last, reads, closed⟩ := fault_scan_eq_none_iff.1 accepted
  have apart_from : Apart last.defined {} second := by
    intro front line rest statements middle concept second_eq front_reads outside opens again
    have front_accepted : (scan front).fault = none := by
      rw [scan, scanFrom_eq_iff.2 ⟨middle, front_reads, outside⟩]
    have known := reads.mem_defined_iff.1 again
    rw [or_iff_left (by simp)] at known
    exact apart ⟨front.length + 1, concept⟩
      ⟨front, line, rest, second_eq, rfl, front_accepted, opens⟩
      known
  have second_eq := scanFrom_behind lines.length apart_from
  rw [← reads.last_eq_behind closed] at second_eq
  have whole := reads.scanFrom_append second
  rw [second_eq] at whole
  exact whole

/-- At the first line that defines a concept again, scanning ends. -/
theorem scan_append_of_known {second : List Text} {header : Numbered Text}
    (reached : Reaches second header) (again : header.content ∈ concepts (scan lines).statements)
    (first : ∀ other, Reaches second other → other.content ∈ concepts (scan lines).statements →
      header.line ≤ other.line) :
    scan (lines ++ second) =
      ⟨(scan lines).statements ++
          ((scan second).statements.filter (·.line < header.line)).map (·.shift lines.length),
        some ⟨header.line + lines.length, .duplicate header.content⟩⟩ := by
  obtain ⟨number, concept⟩ := header
  obtain ⟨front, line, rest, rfl, number_eq, front_accepted, opens⟩ := reached
  obtain rfl : number = front.length + 1 := number_eq
  obtain ⟨last, reads, closed⟩ := fault_scan_eq_none_iff.1 accepted
  obtain ⟨middle, front_reads, outside⟩ := fault_scan_eq_none_iff.1 front_accepted
  have known_iff {other : Text} :
      other ∈ last.defined ↔ other ∈ concepts (scan lines).statements := by
    rw [reads.mem_defined_iff]
    simp
  have middle_line : middle.line = front.length + 1 := by
    rw [front_reads.line_eq, Nat.add_comm]
  -- an earlier line of this kind would be the first one
  have apart : Apart last.defined {} front := by
    intro earlier other later statements between known front_eq earlier_reads between_outside
      other_opens other_again
    have earlier_accepted : (scan earlier).fault = none := by
      rw [scan, scanFrom_eq_iff.2 ⟨between, earlier_reads, between_outside⟩]
    have not_before := first ⟨earlier.length + 1, known⟩
      ⟨earlier, other, later ++ line :: rest, by simp [front_eq], rfl, earlier_accepted,
        other_opens⟩
      (known_iff.1 other_again)
    rw [front_eq] at not_before
    simp only [List.length_append, List.length_cons] at not_before
    omega
  have front_behind := front_reads.behind lines.length apart
  rw [← reads.last_eq_behind closed] at front_behind
  have refused := read_behind_known lines.length outside opens (known_iff.2 again)
    (ne_nil_of_mem_concepts accepted again)
  have kept : (scan (front ++ line :: rest)).statements.filter (·.line < front.length + 1) =
      (scan front).statements := by
    rw [scan, front_reads.scanFrom_append, List.filter_append, List.filter_eq_self.2,
      List.filter_eq_nil_iff.2, List.append_nil]
    · intro statement found
      have behind := le_line_of_mem_scanFrom middle_line.ge (by simp [outside]) found
      simp only [decide_eq_true_eq]
      omega
    · intro statement found
      have before := front_reads.line_lt (by simp) statement found
      simp only [decide_eq_true_eq]
      omega
  rw [kept, scan, reads.scanFrom_append, front_behind.scanFrom_append, scanFrom, refused]
  simp [Scanner.behind, middle_line]

theorem scan_append_cases (second : List Text) :
    ((∀ header, Reaches second header → header.content ∉ concepts (scan lines).statements) ∧
      scan (lines ++ second) =
        ⟨(scan lines).statements ++ (scan second).statements.map (·.shift lines.length),
          (scan second).fault.map (·.shift lines.length)⟩) ∨
    ∃ header, Reaches second header ∧ header.content ∈ concepts (scan lines).statements ∧
      (∀ other, Reaches second other → other.content ∈ concepts (scan lines).statements →
        header.line ≤ other.line) ∧
      scan (lines ++ second) =
        ⟨(scan lines).statements ++
            ((scan second).statements.filter (·.line < header.line)).map (·.shift lines.length),
          some ⟨header.line + lines.length, .duplicate header.content⟩⟩ := by
  classical
  by_cases clash : ∃ number header, Reaches second header ∧
      header.content ∈ concepts (scan lines).statements ∧ header.line = number
  · right
    obtain ⟨header, reached, again, number_eq⟩ := Nat.find_spec clash
    have first : ∀ other, Reaches second other →
        other.content ∈ concepts (scan lines).statements → header.line ≤ other.line := by
      intro other other_reached other_again
      rw [number_eq]
      exact Nat.find_min' clash ⟨other, other_reached, other_again, rfl⟩
    exact ⟨header, reached, again, first, scan_append_of_known accepted reached again first⟩
  · left
    have apart : ∀ header, Reaches second header →
        header.content ∉ concepts (scan lines).statements :=
      fun header reached again => clash ⟨header.line, header, reached, again, rfl⟩
    exact ⟨apart, scan_append_of_apart accepted apart⟩

end

end Statement

namespace Document

open Text Statement

theorem parse_eq_ok_iff_scan {text : Text} {document : Document} :
    parse text = .ok document ↔ (scan (splitLines text)).fault = none ∧
      document = ofStatements (scan (splitLines text)).statements := by
  rw [parse]
  cases (scan (splitLines text)).fault with
  | none => simp [eq_comm]
  | some fault => simp

/-- Accepted statements behind accepted statements add the predicates that are not there yet, and
all their definitions. -/
theorem declarations_ofStatements_append (first second : List (Numbered Statement)) :
    (ofStatements (first ++ second)).declarations =
      { predicates := (ofStatements first).declarations.predicates ++
          (ofStatements second).declarations.predicates.filter
            (· ∉ (ofStatements first).declarations.predicates)
        definitions := (ofStatements first).declarations.definitions ++
          (ofStatements second).declarations.definitions } := by
  simp only [declarations_ofStatements, List.filterMap_append, firstOccurrences_append,
    List.map_id, mem_firstOccurrences_id, id_eq]

theorem declarations_ofStatements_shift (offset : Nat) (statements : List (Numbered Statement)) :
    (ofStatements (statements.map (·.shift offset))).declarations =
      (ofStatements statements).declarations := by
  rw [declarations_ofStatements, declarations_ofStatements, List.filterMap_map, List.filterMap_map]
  rfl

/-- Behind lines that are scanned without a fault, other lines are scanned as if they stood alone,
up to the first line reached there that opens a definition of a concept which the lines in front
define: that one is a duplicate, whether or not anything ends it.  So two documents one behind the
other, if all three are accepted, declare the predicates of the first and those of the second that
are not among them, and all their definitions. -/
theorem scan_append :
    (∀ first second : List Text, (scan first).fault = none →
      ((∀ header, Reaches second header → header.content ∉ concepts (scan first).statements) ∧
        scan (first ++ second) =
          ⟨(scan first).statements ++ (scan second).statements.map (·.shift first.length),
            (scan second).fault.map (·.shift first.length)⟩) ∨
      ∃ header, Reaches second header ∧ header.content ∈ concepts (scan first).statements ∧
        (∀ other, Reaches second other → other.content ∈ concepts (scan first).statements →
          header.line ≤ other.line) ∧
        scan (first ++ second) =
          ⟨(scan first).statements ++
              ((scan second).statements.filter (·.line < header.line)).map (·.shift first.length),
            some ⟨header.line + first.length, .duplicate header.content⟩⟩) ∧
    ∀ (first second : Text) (front back whole : Document), parse first = .ok front →
      parse second = .ok back → parse (first ++ '\n' :: second) = .ok whole →
        whole.declarations.predicates = front.declarations.predicates ++
          back.declarations.predicates.filter (· ∉ front.declarations.predicates) ∧
        whole.declarations.definitions =
          front.declarations.definitions ++ back.declarations.definitions := by
  refine ⟨fun first second accepted => scan_append_cases accepted second, ?_⟩
  intro first second front back whole front_parsed back_parsed whole_parsed
  obtain ⟨front_accepted, rfl⟩ := parse_eq_ok_iff_scan.1 front_parsed
  obtain ⟨back_accepted, rfl⟩ := parse_eq_ok_iff_scan.1 back_parsed
  obtain ⟨whole_accepted, rfl⟩ := parse_eq_ok_iff_scan.1 whole_parsed
  rw [splitLines_append_newline] at whole_accepted ⊢
  rcases scan_append_cases front_accepted (splitLines second) with
    ⟨-, whole_eq⟩ | ⟨header, -, -, -, whole_eq⟩
  · rw [whole_eq, declarations_ofStatements_append, declarations_ofStatements_shift]
    exact ⟨rfl, rfl⟩
  · -- the documents would clash
    rw [whole_eq] at whole_accepted
    simp at whole_accepted

/-- A second definition of a concept is a duplicate even if it has no end.  Behind a document,
another one adds what the first does not declare. -/
theorem scan_append_of_endless_definition :
    let first : List Text := ["a:", "x", "---"]
    let second : List Text := ["b -- r -> c", " a :", "y"]
    let front : Text := "a -- r -> b\nb:\nx\n---"
    let back : Text := "b -- r -> a\na -- r -> b\na:\ny\n---"
    (scan first).fault = none ∧
      (∃ header, Reaches second header ∧ header.line = 2 ∧
        (scan (first ++ second)).fault =
          some ⟨header.line + first.length, .duplicate header.content⟩) ∧
      ∃ one other both, parse front = .ok one ∧ parse back = .ok other ∧
        parse (front ++ '\n' :: back) = .ok both ∧
        both.declarations.definitions =
          one.declarations.definitions ++ other.declarations.definitions ∧
        both.declarations.predicates = one.declarations.predicates ++
          other.declarations.predicates.filter (· ∉ one.declarations.predicates) := by
  intro first second front back
  have accepted : (scan first).fault = none := by decide
  have clash : Reaches second ⟨2, ['a']⟩ :=
    ⟨["b -- r -> c"], " a :", ["y"], rfl, rfl, by decide, headerConcept?_eq_some_iff.1 (by decide)⟩
  have again : ['a'] ∈ concepts (scan first).statements := by decide
  have fifth : (scan (first ++ second)).fault.map (·.line) = some 5 := by decide
  obtain ⟨header, reached, -, -, scan_eq⟩ := (scan_append.1 first second accepted).resolve_left
    fun alone => alone.1 ⟨2, ['a']⟩ clash again
  have number : header.line + 3 = 5 := by
    rw [scan_eq] at fifth
    exact Option.some.inj fifth
  have joined := scan_append.2 front back _ _ _ rfl rfl rfl
  exact ⟨accepted, ⟨header, reached, by omega, by rw [scan_eq]⟩, _, _, _, rfl, rfl, rfl, joined.2,
    joined.1⟩

end Document
end ConceptMap
