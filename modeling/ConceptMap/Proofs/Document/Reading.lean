import ConceptMap.Declarations
import ConceptMap.Proofs.Text.Lines

/-!
# Readings

A reading is a run of the scanner over some lines without a fault.  Readings can be put one after
another and taken apart, and a document is accepted exactly when there is a reading of its lines
that ends outside a definition.  Blanks at the end of a document do not matter.
-/

namespace ConceptMap
namespace Statement

open Text

/-- From one scanner to another the lines are read without a fault and complete the statements. -/
inductive Reads : Scanner → List Text → List (Numbered Statement) → Scanner → Prop where
  | nil (scanner : Scanner) : Reads scanner [] [] scanner
  | cons {scanner next last : Scanner} {line : Text} {rest : List Text}
      {statement : Option (Numbered Statement)} {statements : List (Numbered Statement)}
      (step : scanner.read line = .ok (next, statement))
      (later : Reads next rest statements last) :
      Reads scanner (line :: rest) (statement.toList ++ statements) last

variable {scanner middle last : Scanner} {front back lines : List Text}
variable {statements later : List (Numbered Statement)}

theorem Reads.append (first : Reads scanner front statements middle)
    (second : Reads middle back later last) :
    Reads scanner (front ++ back) (statements ++ later) last := by
  induction first with
  | nil => exact second
  | cons step _ ih =>
      rw [List.append_assoc]
      exact .cons step (ih second)

/-- A reading of lines one behind another passes through a scanner between them. -/
theorem Reads.of_append (reads : Reads scanner (front ++ back) statements last) :
    ∃ middle first second, Reads scanner front first middle ∧ Reads middle back second last ∧
      statements = first ++ second := by
  induction front generalizing scanner statements with
  | nil => exact ⟨scanner, [], statements, .nil scanner, reads, rfl⟩
  | cons line front ih =>
      obtain _ | ⟨step, later⟩ := reads
      obtain ⟨middle, first, second, first_reads, second_reads, rfl⟩ := ih later
      exact ⟨middle, _, second, .cons step first_reads, second_reads, by rw [List.append_assoc]⟩

/-- Scanning goes on where a reading ends. -/
theorem Reads.scanFrom_append (reads : Reads scanner front statements middle) (back : List Text) :
    scanFrom scanner (front ++ back) =
      ⟨statements ++ (scanFrom middle back).statements, (scanFrom middle back).fault⟩ := by
  induction reads with
  | nil => rfl
  | cons step _ ih =>
      rw [List.cons_append, scanFrom, step]
      simp only
      rw [ih, List.append_assoc]

/-- Scanning without a fault is a reading that ends outside a definition. -/
theorem scanFrom_eq_iff :
    scanFrom scanner lines = ⟨statements, none⟩ ↔
      ∃ last, Reads scanner lines statements last ∧ last.block = none := by
  constructor
  · intro scanned
    induction lines generalizing scanner statements with
    | nil =>
        simp only [scanFrom_nil, Scan.mk.injEq, Scanner.endFault?, Option.map_eq_none_iff]
          at scanned
        obtain ⟨rfl, closed⟩ := scanned
        exact ⟨scanner, .nil scanner, closed⟩
    | cons line rest ih =>
        rw [scanFrom] at scanned
        split at scanned
        next => simp at scanned
        next next statement step =>
          simp only [Scan.mk.injEq] at scanned
          obtain ⟨rfl, no_fault⟩ := scanned
          have rest_scanned : scanFrom next rest = ⟨(scanFrom next rest).statements, none⟩ := by
            rw [← no_fault]
          obtain ⟨last, later, closed⟩ := ih rest_scanned
          exact ⟨last, .cons step later, closed⟩
  · rintro ⟨last, reads, closed⟩
    have scanned := reads.scanFrom_append []
    rw [List.append_nil] at scanned
    rw [scanned]
    simp [Scanner.endFault?, closed]

end Statement

namespace Document

open Text Statement

/-- A document is accepted exactly when its lines can be read from the start and no definition
stays open. -/
theorem parse_eq_ok_iff {text : Text} {document : Document} :
    parse text = .ok document ↔
      ∃ statements last, Reads {} (splitLines text) statements last ∧ last.block = none ∧
        document = ofStatements statements := by
  rw [parse]
  constructor
  · intro parsed
    split at parsed
    next => simp at parsed
    next no_fault =>
      obtain rfl := Except.ok.inj parsed
      obtain ⟨last, reads, closed⟩ := scanFrom_eq_iff.1
        (show scanFrom {} (splitLines text) = ⟨(scan (splitLines text)).statements, none⟩ by
          rw [← no_fault, scan])
      exact ⟨_, last, reads, closed, rfl⟩
  · rintro ⟨statements, last, reads, closed, rfl⟩
    have scanned : scan (splitLines text) = ⟨statements, none⟩ :=
      scanFrom_eq_iff.2 ⟨last, reads, closed⟩
    rw [scanned]

end Document

namespace Statement

open Text

variable {scanner next last : Scanner} {line wide : Text} {lines : List Text}
variable {statement : Option (Numbered Statement)} {statements : List (Numbered Statement)}

/-- Outside a definition a line counts only by its trimmed form. -/
theorem readOutside_congr (trim_eq : trim wide = trim line) :
    scanner.readOutside wide = scanner.readOutside line := by
  simp only [Scanner.readOutside, headerConcept?, trim_eq]

/-- A line counts only by its trimmed form, unless it becomes part of a definition. -/
theorem read_congr (trim_eq : trim wide = trim line)
    (step : scanner.read wide = .ok (next, statement)) (closed : next.block = none) :
    scanner.read line = .ok (next, statement) := by
  rw [Scanner.read] at step ⊢
  split at step
  next => rwa [← readOutside_congr trim_eq]
  next block =>
    rw [Scanner.readInside] at step ⊢
    split at step
    next ends => rwa [if_pos (trim_eq ▸ ends)]
    next goes_on =>
      simp only [Except.ok.injEq, Prod.mk.injEq] at step
      simp [← step.1] at closed

/-- A blank line completes nothing, and no definition begins or ends with it. -/
theorem read_blank (blank : AllBlank line) (step : scanner.read line = .ok (next, statement)) :
    statement = none ∧ (next.block = none ↔ scanner.block = none) := by
  have empty : trim line = [] := trim_eq_nil_iff.2 blank
  rw [Scanner.read] at step
  split at step
  next outside =>
    simp only [Scanner.readOutside, empty, List.isEmpty_nil, if_true, Except.ok.injEq,
      Prod.mk.injEq] at step
    obtain ⟨rfl, rfl⟩ := step
    exact ⟨rfl, Iff.rfl⟩
  next block inside =>
    simp only [Scanner.readInside, empty, terminator, List.nil_eq, List.cons_ne_nil, if_false,
      Except.ok.injEq, Prod.mk.injEq] at step
    obtain ⟨rfl, rfl⟩ := step
    simp [inside]

theorem Reads.of_blank (reads : Reads scanner lines statements last)
    (blank : ∀ line ∈ lines, AllBlank line) :
    statements = [] ∧ (last.block = none ↔ scanner.block = none) := by
  induction reads with
  | nil => exact ⟨rfl, Iff.rfl⟩
  | cons step _ ih =>
      obtain ⟨rfl, first_iff⟩ := read_blank (blank _ List.mem_cons_self) step
      obtain ⟨rfl, later_iff⟩ := ih fun line found => blank line (List.mem_cons_of_mem _ found)
      exact ⟨rfl, later_iff.trans first_iff⟩

end Statement

namespace Document

open Text Statement

/-- Blanks at the end of an accepted document can be left out. -/
theorem parse_trimEnd {text : Text} {document : Document} (parsed : parse text = .ok document) :
    parse (trimEnd text) = .ok document := by
  obtain ⟨statements, last, reads, closed, rfl⟩ := parse_eq_ok_iff.1 parsed
  obtain ⟨margin, blank, text_eq⟩ := exists_trimEnd_append text
  obtain ⟨front, final, front_eq⟩ := exists_splitLines_eq_append (trimEnd text)
  obtain ⟨head, tail, margin_eq⟩ := List.exists_cons_of_ne_nil (splitLines_ne_nil margin)
  have margin_blank : ∀ line ∈ head :: tail, AllBlank line := fun line found character inside =>
    blank character (mem_of_mem_splitLines (margin_eq ▸ found) inside)
  rw [text_eq, splitLines_append front_eq margin_eq] at reads
  obtain ⟨middle, first, second, first_reads, second_reads, rfl⟩ := reads.of_append
  obtain _ | ⟨step, later⟩ := second_reads
  -- the last line that is not blank ends outside a definition, so only its trimmed form counts
  obtain ⟨rfl, closed_iff⟩ := later.of_blank fun line found =>
    margin_blank line (List.mem_cons_of_mem _ found)
  have step' := read_congr
    (trim_append_of_allBlank (margin_blank head List.mem_cons_self) final) step
    (closed_iff.1 closed)
  rw [parse_eq_ok_iff, front_eq]
  exact ⟨_, _, first_reads.append (.cons step' (.nil _)), closed_iff.1 closed, rfl⟩

end Document
end ConceptMap
