import ConceptMap.Proofs.Document.Grammar
import ConceptMap.Report

/-!
# Faults of documents

Scanning fails on a line outside a definition: the lines before it are read without a fault, and
the line is refused, or it opens a definition that none of the lines behind it ends.  So the lines
up to the failing one decide the fault; those behind it count only for a definition without an end.
-/

namespace ConceptMap
namespace Statement

open Text

variable {scanner next middle last : Scanner} {line : Text} {lines front rest : List Text}
variable {statement : Option (Numbered Statement)} {statements : List (Numbered Statement)}
variable {fault : Fault}

/-- The scanner inside the definition that the line opens. -/
def Scanner.opening (scanner : Scanner) (concept : Text) : Scanner :=
  ⟨scanner.line + 1, scanner.defined, some ⟨scanner.line, concept, []⟩⟩

/-! ## Single lines -/

/-- Outside a definition a line is refused, or read at once, or it opens a definition. -/
theorem read_outside_cases (outside : scanner.block = none) (line : Text) :
    (∃ fault, scanner.read line = .error fault) ∨
      (∃ statement, scanner.read line =
        .ok (⟨scanner.line + 1, scanner.defined, none⟩, statement)) ∨
      ∃ concept, trim line ≠ [] ∧ scanner.read line = .ok (scanner.opening concept, none) := by
  obtain ⟨number, defined, block⟩ := scanner
  obtain rfl : block = none := outside
  simp only [Scanner.read, Scanner.readOutside, Scanner.opening, List.isEmpty_iff]
  split
  next => exact .inr (.inl ⟨_, rfl⟩)
  next nonempty =>
    split
    next =>
      split
      next => exact .inl ⟨_, rfl⟩
      next => exact .inr (.inl ⟨_, rfl⟩)
    next concept _ =>
      split
      next => exact .inl ⟨_, rfl⟩
      next =>
        split
        next => exact .inl ⟨_, rfl⟩
        next => exact .inr (.inr ⟨concept, nonempty, rfl⟩)

/-- Inside a definition a line ends it or becomes part of it. -/
theorem read_inside_cases {block : OpenBlock} (inside : scanner.block = some block)
    (line : Text) :
    (trim line = terminator ∧ scanner.read line =
        .ok (⟨scanner.line + 1, block.concept :: scanner.defined, none⟩, some block.close)) ∨
      (trim line ≠ terminator ∧ scanner.read line =
        .ok (⟨scanner.line + 1, scanner.defined,
          some { block with body := block.body ++ [line] }⟩, none)) := by
  simp only [Scanner.read, inside, Scanner.readInside]
  split
  next ends => exact .inl ⟨ends, rfl⟩
  next goes_on => exact .inr ⟨goes_on, rfl⟩

/-- A line that is refused is not blank, and it is not a missing end that is reported. -/
theorem read_eq_error (refused : scanner.read line = .error fault) :
    trim line ≠ [] ∧ (∀ concept, fault ≠ .unterminated concept) ∧
      ('\n' ∉ line → fault ≠ .noPredicate .lineFeed) := by
  simp only [Scanner.read] at refused
  split at refused
  next =>
    simp only [Scanner.readOutside] at refused
    split at refused
    next => simp at refused
    next nonempty =>
      refine ⟨by simpa using nonempty, ?_⟩
      split at refused
      next =>
        split at refused
        next predicate_fault unread =>
          obtain rfl := Except.error.inj refused
          refine ⟨by simp, fun one_line is_lineFeed => ?_⟩
          obtain rfl := Fault.noPredicate.inj is_lineFeed
          exact mt mem_of_mem_trim one_line (Predicate.parse_eq_lineFeed_iff.1 unread)
        next => simp at refused
      next =>
        split at refused
        next => obtain rfl := Except.error.inj refused; simp
        next =>
          split at refused
          next => obtain rfl := Except.error.inj refused; simp
          next => simp at refused
  next => simp at refused

/-- The report of a line feed starts like no other report. -/
theorem Fault.eq_lineFeed_of_prefix {number : Int}
    (starts : String.toList "Newlines not allowed" <+: fault.message number) :
    fault = .noPredicate .lineFeed := by
  have head_eq : (fault.message number).head? = some 'N' := by
    obtain ⟨rest, message_eq⟩ := starts
    rw [← message_eq]
    rfl
  cases fault with
  | noPredicate cause =>
      cases cause with
      | lineFeed => rfl
      | malformed => exact absurd (show some 'I' = some 'N' from head_eq) (by decide)
      | emptyPart => exact absurd (show some 'E' = some 'N' from head_eq) (by decide)
      | tokenInPart => exact absurd (show some 'I' = some 'N' from head_eq) (by decide)
  | emptyConcept => exact absurd (show some 'E' = some 'N' from head_eq) (by decide)
  | duplicate => exact absurd (show some 'D' = some 'N' from head_eq) (by decide)
  | unterminated => exact absurd (show some 'M' = some 'N' from head_eq) (by decide)

theorem line_of_read (step : scanner.read line = .ok (next, statement)) :
    next.line = scanner.line + 1 := by
  cases inside : scanner.block with
  | none =>
      rcases read_outside_cases inside line with ⟨_, read⟩ | ⟨_, read⟩ | ⟨_, _, read⟩ <;>
        rw [read] at step
      · simp at step
      · rw [← (Prod.mk.inj (Except.ok.inj step)).1]
      · rw [← (Prod.mk.inj (Except.ok.inj step)).1, Scanner.opening]
  | some block =>
      rcases read_inside_cases inside line with ⟨_, read⟩ | ⟨_, read⟩ <;>
        rw [read] at step <;> rw [← (Prod.mk.inj (Except.ok.inj step)).1]

/-- Scanners count lines. -/
theorem Reads.line_eq (reads : Reads scanner lines statements last) :
    last.line = scanner.line + lines.length := by
  induction reads with
  | nil => rfl
  | cons step _ ih =>
      rw [ih, line_of_read step, List.length_cons]
      omega

/-! ## The failing line -/

/-- Scanning cannot get past the line: it is refused, or it opens a definition that none of the
lines behind it ends. -/
inductive Fails (scanner : Scanner) (line : Text) (rest : List Text) : Fault → Prop where
  | refused {fault : Fault} (refused : scanner.read line = .error fault) :
      Fails scanner line rest fault
  | unterminated {concept : Text} (nonempty : trim line ≠ [])
      (opens : scanner.read line = .ok (scanner.opening concept, none))
      (endless : ∀ later ∈ rest, trim later ≠ terminator) :
      Fails scanner line rest (.unterminated concept)

/-- A failing line is not blank. -/
theorem Fails.trim_ne_nil (fails : Fails scanner line rest fault) : trim line ≠ [] := by
  cases fails with
  | refused refused => exact (read_eq_error refused).1
  | unterminated nonempty => exact nonempty

/-- A line feed cannot be the reason why a single line fails. -/
theorem Fails.ne_lineFeed (fails : Fails scanner line rest fault) (one_line : '\n' ∉ line) :
    fault ≠ .noPredicate .lineFeed := by
  cases fails with
  | refused refused => exact (read_eq_error refused).2.2 one_line
  | unterminated => simp

/-- Only a definition that nothing ends is reported as one. -/
theorem Fails.endless {concept : Text} (fails : Fails scanner line rest (.unterminated concept)) :
    ∀ later ∈ rest, trim later ≠ terminator := by
  cases fails with
  | refused refused => exact absurd rfl ((read_eq_error refused).2.1 concept)
  | unterminated _ _ endless => exact endless

/-- Whether a line fails does not depend on the lines behind it, as long as these do not end the
definition that it opens. -/
theorem Fails.of_rest {others : List Text} (fails : Fails scanner line rest fault)
    (endless : ∀ concept, fault = .unterminated concept →
      ∀ later ∈ others, trim later ≠ terminator) :
    Fails scanner line others fault := by
  cases fails with
  | refused refused => exact .refused refused
  | unterminated nonempty opens => exact .unterminated nonempty opens (endless _ rfl)

/-- Scanning ends at a failing line. -/
theorem Fails.fault_scanFrom (fails : Fails scanner line rest fault) :
    (scanFrom scanner (line :: rest)).fault = some ⟨scanner.line, fault⟩ := by
  cases fails with
  | refused refused => rw [scanFrom, refused]
  | @unterminated concept _ opens endless =>
      have inside := (Document.reads_body endless (scanner.line + 1) scanner.defined
        ⟨scanner.line, concept, []⟩).scanFrom_append []
      rw [List.append_nil] at inside
      rw [scanFrom, opens]
      simp only [Scanner.opening, inside]
      rfl

/-- A scan with a fault stays in the definition in which it begins, or reads on, outside a
definition at last, to a line that fails. -/
theorem fault_scanFrom_cases {fault : Numbered Fault}
    (failed : (scanFrom scanner lines).fault = some fault) :
    (∃ block, scanner.block = some block ∧ fault = ⟨block.line, .unterminated block.concept⟩ ∧
        ∀ line ∈ lines, trim line ≠ terminator) ∨
      ∃ front line rest statements middle, lines = front ++ line :: rest ∧
        Reads scanner front statements middle ∧ middle.block = none ∧
        fault.line = middle.line ∧ Fails middle line rest fault.content := by
  induction lines generalizing scanner with
  | nil =>
      rw [scanFrom_nil, Scanner.endFault?, Option.map_eq_some_iff] at failed
      obtain ⟨block, inside, rfl⟩ := failed
      exact .inl ⟨block, inside, rfl, by simp⟩
  | cons line rest ih =>
      rw [scanFrom] at failed
      cases step : scanner.read line with
      | error refusal =>
          rw [step] at failed
          obtain rfl := Option.some.inj failed
          cases inside : scanner.block with
          | none =>
              exact .inr ⟨[], line, rest, [], scanner, rfl, .nil scanner, inside, rfl,
                .refused step⟩
          | some block => simp [Scanner.read, inside] at step
      | ok result =>
          obtain ⟨next, statement⟩ := result
          rw [step] at failed
          rcases ih failed with ⟨block, opened, rfl, endless⟩ | later
          · cases inside : scanner.block with
            | none =>
                -- the line opens the definition in which the rest of the scan stays
                rcases read_outside_cases inside line with
                  ⟨_, read⟩ | ⟨_, read⟩ | ⟨concept, nonempty, read⟩ <;> rw [read] at step
                · simp at step
                · obtain rfl := (Prod.mk.inj (Except.ok.inj step)).1
                  simp at opened
                · obtain rfl := (Prod.mk.inj (Except.ok.inj step)).1
                  obtain rfl := Option.some.inj opened
                  exact .inr ⟨[], line, rest, [], scanner, rfl, .nil scanner, inside, rfl,
                    .unterminated nonempty read endless⟩
            | some outer =>
                rcases read_inside_cases inside line with ⟨ends, read⟩ | ⟨goes_on, read⟩ <;>
                  rw [read] at step <;> obtain rfl := (Prod.mk.inj (Except.ok.inj step)).1
                · simp at opened
                · obtain rfl := Option.some.inj opened
                  exact .inl ⟨outer, rfl, rfl, by simpa using ⟨goes_on, endless⟩⟩
          · obtain ⟨front, failing, behind, statements, middle, rfl, reads, outside, number,
              fails⟩ := later
            exact .inr ⟨line :: front, failing, behind, _, middle, rfl, .cons step reads, outside,
              number, fails⟩

end Statement

namespace Document

open Text Statement

theorem parse_eq_error_iff {text : Text} {fault : Numbered Fault} :
    parse text = .error fault ↔ (scanFrom {} (splitLines text)).fault = some fault := by
  rw [parse, scan]
  cases (scanFrom {} (splitLines text)).fault <;> simp

/-- A document that is not accepted has a first failing line, which is reported. -/
theorem exists_fails_of_parse {text : Text} {fault : Numbered Fault}
    (failed : parse text = .error fault) :
    ∃ front line rest statements middle, splitLines text = front ++ line :: rest ∧
      fault.line = front.length + 1 ∧ Reads {} front statements middle ∧ middle.block = none ∧
      Fails middle line rest fault.content := by
  rcases fault_scanFrom_cases (parse_eq_error_iff.1 failed) with ⟨block, inside, _⟩ | found
  · simp at inside
  · obtain ⟨front, line, rest, statements, middle, lines_eq, reads, outside, number, fails⟩ := found
    refine ⟨front, line, rest, statements, middle, lines_eq, ?_, reads, outside, fails⟩
    rw [number, reads.line_eq, Nat.add_comm]

/-- Lines that are read up to a failing one make a document that is not accepted. -/
theorem parse_of_fails {text line : Text} {front rest : List Text}
    {statements : List (Numbered Statement)} {middle : Scanner} {fault : Fault}
    (lines_eq : splitLines text = front ++ line :: rest) (reads : Reads {} front statements middle)
    (fails : Fails middle line rest fault) : parse text = .error ⟨front.length + 1, fault⟩ := by
  rw [parse_eq_error_iff, lines_eq, reads.scanFrom_append]
  simp only [fails.fault_scanFrom, reads.line_eq, Nat.add_comm]

/-- A document with the same lines up to a failing one fails there, too, if the lines behind it do
not end what it opens. -/
theorem parse_of_take_eq {other line : Text} {front rest : List Text}
    {statements : List (Numbered Statement)} {middle : Scanner} {fault : Fault}
    (reads : Reads {} front statements middle) (fails : Fails middle line rest fault)
    (same : (splitLines other).take (front.length + 1) = front ++ [line])
    (endless : ∀ concept, fault = .unterminated concept →
      ∀ later ∈ (splitLines other).drop (front.length + 1), trim later ≠ terminator) :
    parse other = .error ⟨front.length + 1, fault⟩ := by
  have other_eq : splitLines other =
      front ++ line :: (splitLines other).drop (front.length + 1) := by
    conv_lhs => rw [← List.take_append_drop (front.length + 1) (splitLines other), same]
    rw [List.append_assoc, List.singleton_append]
  exact parse_of_fails other_eq reads (fails.of_rest endless)

/-- Lines that are read from the start to outside a definition make a document by themselves. -/
theorem exists_parse_of_reads {front : List Text} {statements : List (Numbered Statement)}
    {last : Scanner} (one_line : ∀ line ∈ front, '\n' ∉ line)
    (reads : Reads {} front statements last) (closed : last.block = none) :
    ∃ document, parse (joinLines front) = .ok document := by
  cases front with
  | nil => exact ⟨_, rfl⟩
  | cons first rest =>
      have lines_eq := splitLines_joinLines_of_not_mem (List.cons_ne_nil first rest) one_line
      exact ⟨_, parse_eq_ok_iff.2 ⟨statements, last, lines_eq.symm ▸ reads, closed, rfl⟩⟩

theorem report_of_error {text : Text} {fault : Numbered Fault}
    (failed : parse text = .error fault) :
    report text = { errors := [Fault.remark fault] } := by
  rw [report, failed]

theorem report_of_ok {text : Text} {document : Document} (parsed : parse text = .ok document) :
    report text = { declarations := document.declarations
                    warnings := document.warnings.map Warning.remark } := by
  rw [report, parsed]

/-- A document with errors has one, and declares nothing.  It is about a line that is not blank
and that comes behind lines that can be read.  Whatever follows that line, the report is the same,
unless a definition without an end is reported and would be ended.  No document is told that a line
contains a line feed. -/
theorem errors_localized {text : Text} (failed : (report text).errors ≠ []) :
    ∃ fault : Numbered Fault, parse text = .error fault ∧
      report text =
        { declarations := ⟨[], []⟩
          errors := [⟨fault.line, 1, fault.content.message fault.line, "syntax"⟩]
          warnings := [] } ∧
      1 ≤ fault.line ∧ fault.line ≤ (splitLines text).length ∧
      (∃ line, (splitLines text)[fault.line - 1]? = some line ∧ trim line ≠ []) ∧
      (report (joinLines ((splitLines text).take (fault.line - 1)))).errors = [] ∧
      (∀ other : Text,
        (splitLines other).take fault.line = (splitLines text).take fault.line →
        (∀ concept, fault.content = .unterminated concept →
          ∀ later ∈ (splitLines other).drop fault.line, trim later ≠ terminator) →
        report other = report text) ∧
      (∀ concept, fault.content = .unterminated concept →
        ∀ later ∈ (splitLines text).drop fault.line, trim later ≠ terminator) ∧
      ¬ String.toList "Newlines not allowed" <+: fault.content.message fault.line := by
  cases parsed : parse text with
  | ok document => simp [report_of_ok parsed] at failed
  | error fault =>
      obtain ⟨front, line, rest, statements, middle, lines_eq, number, reads, outside, fails⟩ :=
        exists_fails_of_parse parsed
      have one_line : ∀ other ∈ front ++ line :: rest, '\n' ∉ other := fun other found =>
        not_mem_of_mem_splitLines (lines_eq ▸ found)
      have take_eq : (splitLines text).take fault.line = front ++ [line] := by
        rw [lines_eq, number, List.take_length_add_append]
        rfl
      have drop_eq : (splitLines text).drop fault.line = rest := by
        rw [lines_eq, number, List.drop_length_add_append]
        rfl
      refine ⟨fault, rfl, report_of_error parsed, by omega, ?_, ⟨line, ?_, fails.trim_ne_nil⟩, ?_,
        ?_, ?_, ?_⟩
      · rw [lines_eq, List.length_append, List.length_cons]
        omega
      · rw [lines_eq, number]
        simp
      · obtain ⟨document, accepted⟩ := exists_parse_of_reads
          (fun other found => one_line other (List.mem_append_left _ found)) reads outside
        rw [lines_eq, number, Nat.add_sub_cancel, List.take_left, report_of_ok accepted]
      · intro other same endless
        rw [take_eq, number] at same
        rw [number] at endless
        have other_failed := parse_of_take_eq reads fails same endless
        rw [report_of_error parsed, report_of_error other_failed, ← number]
      · intro concept unterminated
        rw [drop_eq]
        rw [unterminated] at fails
        exact fails.endless
      · intro starts
        exact fails.ne_lineFeed (one_line line (by simp)) (Fault.eq_lineFeed_of_prefix starts)

/-- The error about a definition without an end is the same with other lines behind its first. -/
theorem errors_localized_of_endless_definition :
    let text : Text := "a -- b -> c\n\nx:\nb -- c"
    let other : Text := "a -- b -> c\n\nx:\n- --\ny:\n----"
    (report text).errors ≠ [] ∧ (report text).errors.map (·.line) = [3] ∧
      report other = report text := by
  intro text other
  have failed : (report text).errors ≠ [] := by decide
  have third : (report text).errors.map (·.line) = [3] := by decide
  obtain ⟨fault, -, report_eq, -, -, -, -, same, -⟩ := errors_localized failed
  have number : fault.line = 3 := by
    rw [report_eq] at third
    exact List.singleton_inj.1 third
  rw [number] at same
  exact ⟨failed, third, same other (by decide) fun _ _ => by decide⟩

end Document
end ConceptMap
