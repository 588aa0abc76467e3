import ConceptMap.Proofs.Document.Reading
import ConceptMap.Report

/-!
# Carriage returns before line feeds

A document whose line feeds all have a carriage return in front of them is told the same as without
these, except that they stay inside the definitions: on a line of its own a carriage return is a
blank at the end, and only lines within a definition are kept with their blanks.
-/

namespace ConceptMap
namespace Text

/-- The text with a carriage return in front of every line feed. -/
def crlf (text : Text) : Text :=
  text.flatMap fun character => if character = '\n' then ['\r', '\n'] else [character]

variable {text line : Text}

theorem crlf_cons_of_ne {character : Char} (not_newline : character ≠ '\n') (rest : Text) :
    crlf (character :: rest) = character :: crlf rest := by
  rw [crlf, List.flatMap_cons, if_neg not_newline]
  rfl

theorem crlf_newline (rest : Text) : crlf ('\n' :: rest) = '\r' :: '\n' :: crlf rest := rfl

theorem crlf_append (first second : Text) : crlf (first ++ second) = crlf first ++ crlf second :=
  List.flatMap_append

theorem crlf_eq_self (one_line : '\n' ∉ line) : crlf line = line := by
  induction line with
  | nil => rfl
  | cons character rest ih =>
      rw [List.mem_cons, not_or] at one_line
      rw [crlf_cons_of_ne (Ne.symm one_line.1), ih one_line.2]

/-! ## Lines -/

theorem joinLines_cons {rest : List Text} (nonempty : rest ≠ []) (first : Text) :
    joinLines (first :: rest) = first ++ '\n' :: joinLines rest := by
  cases rest with
  | nil => exact absurd rfl nonempty
  | cons second rest =>
      rw [joinLines, join_cons_cons, List.append_assoc]
      rfl

/-- Joined lines get a carriage return at the end of every line but the last. -/
theorem joinLines_crlf (front : List Text) (last : Text) :
    joinLines (front.map (fun line => crlf line ++ ['\r']) ++ [crlf last]) =
      crlf (joinLines (front ++ [last])) := by
  induction front with
  | nil => rfl
  | cons first rest ih =>
      rw [List.map_cons, List.cons_append, List.cons_append, joinLines_cons (by simp), ih,
        joinLines_cons (by simp), crlf_append, crlf_newline, List.append_assoc]
      rfl

theorem splitLines_crlf {front : List Text} {last : Text}
    (lines_eq : splitLines text = front ++ [last]) :
    splitLines (crlf text) = front.map (· ++ ['\r']) ++ [last] := by
  have one_line : ∀ line ∈ front ++ [last], '\n' ∉ line := fun _ found =>
    not_mem_of_mem_splitLines (lines_eq ▸ found)
  have front_eq : front.map (fun line => crlf line ++ ['\r']) = front.map (· ++ ['\r']) :=
    List.map_congr_left fun line found => by
      rw [crlf_eq_self (one_line line (List.mem_append_left _ found))]
  have last_eq : crlf last = last := crlf_eq_self (one_line last (by simp))
  have text_eq : crlf text = joinLines (front.map (· ++ ['\r']) ++ [last]) := by
    rw [← joinLines_splitLines text, lines_eq, ← joinLines_crlf, front_eq, last_eq]
  rw [text_eq]
  refine splitLines_joinLines_of_not_mem (by simp) fun line found => ?_
  rcases List.mem_append.1 found with inside | final
  · obtain ⟨narrow, narrow_found, rfl⟩ := List.mem_map.1 inside
    have narrow_one := one_line narrow (List.mem_append_left _ narrow_found)
    simpa using narrow_one
  · exact one_line line (List.mem_append_right _ final)

theorem joinLines_concat_append (front : List Text) (last margin : Text) :
    joinLines (front ++ [last ++ margin]) = joinLines (front ++ [last]) ++ margin := by
  induction front with
  | nil => rfl
  | cons first rest ih =>
      rw [List.cons_append, List.cons_append, joinLines_cons (by simp), ih,
        joinLines_cons (by simp), List.append_assoc]
      rfl

/-! ## Trimming -/

theorem allBlank_crlf (blank : AllBlank text) : AllBlank (crlf text) := by
  intro character found
  obtain ⟨source, source_found, inside⟩ := List.mem_flatMap.1 found
  split at inside
  next =>
    rcases List.mem_cons.1 inside with rfl | feed
    · decide
    · obtain rfl := List.mem_singleton.1 feed
      decide
  next =>
    obtain rfl := List.mem_singleton.1 inside
    exact blank character source_found

theorem isTrimmed_crlf (trimmed : IsTrimmed text) : IsTrimmed (crlf text) := by
  rw [isTrimmed_iff] at trimmed ⊢
  constructor
  · cases text with
    | nil => simp [crlf]
    | cons first rest =>
        have visible : isBlank first = false := trimmed.1 first rfl
        have not_newline : first ≠ '\n' := by
          rintro rfl
          exact absurd visible (by decide)
        rw [crlf_cons_of_ne not_newline]
        exact trimmed.1
  · rcases List.eq_nil_or_concat text with rfl | ⟨front, last, rfl⟩
    · simp [crlf]
    · rw [List.concat_eq_append] at trimmed ⊢
      have visible : isBlank last = false := trimmed.2 last (by simp)
      have not_newline : last ≠ '\n' := by
        rintro rfl
        exact absurd visible (by decide)
      rw [crlf_append, crlf_cons_of_ne not_newline]
      simpa [crlf] using visible

/-- Trimming does not tell the two kinds of line endings apart. -/
theorem trim_crlf (text : Text) : trim (crlf text) = crlf (trim text) := by
  obtain ⟨front, back, front_blank, back_blank, text_eq⟩ := exists_append_trim_append text
  calc
    trim (crlf text) = trim (crlf front ++ crlf (trim text) ++ crlf back) := by
      rw [← crlf_append, ← crlf_append, ← text_eq]
    _ = trim (crlf (trim text)) := by
      rw [trim_append_of_allBlank (allBlank_crlf back_blank),
        trim_allBlank_append (allBlank_crlf front_blank)]
    _ = crlf (trim text) := isTrimmed_crlf (isTrimmed_trim text)

theorem trim_append_return (line : Text) : trim (line ++ ['\r']) = trim line :=
  trim_append_of_allBlank (by simp [AllBlank, isBlank]) line

end Text

namespace Definition

/-- The definition with a carriage return in front of every line feed of the explanation. -/
def crlf (definition : Definition) : Definition :=
  { definition with text := definition.text.crlf }

end Definition

namespace Statement

open Text

/-- The statement with a carriage return in front of every line feed of an explanation. -/
def crlf : Statement → Statement
  | .relates predicate => .relates predicate
  | .defines definition => .defines definition.crlf

/-- The block after lines that end with a carriage return. -/
def OpenBlock.crlf (block : OpenBlock) : OpenBlock :=
  { block with body := block.body.map fun line => line.crlf ++ ['\r'] }

/-- The scanner behind lines that end with a carriage return. -/
def Scanner.crlf (scanner : Scanner) : Scanner :=
  { scanner with block := scanner.block.map OpenBlock.crlf }

variable {scanner : Scanner} {line other : Text} {lines front : List Text}

theorem OpenBlock.close_crlf (block : OpenBlock) :
    block.crlf.close = ⟨block.line, block.close.content.crlf⟩ := by
  obtain ⟨number, concept, body⟩ := block
  rcases List.eq_nil_or_concat body with rfl | ⟨front, last, rfl⟩
  · rfl
  · simp only [OpenBlock.close, OpenBlock.crlf, Statement.crlf, Definition.crlf,
      List.concat_eq_append, List.map_append, List.map_singleton]
    rw [joinLines_concat_append, joinLines_crlf, trim_append_return, trim_crlf]

/-- A carriage return at its end changes nothing in how a line is read, except that it is kept
within a definition. -/
theorem read_crlf (one_line : '\n' ∉ line) :
    scanner.crlf.read (line ++ ['\r']) =
      (scanner.read line).map fun (next, statement) =>
        (next.crlf, statement.map fun statement => ⟨statement.line, statement.content.crlf⟩) := by
  obtain ⟨number, defined, block⟩ := scanner
  cases block with
  | none =>
      simp only [Scanner.crlf, Option.map_none, Scanner.read]
      rw [readOutside_congr (trim_append_return line), Scanner.readOutside]
      split
      next => rfl
      next =>
        split
        next =>
          split
          next => rfl
          next => rfl
        next =>
          split
          next => rfl
          next =>
            split
            next => rfl
            next => rfl
  | some block =>
      simp only [Scanner.crlf, Scanner.read, Option.map_some, Scanner.readInside,
        trim_append_return]
      split
      next =>
        rw [OpenBlock.close_crlf]
        rfl
      next => simp [Except.map, OpenBlock.crlf, crlf_eq_self one_line]

/-- The last line counts only by its trimmed form: a definition that it does not end has no end. -/
theorem scanFrom_append_congr (trim_eq : trim line = trim other) :
    scanFrom scanner (front ++ [line]) = scanFrom scanner (front ++ [other]) := by
  induction front generalizing scanner with
  | nil =>
      rw [List.nil_append, List.nil_append, scanFrom, scanFrom, Scanner.read, Scanner.read]
      cases scanner.block with
      | none =>
          simp only
          rw [readOutside_congr trim_eq]
      | some block =>
          simp only [Scanner.readInside, trim_eq]
          split
          next => rfl
          next => rfl
  | cons first rest ih =>
      rw [List.cons_append, List.cons_append, scanFrom, scanFrom]
      split
      next => rfl
      next =>
        simp only
        rw [ih]

theorem scanFrom_crlf (scanner : Scanner) (one_line : ∀ line ∈ lines, '\n' ∉ line) :
    scanFrom scanner.crlf (lines.map (· ++ ['\r'])) =
      ⟨(scanFrom scanner lines).statements.map fun statement =>
          ⟨statement.line, statement.content.crlf⟩,
        (scanFrom scanner lines).fault⟩ := by
  induction lines generalizing scanner with
  | nil =>
      obtain ⟨number, defined, block⟩ := scanner
      cases block with
      | none => rfl
      | some block => rfl
  | cons line rest ih =>
      rw [List.map_cons, scanFrom, scanFrom, read_crlf (one_line line List.mem_cons_self)]
      cases scanner.read line with
      | error fault => rfl
      | ok result =>
          obtain ⟨next, statement⟩ := result
          simp only [Except.map]
          rw [ih next fun line found => one_line line (List.mem_cons_of_mem _ found),
            List.map_append]
          cases statement with
          | none => rfl
          | some statement => rfl

theorem scan_crlf (text : Text) :
    scan (splitLines text.crlf) =
      ⟨(scan (splitLines text)).statements.map fun statement =>
          ⟨statement.line, statement.content.crlf⟩,
        (scan (splitLines text)).fault⟩ := by
  obtain ⟨front, last, lines_eq⟩ := exists_splitLines_eq_append text
  have lines_crlf : (splitLines text).map (· ++ ['\r']) =
      front.map (· ++ ['\r']) ++ [last ++ ['\r']] := by
    rw [lines_eq, List.map_append]
    rfl
  calc
    scan (splitLines text.crlf) = scan (front.map (· ++ ['\r']) ++ [last]) := by
      rw [splitLines_crlf lines_eq]
    _ = scan ((splitLines text).map (· ++ ['\r'])) := by
      rw [lines_crlf]
      exact scanFrom_append_congr (trim_append_return last).symm
    _ = _ := scanFrom_crlf {} fun _ => not_mem_of_mem_splitLines

end Statement

namespace Document

open Text Statement

/-- The document with a carriage return in front of every line feed of its explanations. -/
def crlf (document : Document) : Document :=
  { document with
    definitions := document.definitions.map fun definition =>
      ⟨definition.line, definition.content.crlf⟩ }

theorem ofStatements_crlf (statements : List (Numbered Statement)) :
    ofStatements (statements.map fun statement => ⟨statement.line, statement.content.crlf⟩) =
      (ofStatements statements).crlf := by
  have predicate_eq (statement : Statement) :
      statement.crlf.predicate? = statement.predicate? := by
    cases statement <;> rfl
  have definition_eq (statement : Statement) :
      statement.crlf.definition? = statement.definition?.map Definition.crlf := by
    cases statement <;> rfl
  simp only [ofStatements, crlf, List.filterMap_map, List.map_filterMap, Function.comp_def,
    predicate_eq, definition_eq, Option.map_map]

theorem parse_crlf (text : Text) : parse text.crlf = (parse text).map crlf := by
  rw [parse, parse, scan_crlf]
  cases (scan (splitLines text)).fault with
  | some fault => rfl
  | none => exact congrArg Except.ok (ofStatements_crlf _)

/-- What is doubtful about a document does not depend on the explanations. -/
theorem warnings_crlf (document : Document) : document.crlf.warnings = document.warnings := by
  simp [warnings, orphans, undefined, references, crlf, List.filter_map, Function.comp_def,
    Definition.crlf]

/-- With a carriage return in front of every line feed a document has the same errors and warnings,
at the same lines, and the same predicates and defined concepts, in the same order.  The
explanations differ in these carriage returns only. -/
theorem report_crlf (text : Text) :
    (report text.crlf).errors = (report text).errors ∧
      (report text.crlf).warnings = (report text).warnings ∧
      (report text.crlf).declarations.predicates = (report text).declarations.predicates ∧
      (report text.crlf).declarations.definitions =
        (report text).declarations.definitions.map fun definition =>
          ⟨definition.concept, definition.text.crlf⟩ := by
  rw [report, report, parse_crlf]
  cases parse text with
  | error fault => exact ⟨rfl, rfl, rfl, rfl⟩
  | ok document =>
      refine ⟨rfl, ?_, rfl, ?_⟩
      · simp only [Except.map, warnings_crlf]
      · simp [Except.map, declarations, crlf, Definition.crlf]

end Document
end ConceptMap
