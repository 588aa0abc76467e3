import ConceptMap.Proofs.Document.Written
import ConceptMap.Text.Summary

/-!
# Summaries

The lines of a text in the wider sense end at every Unicode line boundary.  All of these are blank,
so a trimmed text has no empty first line, and a text has a first line unless it is blank.  A
summary is that line, or as much of it as leaves room for an ellipsis; a definition of a document
always has one, since its text is trimmed.
-/

namespace ConceptMap
namespace Text

/-- The lines of a text in the wider sense.  CR LF is one boundary, and none opens a line at the end
of the text. -/
def brokenLines : Text → List Text
  | [] => []
  | '\r' :: '\n' :: rest => [] :: brokenLines rest
  | character :: rest =>
      if isLineBreak character then [] :: brokenLines rest
      else
        match brokenLines rest with
        | [] => [[character]]
        | line :: lines => (character :: line) :: lines

variable {character : Char} {text : Text}

theorem isBlank_of_isLineBreak (breaks : isLineBreak character = true) :
    isBlank character = true := by
  simp only [isLineBreak, isBlank, Bool.or_eq_true, Bool.and_eq_true, decide_eq_true_eq,
    beq_iff_eq] at breaks ⊢
  omega

theorem isLineBreak_eq_false_of_mem_firstLine (found : character ∈ firstLine text) :
    isLineBreak character = false := by
  simpa using List.mem_takeWhile_imp found

theorem firstLine_cons_of_break {rest : Text} (breaks : isLineBreak character = true) :
    firstLine (character :: rest) = [] := by
  rw [firstLine, List.takeWhile_cons_of_neg (by simpa using breaks)]

theorem firstLine_cons_of_not_break {rest : Text} (plain : isLineBreak character = false) :
    firstLine (character :: rest) = character :: firstLine rest := by
  rw [firstLine, List.takeWhile_cons_of_pos (by simpa using plain)]
  rfl

/-- The first line is the text before the first boundary. -/
theorem headD_brokenLines (text : Text) : (brokenLines text).headD [] = firstLine text := by
  fun_induction brokenLines text with
  | case1 => rfl
  | case2 => rfl
  | case3 character rest _ breaks ih =>
      rw [firstLine_cons_of_break breaks]
      rfl
  | case4 character rest _ plain ended ih =>
      rw [firstLine_cons_of_not_break (by simpa using plain), ← ih, ended]
      rfl
  | case5 character rest _ plain line lines found ih =>
      rw [firstLine_cons_of_not_break (by simpa using plain), ← ih, found]
      rfl

/-- A text without a blank at its start does not begin with a boundary. -/
theorem IsTrimmed.firstLine_ne_nil (trimmed : IsTrimmed text) (nonempty : text ≠ []) :
    firstLine text ≠ [] := by
  obtain ⟨first, rest, rfl⟩ := List.exists_cons_of_ne_nil nonempty
  have not_blank : isBlank first = false := (isTrimmed_iff.1 trimmed).1 first rfl
  have plain : isLineBreak first = false := by
    rw [Bool.eq_false_iff]
    intro breaks
    simp [isBlank_of_isLineBreak breaks] at not_blank
  rw [firstLine_cons_of_not_break plain]
  exact List.cons_ne_nil _ _

end Text

namespace Summary

open Text

/-- A line as it fits into a width: all of it, or as much as leaves room for an ellipsis. -/
inductive Shortens (width : Int) (line : Text) : Text → Prop where
  | whole (fits : line.length ≤ width) : Shortens width line line
  | cut (long : width < line.length) :
      Shortens width line (line.take (width - 1).toNat ++ ['…'])

/-- The text is not empty, but trimming leaves nothing of it. -/
def IsBlankOnly (text : Text) : Prop := text ≠ [] ∧ trim text = []

instance (text : Text) : Decidable (IsBlankOnly text) :=
  inferInstanceAs (Decidable (text ≠ [] ∧ trim text = []))

theorem not_isBlankOnly {text : Text} (trimmed : IsTrimmed text) :
    ¬ IsBlankOnly text := by
  rintro ⟨nonempty, blank⟩
  exact nonempty (trimmed.symm.trans blank)

/-- The summary is the first line of the text, as far as it fits. -/
structure SumsUp (width : Int) (text summary : Text) : Prop where
  length_le : summary.length ≤ width
  one_line : ∀ character ∈ summary, isLineBreak character = false
  nonempty : text ≠ [] → summary ≠ []
  shortens : Shortens width ((brokenLines (trim text)).headD []) summary
  whole_iff : summary = (brokenLines (trim text)).headD [] ↔
    ((brokenLines (trim text)).headD []).length ≤ width

variable {width : Int} {first summary : Text}

/-- A width that has room for the ellipsis is never counted from the end of the line. -/
theorem shortens_shorten (positive : 1 ≤ width) (first : Text) :
    Shortens width first (shorten width first) := by
  rw [shorten]
  split
  next fits => exact .whole fits
  next long =>
    rw [upTo, if_neg (by omega)]
    exact .cut (by omega)

theorem Shortens.length_le (positive : 1 ≤ width) (shortens : Shortens width first summary) :
    summary.length ≤ width := by
  cases shortens with
  | whole fits => exact fits
  | cut long =>
      rw [List.length_append, List.length_take, List.length_singleton]
      omega

theorem Shortens.one_line (shortens : Shortens width first summary)
    (unbroken : ∀ character ∈ first, isLineBreak character = false) :
    ∀ character ∈ summary, isLineBreak character = false := by
  cases shortens with
  | whole => exact unbroken
  | cut =>
      intro character found
      rcases List.mem_append.1 found with inside | ellipsis
      · exact unbroken character (List.mem_of_mem_take inside)
      · rw [List.mem_singleton.1 ellipsis]
        decide

theorem Shortens.ne_nil (shortens : Shortens width first summary) (nonempty : first ≠ []) :
    summary ≠ [] := by
  cases shortens with
  | whole => exact nonempty
  | cut => exact List.append_ne_nil_of_right_ne_nil _ (List.cons_ne_nil _ _)

/-- The line is given as a whole exactly when it fits. -/
theorem Shortens.eq_iff (positive : 1 ≤ width) (shortens : Shortens width first summary) :
    summary = first ↔ first.length ≤ width := by
  cases shortens with
  | whole fits => exact ⟨fun _ => fits, fun _ => rfl⟩
  | cut long =>
      constructor
      · -- what is cut is as long as the width, and the line is longer
        intro same
        have lengths_eq := congrArg List.length same
        rw [List.length_append, List.length_take, List.length_singleton] at lengths_eq
        omega
      · intro fits
        omega

variable {text : Text}

theorem sumsUp_shorten (positive : 1 ≤ width) (filled : ¬ IsBlankOnly text) :
    SumsUp width text (shorten width (firstLine (trim text))) := by
  have first_eq := headD_brokenLines (trim text)
  have shortens := shortens_shorten positive (firstLine (trim text))
  exact
    { length_le := shortens.length_le positive
      one_line := shortens.one_line fun _ => isLineBreak_eq_false_of_mem_firstLine
      nonempty := fun nonempty =>
        shortens.ne_nil ((isTrimmed_trim text).firstLine_ne_nil fun blank =>
          filled ⟨nonempty, blank⟩)
      shortens := by rwa [first_eq]
      whole_iff := by rw [first_eq, shortens.eq_iff positive] }

/-- A missing text counts as an empty one. -/
theorem line_of_not_blankOnly (positive : 1 ≤ width) {given : Option Text}
    (filled : ¬ IsBlankOnly (given.getD [])) :
    line width given = .ok (shorten width (firstLine (trim (given.getD [])))) := by
  have shorten_nil : shorten width [] = [] := if_pos (by rw [List.length_nil]; omega)
  unfold line
  split
  next => exact congrArg Except.ok shorten_nil.symm
  next => exact congrArg Except.ok shorten_nil.symm
  next text nonempty =>
    split
    next blank => exact absurd ⟨nonempty, blank⟩ filled
    next => rfl

theorem line_of_blankOnly {given : Option Text} (blank : IsBlankOnly (given.getD [])) :
    line width given = .error .blank := by
  obtain ⟨nonempty, trim_eq⟩ := blank
  unfold line
  split
  next => exact absurd rfl nonempty
  next => exact absurd rfl nonempty
  next text _ =>
    split
    next => rfl
    next filled => exact absurd trim_eq filled

/-- With room for the ellipsis, only a text of nothing but blanks has no summary.  Any other summary
fits into the width, is on one line, is empty only if the text is, and is the first line of the
trimmed text or, exactly if that is too long, what fits of it in front of an ellipsis.  Definitions
of documents always have a summary. -/
theorem line_exact (positive : 1 ≤ width) (given : Option Text) :
    ((∃ fault, line width given = .error fault) ↔ IsBlankOnly (given.getD [])) ∧
      (¬ IsBlankOnly (given.getD []) →
        ∃ summary, line width given = .ok summary ∧ SumsUp width (given.getD []) summary) ∧
      ∀ (source : Text) (document : Document), Document.parse source = .ok document →
        ∀ definition ∈ document.declarations.definitions,
          ∃ summary, line width (some definition.text) = .ok summary := by
  refine ⟨⟨?_, ?_⟩, ?_, ?_⟩
  · rintro ⟨fault, failed⟩
    by_contra filled
    simp [line_of_not_blankOnly positive filled] at failed
  · intro blank
    exact ⟨_, line_of_blankOnly blank⟩
  · intro filled
    exact ⟨_, line_of_not_blankOnly positive filled, sumsUp_shorten positive filled⟩
  · intro source document parsed definition found
    have printable := (Document.printable_of_parse parsed).definitions definition found
    have filled : ¬ IsBlankOnly ((some definition.text).getD []) :=
      not_isBlankOnly printable.text_trimmed
    exact ⟨_, line_of_not_blankOnly positive filled⟩

/-- The first line ends at a line separator, and three of its characters stand in front of the
ellipsis; a body that begins with other boundaries has a summary, too. -/
theorem line_exact_of_long_first_line :
    let text : Text := " \r\nabcde\u2028f"
    let source : Text := "a:\n\u0085\u2029 abcde\n---\na -- r -> b"
    let document : Document :=
      { predicates := [⟨4, ⟨"a", "r", "b"⟩⟩], definitions := [⟨1, ⟨"a", "abcde"⟩⟩] }
    (1 : Int) ≤ 4 ∧ ¬ IsBlankOnly text ∧
      (line 4 (some text) = .ok "abc…" ∧ SumsUp 4 text "abc…") ∧
      Document.parse source = .ok document ∧
      ∃ summary, line 4 (some "abcde") = .ok summary := by
  intro text source document
  have positive : (1 : Int) ≤ 4 := by decide
  have filled : ¬ IsBlankOnly text := by decide
  have parsed : Document.parse source = .ok document := by decide
  obtain ⟨-, sums_up, always⟩ := line_exact positive (some text)
  obtain ⟨summary, made, fits⟩ := sums_up filled
  have short : line 4 (some text) = .ok "abc…" := by decide
  obtain rfl : summary = "abc…" := Except.ok.inj (made.symm.trans short)
  exact ⟨positive, filled, ⟨short, fits⟩, parsed,
    always source document parsed ⟨"a", "abcde"⟩ (by decide)⟩

end Summary
end ConceptMap
