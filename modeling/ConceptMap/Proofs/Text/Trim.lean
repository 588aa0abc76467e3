import ConceptMap.Text.Blank
import Mathlib.Data.List.DropRight

/-!
# Trimmed texts

A text is its trimmed core between two blank margins, and the margins do not matter for the core.
A text is trimmed when neither its first nor its last character is blank.
-/

namespace ConceptMap
namespace Text

/-- The text consists of blanks only. -/
def AllBlank (text : Text) : Prop := ∀ character ∈ text, isBlank character = true

theorem allBlank_append {first second : Text} :
    AllBlank (first ++ second) ↔ AllBlank first ∧ AllBlank second := by
  simp [AllBlank, or_imp, forall_and]

theorem trimEnd_eq_nil_iff {text : Text} : trimEnd text = [] ↔ AllBlank text :=
  List.rdropWhile_eq_nil_iff

theorem exists_append_trimStart (text : Text) :
    ∃ margin, AllBlank margin ∧ text = margin ++ trimStart text :=
  ⟨text.takeWhile isBlank, fun _ found => List.mem_takeWhile_imp found,
    List.takeWhile_append_dropWhile.symm⟩

theorem exists_trimEnd_append (text : Text) :
    ∃ margin, AllBlank margin ∧ text = trimEnd text ++ margin := by
  obtain ⟨margin, blank, reverse_eq⟩ := exists_append_trimStart text.reverse
  refine ⟨margin.reverse, fun character found => blank character (List.mem_reverse.1 found), ?_⟩
  have text_eq := congrArg List.reverse reverse_eq
  simpa [trimEnd, trimStart] using text_eq

theorem trimStart_append_of_allBlank {margin : Text} (blank : AllBlank margin) (text : Text) :
    trimStart (margin ++ text) = trimStart text :=
  List.dropWhile_append_of_pos blank

/-- Trimming at the end stops inside the second text, unless that is blank. -/
theorem trimEnd_append (first second : Text) :
    trimEnd (first ++ second) =
      if trimEnd second = [] then trimEnd first else first ++ trimEnd second := by
  simp only [trimEnd, List.reverse_append, List.dropWhile_append, List.isEmpty_iff,
    List.reverse_eq_nil_iff]
  split <;> simp

theorem trimEnd_append_of_allBlank {margin : Text} (blank : AllBlank margin) (text : Text) :
    trimEnd (text ++ margin) = trimEnd text := by
  rw [trimEnd_append, if_pos (trimEnd_eq_nil_iff.2 blank)]

/-! ## First and last characters -/

theorem trimStart_eq_self_iff {text : Text} :
    trimStart text = text ↔ ∀ first ∈ text.head?, isBlank first = false := by
  cases text with
  | nil => simp [trimStart]
  | cons first rest => simp [trimStart, List.dropWhile_eq_self_iff]

theorem trimEnd_eq_self_iff {text : Text} :
    trimEnd text = text ↔ ∀ last ∈ text.getLast?, isBlank last = false := by
  rw [← List.head?_reverse, ← trimStart_eq_self_iff, trimStart, trimEnd, List.reverse_eq_iff]

theorem head?_trimEnd {text : Text} (nonempty : trimEnd text ≠ []) :
    (trimEnd text).head? = text.head? := by
  obtain ⟨margin, _, text_eq⟩ := exists_trimEnd_append text
  obtain ⟨first, rest, found⟩ := List.exists_cons_of_ne_nil nonempty
  rw [found] at text_eq ⊢
  rw [text_eq]
  rfl

/-- The two ends can be trimmed in either order. -/
theorem trimEnd_trimStart (text : Text) : trimEnd (trimStart text) = trimStart (trimEnd text) := by
  obtain ⟨margin, blank, text_eq⟩ := exists_append_trimStart text
  by_cases core_blank : trimEnd (trimStart text) = []
  · have all_blank : AllBlank text := by
      rw [text_eq, allBlank_append]
      exact ⟨blank, trimEnd_eq_nil_iff.1 core_blank⟩
    rw [core_blank, trimEnd_eq_nil_iff.2 all_blank]
    rfl
  · have core_start : trimStart (trimEnd (trimStart text)) = trimEnd (trimStart text) := by
      rw [trimStart_eq_self_iff, head?_trimEnd core_blank, ← trimStart_eq_self_iff]
      exact List.dropWhile_idempotent _ _
    conv_rhs => rw [text_eq, trimEnd_append, if_neg core_blank]
    rw [trimStart_append_of_allBlank blank, core_start]

/-- A text is trimmed exactly when it neither starts nor ends with a blank. -/
theorem isTrimmed_iff {text : Text} :
    IsTrimmed text ↔
      (∀ first ∈ text.head?, isBlank first = false) ∧
        ∀ last ∈ text.getLast?, isBlank last = false := by
  rw [← trimStart_eq_self_iff, ← trimEnd_eq_self_iff]
  constructor
  · intro trimmed
    constructor
    · rw [IsTrimmed, trim, trimEnd_trimStart] at trimmed
      rw [← trimmed]
      exact List.dropWhile_idempotent _ _
    · rw [IsTrimmed, trim] at trimmed
      rw [← trimmed]
      exact List.rdropWhile_idempotent _ _
  · rintro ⟨start_eq, end_eq⟩
    rw [IsTrimmed, trim, start_eq, end_eq]

theorem isTrimmed_trim (text : Text) : IsTrimmed (trim text) := by
  rw [isTrimmed_iff, ← trimStart_eq_self_iff, ← trimEnd_eq_self_iff]
  constructor
  · rw [trim, trimEnd_trimStart]
    exact List.dropWhile_idempotent _ _
  · exact List.rdropWhile_idempotent _ _

/-! ## Margins -/

theorem trim_append_of_allBlank {margin : Text} (blank : AllBlank margin) (text : Text) :
    trim (text ++ margin) = trim text := by
  rw [trim, trim, trimEnd_trimStart, trimEnd_trimStart, trimEnd_append_of_allBlank blank]

theorem trim_allBlank_append {margin : Text} (blank : AllBlank margin) (text : Text) :
    trim (margin ++ text) = trim text := by
  rw [trim, trim, trimStart_append_of_allBlank blank]

/-- A text is its trimmed core between blank margins. -/
theorem exists_append_trim_append (text : Text) :
    ∃ front back, AllBlank front ∧ AllBlank back ∧ text = front ++ trim text ++ back := by
  obtain ⟨front, front_blank, front_eq⟩ := exists_append_trimStart text
  obtain ⟨back, back_blank, back_eq⟩ := exists_trimEnd_append (trimStart text)
  refine ⟨front, back, front_blank, back_blank, ?_⟩
  rw [List.append_assoc, trim, ← back_eq, ← front_eq]

theorem trim_eq_nil_iff {text : Text} : trim text = [] ↔ AllBlank text := by
  constructor
  · intro empty
    obtain ⟨front, back, front_blank, back_blank, text_eq⟩ := exists_append_trim_append text
    rw [text_eq, empty, List.append_nil, allBlank_append]
    exact ⟨front_blank, back_blank⟩
  · intro blank
    simpa using trim_allBlank_append blank []

theorem mem_of_mem_trim {character : Char} {text : Text} (found : character ∈ trim text) :
    character ∈ text := by
  obtain ⟨front, back, _, _, text_eq⟩ := exists_append_trim_append text
  rw [text_eq]
  simp [found]

/-- Two texts side by side are trimmed when the first has no blank at its start and the second
none at its end. -/
theorem isTrimmed_append {first second : Text} (first_nonempty : first ≠ [])
    (second_nonempty : second ≠ []) (first_trimmed : IsTrimmed first)
    (second_trimmed : IsTrimmed second) (middle : Text) :
    IsTrimmed (first ++ middle ++ second) := by
  rw [isTrimmed_iff] at *
  obtain ⟨head, rest, rfl⟩ := List.exists_cons_of_ne_nil first_nonempty
  refine ⟨by simpa using first_trimmed.1, ?_⟩
  rw [List.getLast?_append_of_ne_nil _ second_nonempty]
  exact second_trimmed.2

end Text
end ConceptMap
