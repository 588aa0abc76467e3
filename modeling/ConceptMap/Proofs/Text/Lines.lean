import ConceptMap.Proofs.Text.Trim
import ConceptMap.Text.Line

/-!
# Lines of joined texts

Splitting a text into lines is undone by joining them, and the other way round for lines without
line feeds.  When two texts are put side by side, the last line of the first and the first line of
the second become one.
-/

namespace ConceptMap
namespace Text

theorem join_cons (separator first : Text) (rest : List Text) :
    join separator (first :: rest) = first ++ rest.flatMap (separator ++ ·) := by
  induction rest generalizing first with
  | nil => simp
  | cons second rest ih =>
      rw [join_cons_cons, ih, List.append_assoc, List.flatMap_cons, List.append_assoc]

theorem exists_splitLines_eq_append (text : Text) :
    ∃ front last, splitLines text = front ++ [last] :=
  ⟨_, _, (List.dropLast_append_getLast (splitLines_ne_nil text)).symm⟩

theorem splitLines_cons_of_ne {character : Char} {rest line : Text} {lines : List Text}
    (not_newline : character ≠ '\n') (rest_eq : splitLines rest = line :: lines) :
    splitLines (character :: rest) = (character :: line) :: lines := by
  rw [splitLines, rest_eq]
  exact not_newline

/-- No line contains a line feed. -/
theorem not_mem_of_mem_splitLines {text line : Text} (found : line ∈ splitLines text) :
    '\n' ∉ line := by
  induction text generalizing line with
  | nil =>
      rw [splitLines_nil, List.mem_singleton] at found
      simp [found]
  | cons character rest ih =>
      by_cases newline : character = '\n'
      · rw [newline, splitLines_newline, List.mem_cons] at found
        rcases found with rfl | found
        · simp
        · exact ih found
      · obtain ⟨first, lines, rest_eq⟩ := List.exists_cons_of_ne_nil (splitLines_ne_nil rest)
        rw [splitLines_cons_of_ne newline rest_eq] at found
        rw [rest_eq] at ih
        rcases List.mem_cons.1 found with rfl | found
        · have first_free := ih List.mem_cons_self
          simp [first_free, Ne.symm newline]
        · exact ih (List.mem_cons_of_mem _ found)

theorem splitLines_of_not_mem {line : Text} (free : '\n' ∉ line) : splitLines line = [line] := by
  induction line with
  | nil => rfl
  | cons character rest ih =>
      rw [List.mem_cons, not_or] at free
      exact splitLines_cons_of_ne (Ne.symm free.1) (ih free.2)

/-- Side by side, the last line of the first text goes on in the first line of the second. -/
theorem splitLines_append {first second last head : Text} {front tail : List Text}
    (first_eq : splitLines first = front ++ [last]) (second_eq : splitLines second = head :: tail) :
    splitLines (first ++ second) = front ++ (last ++ head) :: tail := by
  induction first generalizing front last with
  | nil =>
      rw [splitLines_nil] at first_eq
      obtain ⟨rfl, rfl⟩ : front = [] ∧ last = [] := by
        cases front <;> simp_all
      simpa using second_eq
  | cons character rest ih =>
      by_cases newline : character = '\n'
      · rw [newline, splitLines_newline] at first_eq
        cases front with
        | nil => simp [splitLines_ne_nil] at first_eq
        | cons empty front =>
            simp only [List.cons_append, List.cons.injEq] at first_eq
            obtain ⟨rfl, rest_eq⟩ := first_eq
            rw [newline, List.cons_append, splitLines_newline, ih rest_eq]
            rfl
      · obtain ⟨line, lines, rest_eq⟩ := List.exists_cons_of_ne_nil (splitLines_ne_nil rest)
        rw [splitLines_cons_of_ne newline rest_eq] at first_eq
        cases front with
        | nil =>
            simp only [List.nil_append, List.cons.injEq] at first_eq
            obtain ⟨rfl, rfl⟩ := first_eq
            have rest_append : splitLines (rest ++ second) = [] ++ (line ++ head) :: tail :=
              ih rest_eq
            exact splitLines_cons_of_ne newline rest_append
        | cons start front =>
            simp only [List.cons_append, List.cons.injEq] at first_eq
            obtain ⟨rfl, rfl⟩ := first_eq
            have rest_append : splitLines (rest ++ second) =
                (line :: front) ++ (last ++ head) :: tail := ih rest_eq
            exact splitLines_cons_of_ne newline rest_append

/-- A line feed between two texts keeps their lines apart. -/
theorem splitLines_append_newline (first second : Text) :
    splitLines (first ++ '\n' :: second) = splitLines first ++ splitLines second := by
  obtain ⟨front, last, first_eq⟩ := exists_splitLines_eq_append first
  rw [splitLines_append first_eq (splitLines_newline second), first_eq]
  simp

/-- Joined texts have the lines of the single ones, in order. -/
theorem splitLines_joinLines {texts : List Text} (nonempty : texts ≠ []) :
    splitLines (joinLines texts) = texts.flatMap splitLines := by
  induction texts with
  | nil => exact absurd rfl nonempty
  | cons first rest ih =>
      cases rest with
      | nil => simp [joinLines]
      | cons second rest =>
          have joined : joinLines (first :: second :: rest) =
              first ++ '\n' :: joinLines (second :: rest) := by simp [joinLines]
          rw [joined, splitLines_append_newline, ih (List.cons_ne_nil _ _)]
          rfl

theorem splitLines_joinLines_of_not_mem {lines : List Text} (nonempty : lines ≠ [])
    (free : ∀ line ∈ lines, '\n' ∉ line) : splitLines (joinLines lines) = lines := by
  rw [splitLines_joinLines nonempty]
  calc
    lines.flatMap splitLines = lines.flatMap fun line => [line] :=
      List.flatMap_congr fun line found => splitLines_of_not_mem (free line found)
    _ = lines := by simp

theorem mem_joinLines {lines : List Text} {line : Text} {character : Char}
    (found : line ∈ lines) (inside : character ∈ line) : character ∈ joinLines lines := by
  induction lines with
  | nil => simp at found
  | cons first rest ih =>
      cases rest with
      | nil =>
          rw [List.mem_singleton] at found
          exact found ▸ inside
      | cons second rest =>
          rw [joinLines, join_cons_cons, List.mem_append]
          rcases List.mem_cons.1 found with rfl | found
          · exact .inl (List.mem_append_left _ inside)
          · exact .inr (ih found)

theorem mem_of_mem_splitLines {text line : Text} {character : Char}
    (found : line ∈ splitLines text) (inside : character ∈ line) : character ∈ text := by
  rw [← joinLines_splitLines text]
  exact mem_joinLines found inside

theorem exists_mem_splitLines_append {core back line : Text} (blank : AllBlank back)
    (found : line ∈ splitLines core) :
    ∃ wider ∈ splitLines (core ++ back), trim wider = trim line := by
  obtain ⟨front, last, core_eq⟩ := exists_splitLines_eq_append core
  obtain ⟨head, tail, back_eq⟩ := List.exists_cons_of_ne_nil (splitLines_ne_nil back)
  have head_blank : AllBlank head := fun character inside =>
    blank character (mem_of_mem_splitLines (by simp [back_eq]) inside)
  rw [splitLines_append core_eq back_eq]
  rw [core_eq, List.mem_append, List.mem_singleton] at found
  rcases found with found | rfl
  · exact ⟨line, by simp [found], rfl⟩
  · exact ⟨line ++ head, by simp, trim_append_of_allBlank head_blank line⟩

theorem exists_mem_splitLines_append_left {front core line : Text} (blank : AllBlank front)
    (found : line ∈ splitLines core) :
    ∃ wider ∈ splitLines (front ++ core), trim wider = trim line := by
  obtain ⟨before, last, front_eq⟩ := exists_splitLines_eq_append front
  obtain ⟨head, tail, core_eq⟩ := List.exists_cons_of_ne_nil (splitLines_ne_nil core)
  have last_blank : AllBlank last := fun character inside =>
    blank character (mem_of_mem_splitLines (by simp [front_eq]) inside)
  rw [splitLines_append front_eq core_eq]
  rw [core_eq, List.mem_cons] at found
  rcases found with rfl | found
  · exact ⟨last ++ line, by simp, trim_allBlank_append last_blank line⟩
  · exact ⟨line, by simp [found], rfl⟩

/-- Trimming a text changes its lines only by blanks at their ends, apart from lines that it drops
altogether. -/
theorem exists_mem_splitLines_of_trim {text line : Text} (found : line ∈ splitLines (trim text)) :
    ∃ wider ∈ splitLines text, trim wider = trim line := by
  obtain ⟨front, back, front_blank, back_blank, text_eq⟩ := exists_append_trim_append text
  obtain ⟨wide, wide_found, wide_eq⟩ := exists_mem_splitLines_append_left front_blank found
  obtain ⟨wider, wider_found, wider_eq⟩ := exists_mem_splitLines_append back_blank wide_found
  exact ⟨wider, text_eq ▸ wider_found, wider_eq.trans wide_eq⟩

end Text
end ConceptMap
