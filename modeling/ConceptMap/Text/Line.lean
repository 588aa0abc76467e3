import ConceptMap.Text.Basic

/-!
# Lines

Documents are divided at line feeds only.  A summary shows the first line in the wider sense, which
also ends at the other Unicode line boundaries.  Files are read with every line ending turned into
a line feed.
-/

namespace ConceptMap
namespace Text

/-- The pieces between line feeds; there is always at least one. -/
def splitLines : Text → List Text
  | [] => [[]]
  | '\n' :: rest => [] :: splitLines rest
  | character :: rest =>
      match splitLines rest with
      | [] => [[character]]
      | line :: lines => (character :: line) :: lines

/-- The lines one after another, with a line feed between neighbours. -/
def joinLines (lines : List Text) : Text := join ['\n'] lines

/-- The characters at which the first line of a summary ends. -/
def isLineBreak (character : Char) : Bool :=
  let code := character.toNat
  (10 ≤ code && code ≤ 13) || (28 ≤ code && code ≤ 30) || code == 0x85 || code == 0x2028 ||
    code == 0x2029

/-- The text before its first line boundary. -/
def firstLine (text : Text) : Text := text.takeWhile (!isLineBreak ·)

/-- Every line ending, CR LF or CR alone, as a line feed. -/
def unifyNewlines : Text → Text
  | [] => []
  | '\r' :: '\n' :: rest => '\n' :: unifyNewlines rest
  | '\r' :: rest => '\n' :: unifyNewlines rest
  | character :: rest => character :: unifyNewlines rest

@[simp]
theorem splitLines_nil : splitLines [] = [[]] := rfl

@[simp]
theorem splitLines_newline (rest : Text) : splitLines ('\n' :: rest) = [] :: splitLines rest := rfl

theorem splitLines_ne_nil (text : Text) : splitLines text ≠ [] := by
  fun_cases splitLines text <;> simp_all

/-- Joining the lines of a text gives the text again. -/
theorem joinLines_splitLines (text : Text) : joinLines (splitLines text) = text := by
  fun_induction splitLines text with
  | case1 => rfl
  | case2 rest ih =>
      cases lines : splitLines rest with
      | nil => exact absurd lines (splitLines_ne_nil rest)
      | cons line more => simp_all [joinLines]
  | case3 character rest _ lines ih => exact absurd lines (splitLines_ne_nil rest)
  | case4 character rest _ line lines split ih =>
      rw [split] at ih
      cases lines <;> simp_all [joinLines]

end Text
end ConceptMap
