import ConceptMap.Text.Basic

/-!
# Parts of a text

A separator divides a text into parts, and so do marks around it.
-/

namespace ConceptMap
namespace Text

/-- The parts of a text between the occurrences of a nonempty separator, where a number of
characters of the last occurrence are still to be passed; there is always at least one part. -/
def partsFrom (separator : Text) : (passing : Nat) → Text → List Text
  | _, [] => [[]]
  | passing + 1, _ :: rest => partsFrom separator passing rest
  | 0, character :: rest =>
      if separator.isPrefixOf (character :: rest) then
        [] :: partsFrom separator (separator.length - 1) rest
      else
        match partsFrom separator 0 rest with
        | [] => [[character]]
        | first :: others => (character :: first) :: others

/-- The parts of a text between the occurrences of a nonempty separator. -/
def parts (separator text : Text) : List Text := partsFrom separator 0 text

/-- The text without a number of characters at each end. -/
def dropEnds (count : Nat) (text : Text) : Text := (text.drop count).take (text.length - 2 * count)

/-- Dropping the marks around a text gives the text. -/
@[simp]
theorem dropEnds_between (mark : Char) (text : Text) : dropEnds 1 (between mark text) = text := by
  simp [dropEnds, between]

end Text
end ConceptMap
