import ConceptMap.Proofs.Dot.Token

/-!
# Escaped texts

A text is escaped by replacing its backslashes, then its double quotes, then its line feeds: what
one replacement writes, the next ones leave as it is.  So a quoted name is closed by its last
character and by no quote before that, it is on one line, and its text can be recovered.
-/

namespace ConceptMap
namespace Dot

/-- The text with each occurrence of a character written in another way. -/
def replace (mark : Char) (written text : Text) : Text :=
  text.flatMap fun character => if character = mark then written else [character]

/-- How many characters of an opened name are in front of the double quote that closes it, where a
backslash takes the character behind it along. -/
def insideLength? : Text → Option Nat
  | [] => none
  | '"' :: _ => some 0
  | '\\' :: _ :: rest => (insideLength? rest).map (2 + ·)
  | _ :: rest => (insideLength? rest).map (1 + ·)

/-- The place of the double quote that closes the name which a text begins with, counted from the
double quote that opens it. -/
def closingPlace? : Text → Option Nat
  | '"' :: rest => (insideLength? rest).map (1 + ·)
  | _ => none

theorem replace_singleton_of_ne {mark character : Char} (differs : character ≠ mark)
    (written : Text) : replace mark written [character] = [character] := by
  simp [replace, differs]

/-- A character is escaped by one replacement, and the other two pass over what that writes. -/
theorem escapeChar_eq_replace (character : Char) :
    escapeChar character =
      replace '\n' ['\\', 'n']
        (replace '"' ['\\', '"'] (replace '\\' ['\\', '\\'] [character])) := by
  fun_cases escapeChar character with
  | case1 => rfl
  | case2 => rfl
  | case3 => rfl
  | case4 _ backslash quote newline =>
      rw [replace_singleton_of_ne backslash, replace_singleton_of_ne quote,
        replace_singleton_of_ne newline]

theorem replace_flatMap (mark : Char) (written text : Text) (write : Char → Text) :
    replace mark written (text.flatMap write) = text.flatMap fun character =>
      replace mark written (write character) :=
  List.flatMap_assoc

/-- The three replacements can be made one after another. -/
theorem escape_eq_replace (text : Text) :
    escape text =
      replace '\n' ['\\', 'n'] (replace '"' ['\\', '"'] (replace '\\' ['\\', '\\'] text)) := by
  calc
    escape text = text.flatMap fun character =>
        replace '\n' ['\\', 'n']
          (replace '"' ['\\', '"'] (replace '\\' ['\\', '\\'] [character])) :=
      List.flatMap_congr fun character _ => escapeChar_eq_replace character
    _ = replace '\n' ['\\', 'n'] (replace '"' ['\\', '"'] (text.flatMap fun character =>
        replace '\\' ['\\', '\\'] [character])) := by rw [replace_flatMap, replace_flatMap]
    _ = replace '\n' ['\\', 'n'] (replace '"' ['\\', '"'] (replace '\\' ['\\', '\\'] text)) := by
      rw [← replace_flatMap, List.flatMap_singleton']

/-- Inside a name an escaped character is passed over as a whole. -/
theorem insideLength?_escapeChar_append (character : Char) (rest : Text) :
    insideLength? (escapeChar character ++ rest) =
      (insideLength? rest).map ((escapeChar character).length + ·) := by
  rcases escapeChar_cases character with ⟨taken, escaped, -, -⟩ | ⟨itself, backslash, quote, -⟩
  · rw [escaped]
    rfl
  · rw [itself, List.singleton_append, insideLength?]
    · rfl
    · exact quote
    · exact fun _ _ escaped => absurd escaped backslash

theorem insideLength?_escape_append (text rest : Text) :
    insideLength? (escape text ++ rest) = (insideLength? rest).map ((escape text).length + ·) := by
  induction text with
  | nil => simp
  | cons character text ih =>
      rw [escape_cons, List.append_assoc, insideLength?_escapeChar_append, ih, Option.map_map,
        List.length_append]
      congr 1
      funext count
      exact (Nat.add_assoc _ _ count).symm

/-- A name is closed by its last character, whatever follows. -/
theorem closingPlace?_name_append (text rest : Text) :
    closingPlace? (name text ++ rest) = some ((name text).length - 1) := by
  have name_eq : name text ++ rest = '"' :: (escape text ++ '"' :: rest) := by
    simp [name, Text.between]
  have length_eq : (name text).length - 1 = 1 + (escape text).length := by
    simp [name, Text.between, Nat.add_comm]
  rw [name_eq, closingPlace?, insideLength?_escape_append, insideLength?, length_eq]
  rfl

theorem newline_not_mem_name (text : Text) : '\n' ∉ name text := by
  simp [name, Text.between, newline_not_mem_escape text]

theorem escape_eq_escape_iff {text other : Text} : escape text = escape other ↔ text = other := by
  constructor
  · intro same
    rw [← unescape_escape text, same, unescape_escape]
  · exact congrArg escape

/-- Escaping is replacing backslashes, then double quotes, then line feeds.  Between double quotes
the escaped text is closed by the last character and by none before, whatever follows, and it is on
one line.  Replacing the pairs again gives the text, so that no two texts are escaped alike. -/
theorem escape_exact (text : Text) :
    escape text =
        replace '\n' ['\\', 'n'] (replace '"' ['\\', '"'] (replace '\\' ['\\', '\\'] text)) ∧
      (∀ rest, closingPlace? (Text.between '"' (escape text) ++ rest) =
        some ((Text.between '"' (escape text)).length - 1)) ∧
      '\n' ∉ Text.between '"' (escape text) ∧
      unescape (escape text) = text ∧
      ∀ other, escape text = escape other ↔ text = other :=
  ⟨escape_eq_replace text, closingPlace?_name_append text, newline_not_mem_name text,
    unescape_escape text, fun _ => escape_eq_escape_iff⟩

/-- A backslash in front of a quote and one in front of an `n` stay apart from an escaped quote and
an escaped line feed. -/
example : escape ['\\', '"', '\\', 'n', '\n'] =
    ['\\', '\\', '\\', '"', '\\', '\\', 'n', '\\', 'n'] := rfl

end Dot
end ConceptMap
