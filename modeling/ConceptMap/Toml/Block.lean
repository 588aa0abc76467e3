import ConceptMap.Toml.Basic

/-!
# Block strings

Strings between three quotes may span lines, and up to two quotes may stand before the closing ones.
-/

namespace ConceptMap
namespace Toml

/-- Puts a character before what is read. -/
def prepend (character : Char) (read : Option (Text × Text)) : Option (Text × Text) :=
  read.map fun (text, rest) => (character :: text, rest)

/-- The rest of a string in three double quotes.  After a backslash at the end of a line, blanks
are skipped up to the next character. -/
def basicBlock : (skipping : Bool) → Reader Text
  | _, [] => none
  | _, '"' :: '"' :: '"' :: '"' :: '"' :: rest => some (['"', '"'], rest)
  | _, '"' :: '"' :: '"' :: '"' :: rest => some (['"'], rest)
  | _, '"' :: '"' :: '"' :: rest => some ([], rest)
  | _, '\\' :: 'u' :: a :: b :: c :: d :: rest =>
      (codePoint? [a, b, c, d]).bind fun character => prepend character (basicBlock false rest)
  | _, '\\' :: 'U' :: a :: b :: c :: d :: e :: f :: g :: h :: rest =>
      (codePoint? [a, b, c, d, e, f, g, h]).bind fun character =>
        prepend character (basicBlock false rest)
  | _, '\\' :: letter :: rest =>
      if letter = '\n' || (isSpace letter && (rest.dropWhile isSpace).head? = some '\n') then
        basicBlock true rest
      else
        (escaped? letter).bind fun character => prepend character (basicBlock false rest)
  | skipping, character :: rest =>
      if skipping && (isSpace character || character = '\n') then basicBlock true rest
      else if character = '\\' || (isControl character && character ≠ '\n') then none
      else prepend character (basicBlock false rest)

/-- The rest of a string in three single quotes. -/
def literalBlock : Reader Text
  | [] => none
  | '\'' :: '\'' :: '\'' :: '\'' :: '\'' :: rest => some (['\'', '\''], rest)
  | '\'' :: '\'' :: '\'' :: '\'' :: rest => some (['\''], rest)
  | '\'' :: '\'' :: '\'' :: rest => some ([], rest)
  | character :: rest =>
      if isControl character && character ≠ '\n' then none
      else prepend character (literalBlock rest)

end Toml
end ConceptMap
