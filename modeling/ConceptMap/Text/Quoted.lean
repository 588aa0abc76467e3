import ConceptMap.Text.Printable

/-!
# Quoted texts

How a text is shown inside a message: between quotes, with everything that is not printable
written as an escape.  Apostrophes are the quotes unless the text itself has one and no double
quote.
-/

namespace ConceptMap
namespace Text

/-- The last `width` hexadecimal digits of a number, in lower case. -/
def hexDigits : (width : Nat) → Nat → Text
  | 0, _ => []
  | width + 1, number => hexDigits width (number / 16) ++ [Nat.digitChar (number % 16)]

/-- The shortest escape of a code point: two, four or eight hexadecimal digits. -/
def codeEscape (code : Nat) : Text :=
  if code < 0x100 then "\\x" ++ hexDigits 2 code
  else if code < 0x10000 then "\\u" ++ hexDigits 4 code
  else "\\U" ++ hexDigits 8 code

/-- One character of a text that stands between the given quotes. -/
def quotedChar (quote : Char) (character : Char) : Text :=
  if character = quote ∨ character = '\\' then ['\\', character]
  else if character = '\t' then "\\t"
  else if character = '\n' then "\\n"
  else if character = '\r' then "\\r"
  else if isPrintable character then [character]
  else codeEscape character.toNat

/-- The quote that surrounds a text. -/
def quoteFor (text : Text) : Char :=
  if text.contains '\'' && !text.contains '"' then '"' else '\''

/-- The text between quotes, with escapes. -/
def quoted (text : Text) : Text :=
  between (quoteFor text) (text.flatMap (quotedChar (quoteFor text)))

@[simp]
theorem hexDigits_length (width number : Nat) : (hexDigits width number).length = width := by
  induction width generalizing number with
  | zero => rfl
  | succ width ih => simp [hexDigits, ih]

end Text
end ConceptMap
