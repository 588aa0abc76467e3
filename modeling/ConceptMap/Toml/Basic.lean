import ConceptMap.Text.Parts

/-!
# Characters of TOML documents

The classes of characters that documents are made of, and the code points that hexadecimal digits
spell.  A reader takes what stands at the head of a text and gives the rest.
-/

namespace ConceptMap
namespace Toml

/-- A reader of something at the head of a text. -/
abbrev Reader (α : Type) := Text → Option (α × Text)

/-- The result of a reader that has used up the text. -/
def whole {α : Type} : Option (α × Text) → Option α
  | some (result, []) => some result
  | _ => none

/-- Spaces and tabs. -/
def isSpace (character : Char) : Bool := character = ' ' || character = '\t'

/-- The two kinds of quotes. -/
def isQuote (character : Char) : Bool := character = '"' || character = '\''

/-- Letters, digits, underscores and dashes, of which a bare name is made. -/
def isBare (character : Char) : Bool :=
  character.isAlphanum || character = '_' || character = '-'

/-- Control characters; a tab is none of them. -/
def isControl (character : Char) : Bool :=
  (character.toNat < 0x20 && character ≠ '\t') || character.toNat = 0x7F

/-- A text starts with an odd number of backslashes. -/
def startsEscape (text : Text) : Bool := (text.takeWhile (· = '\\')).length % 2 = 1

/-- A text ends in an odd number of backslashes, so that the last of them escapes what follows. -/
def endsInEscape (text : Text) : Bool := startsEscape text.reverse

/-- The value of a hexadecimal digit. -/
def hexValue? (character : Char) : Option Nat :=
  let code := character.toNat
  if '0' ≤ character ∧ character ≤ '9' then some (code - 48)
  else if 'a' ≤ character ∧ character ≤ 'f' then some (code - 87)
  else if 'A' ≤ character ∧ character ≤ 'F' then some (code - 55)
  else none

/-- The character whose code point hexadecimal digits spell. -/
def codePoint? (digits : Text) : Option Char := do
  let code ← digits.foldlM (fun code digit => return code * 16 + (← hexValue? digit)) 0
  if code.isValidChar then some (Char.ofNat code) else none

/-- The character that a one-letter escape stands for. -/
def escaped? : Char → Option Char
  | '0' => some '\x00'
  | 'b' => some '\x08'
  | 't' => some '\t'
  | 'n' => some '\n'
  | 'f' => some '\x0c'
  | 'r' => some '\r'
  | '"' => some '"'
  | '\\' => some '\\'
  | _ => none

end Toml
end ConceptMap
