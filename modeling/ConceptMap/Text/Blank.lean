import ConceptMap.Text.Basic

/-!
# Blank characters and trimming

Blanks are the Unicode white space characters together with the four information separators
U+001C to U+001F.  Trimming removes them at the ends of a text and nowhere else.
-/

namespace ConceptMap
namespace Text

/-- White space and information separators, the characters that trimming removes. -/
def isBlank (character : Char) : Bool :=
  let code := character.toNat
  (9 ≤ code && code ≤ 13) || (28 ≤ code && code ≤ 32) || code == 0x85 || code == 0xA0 ||
    code == 0x1680 || (0x2000 ≤ code && code ≤ 0x200A) || code == 0x2028 || code == 0x2029 ||
    code == 0x202F || code == 0x205F || code == 0x3000

/-- The text without its leading blanks. -/
def trimStart (text : Text) : Text := text.dropWhile isBlank

/-- The text without its trailing blanks. -/
def trimEnd (text : Text) : Text := (text.reverse.dropWhile isBlank).reverse

/-- The text without leading and trailing blanks. -/
def trim (text : Text) : Text := trimEnd (trimStart text)

/-- The text is its own trimmed form. -/
def IsTrimmed (text : Text) : Prop := trim text = text

instance (text : Text) : Decidable (IsTrimmed text) := inferInstanceAs (Decidable (_ = _))

@[simp]
theorem trim_nil : trim [] = [] := rfl

end Text
end ConceptMap
