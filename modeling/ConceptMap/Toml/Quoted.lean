import ConceptMap.Toml.Block

/-!
# Quoted strings

The text that a quoted string stands for.  First the code points that are given by their digits are
put in, then the escapes of one letter are resolved, and then the quotes are taken off.
-/

namespace ConceptMap
namespace Toml

/-- Puts in the code points at the heads of parts, which a backslash and `letter` divide from one
another; each has `width` digits.  A part behind an escaped backslash stays as it is, as long as no
code point has come before it. -/
def putCodePoints (letter : Char) (width : Nat) : (literal : Bool) → List Text → Option Text
  | _, [] => some []
  | true, part :: rest =>
      (putCodePoints letter width (endsInEscape part) rest).map fun read =>
        '\\' :: letter :: (part ++ read)
  | false, part :: rest => do
      if part.length < width then none
      let character ← codePoint? (part.take width)
      let read ← putCodePoints letter width false rest
      return character :: (part.drop width ++ read)

/-- The text with its code points of a number of digits put in. -/
def withCodePoints (letter : Char) (width : Nat) (text : Text) : Option Text :=
  match Text.parts ['\\', letter] text with
  | [] => none
  | first :: rest =>
      (putCodePoints letter width (endsInEscape first) rest).map (first ++ ·)

/-- The text with its escapes of one letter resolved.  What remains of code points stays as it
is. -/
def unescape : Text → Option Text
  | [] => some []
  | '\\' :: letter :: rest =>
      if letter = 'u' || letter = 'U' then
        (unescape rest).map fun read => '\\' :: letter :: read
      else
        (escaped? letter).bind fun character => (unescape rest).map (character :: ·)
  | character :: rest => (unescape rest).map (character :: ·)

/-- Every escape in a text is one of the known ones. -/
def hasKnownEscapes : Text → Bool
  | [] => true
  | '\\' :: letter :: rest =>
      ((escaped? letter).isSome || letter = 'u' || letter = 'U') && hasKnownEscapes rest
  | _ :: rest => hasKnownEscapes rest

/-- Among the parts between quotes, something follows the one before the closing quote.  A part
that ends in a backslash escapes the quote behind it. -/
def runsOn : (closed : Bool) → List Text → Bool
  | _, [] => false
  | _, [] :: rest => runsOn true rest
  | closed, part :: rest =>
      if endsInEscape part then runsOn closed rest else closed || runsOn true rest

/-- A text without its quotes.  A text that starts with three quotes has three at its end, too. -/
def stripQuotes (text : Text) : Text :=
  match text with
  | first :: second :: third :: _ =>
      Text.dropEnds (if second = first && third = first then 3 else 1) text
  | _ => []

/-- The text that a quoted string stands for. -/
def quotedText? (text : Text) : Option Text :=
  match text with
  | '"' :: '"' :: '"' :: rest => whole (basicBlock false rest)
  | '\'' :: '\'' :: '\'' :: rest => whole (literalBlock rest)
  | quote :: inside =>
      if runsOn false (Text.parts [quote] inside) then none
      else if quote = '"' then do
        if !hasKnownEscapes text then none
        let short ← withCodePoints 'u' 4 text
        let read ← unescape (← withCodePoints 'U' 8 short)
        return stripQuotes read
      else some (stripQuotes text)
  | [] => none

end Toml
end ConceptMap
