import ConceptMap.Text.Blank
import ConceptMap.Toml.Basic

/-!
# Dividing a line

A field is divided at a sign of equality, and a header ends at its bracket.  Which one counts is
found from the quotes of the line, taken in pairs whatever stands before them: of the parts between
quotes every other one is quoted, and the sign is the first that is not.
-/

namespace ConceptMap
namespace Toml

/-- Joins parts between double quotes to the parts between single quotes before them, as long as a
single quote is open. -/
def closeSingle : (singles doubles : List Text) → List Text × List Text
  | singles, [] => (singles, [])
  | singles, next :: rest =>
      if singles.length % 2 = 0 then
        let last := (singles.getLast?.getD []) ++ '"' :: next
        closeSingle (singles.dropLast ++ Text.parts ['\''] last) rest
      else (singles, next :: rest)

/-- Divides the first of the parts between double quotes at its single quotes. -/
def divideFirst : List Text → List Text
  | [] => []
  | first :: rest => Text.parts ['\''] first ++ rest

/-- The parts of a line between its quotes, in turn not quoted and quoted. -/
def quoteParts (line : Text) : List Text :=
  match Text.parts ['"'] line with
  | first :: second :: rest =>
      if first.contains '\'' then
        let (singles, doubles) := closeSingle (Text.parts ['\''] first) (second :: rest)
        singles ++ divideFirst doubles
      else divideFirst (first :: second :: rest)
  | parts => divideFirst parts

/-- How many signs stand before the first one that is not quoted. -/
def signsBefore (sign : Text) : (quoted : Bool) → List Text → Nat
  | _, [] => 0
  | quoted, part :: rest =>
      let count := (Text.parts sign part).length - 1
      if !quoted && 0 < count then 0 else count + signsBefore sign (!quoted) rest

/-- The number of the sign that counts, from one. -/
def signNumber (sign line : Text) : Nat := signsBefore sign false (quoteParts line) + 1

/-- The text of a header before its closing bracket, behind which nothing may stand. -/
def headerText? (bracket line : Text) : Option Text :=
  let parts := Text.parts bracket line
  let number := signNumber bracket line
  if number < parts.length && (Text.trim (Text.join bracket (parts.drop number))).isEmpty then
    some (Text.join bracket (parts.take number))
  else none

/-- A value can start like this: with a space, a quote or an opening bracket. -/
def startsValue (text : Text) : Bool :=
  match text with
  | [] => false
  | first :: _ => isSpace first || isQuote first || first = '[' || first = '{'

/-- A number in a base of its own. -/
def isBased (text : Text) : Bool :=
  match text with
  | '0' :: letter :: _ => letter = 'x' || letter = 'o' || letter = 'b'
  | _ => false

/-- A text may stand behind a sign of equality: it starts like a value, or else, without any blank
before it, it can only be a decimal number, a moment or a truth value. -/
def mayFollow (text : Text) : Bool :=
  startsValue text || !(text.head?.any Text.isBlank || isBased text)

/-- A number must not look like this: with an underscore at an end, beside a point or beside another
underscore, or with a leading zero. -/
def isLoose (text : Text) : Bool :=
  let bare := Text.trim text
  let digits := if bare.head? = some '-' || bare.head? = some '+' then bare.drop 1 else bare
  let hasLeadingZero :=
    match digits with
    | '0' :: next :: _ => next ≠ '.' && (digits.length < bare.length || !isBased digits)
    | _ => false
  bare.isEmpty || bare.head? = some '_' || bare.getLast? = some '_' || hasLeadingZero ||
    ["_.", "._", "__"].any fun token : String => Text.mentions token bare

/-- The texts of a field. -/
structure FieldTexts where
  /-- The text before the sign of equality. -/
  key : Text
  /-- The text behind it. -/
  value : Text
  /-- The value must not be a number. -/
  isLoose : Bool

/-- The texts that the sign of equality divides.  It is the one that counts on the first line or a
later one there: the first behind which a value can start, or else the last.  The value can be a
number only if none of the texts behind the signs that are passed is loose. -/
def fieldTexts? (field : Text) : Option FieldTexts :=
  let line := field.takeWhile (· ≠ '\n')
  let onLine := Text.parts ['='] line
  let least := min (signNumber ['='] line) (onLine.length - 1)
  let passed := ((onLine.drop least).dropLast.takeWhile fun part => !startsValue part).length
  let parts := Text.parts ['='] field
  let behind := Text.join ['='] (parts.drop (least + passed))
  if least = 0 || !mayFollow behind then none
  else
    some {
      key := Text.trim (Text.join ['='] (parts.take (least + passed)))
      value := Text.trim behind
      isLoose := (List.range passed).any fun count =>
        isLoose (Text.join ['='] (onLine.drop (least + count))) }

/-- The levels that the dots of a key divide, from the parts between its quotes. -/
def levelsOf : (quoted : Bool) → List Text → List Text
  | _, [] => []
  | true, part :: rest => part :: levelsOf false rest
  | false, part :: rest => (Text.parts ['.'] part).map Text.trim ++ levelsOf true rest

end Toml
end ConceptMap
