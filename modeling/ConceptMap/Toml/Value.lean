import ConceptMap.Toml.Division
import ConceptMap.Toml.Moment
import ConceptMap.Toml.Number
import ConceptMap.Toml.Quoted

/-!
# Values of TOML documents

The values of fields: strings, numbers, truth values, dates and times, lists of values of one kind,
and tables in braces.  A list or a table is first divided into the texts of its members.
-/

namespace ConceptMap
namespace Toml

/-- Divides a text at its commas, except between brackets. -/
def outsideBrackets : (brackets : Int) → Text → List Text
  | _, [] => [[]]
  | brackets, character :: rest =>
      if character = ',' ∧ brackets = 0 then [] :: outsideBrackets 0 rest
      else
        let change : Int := if character = '[' then 1 else if character = ']' then -1 else 0
        match outsideBrackets (brackets + change) rest with
        | [] => [[character]]
        | first :: others => (character :: first) :: others

/-- A text that starts with a string does not end with its closing quote. -/
def isUnfinished (text : Text) : Bool :=
  match text with
  | [] => false
  | first :: rest =>
      let isOpen :=
        text.getLast? != some first || endsInEscape (Text.dropEnds 1 text)
      let isOpenBlock :=
        [first, first].isPrefixOf rest &&
          ((text.reverse.drop 1).take 2).all (· ≠ first)
      isOpen || isOpenBlock

/-- Joins texts at the commas that belong to a string.  The last text stays as it is. -/
def joinStrings : (current : Text) → List Text → List Text
  | current, [] => [current]
  | current, next :: rest =>
      if isUnfinished (Text.trim current) then joinStrings (current ++ ',' :: next) rest
      else current :: joinStrings next rest

/-- A table in braces that is being read. -/
structure OpenTable where
  /-- How many braces are open. -/
  braces : Nat := 1
  /-- A string is open. -/
  inString : Bool := false
  /-- The characters, the last one first. -/
  characters : Text := ['{']

/-- The tables in braces in a text, between which only blanks and commas may stand. -/
def tableTexts? : Option OpenTable → Text → Option (List Text)
  | none, [] => some []
  | some _, [] => none
  | none, character :: rest =>
      if character = '{' then tableTexts? (some {}) rest
      else if Text.isBlank character || character = ',' then tableTexts? none rest
      else none
  | some table, character :: rest =>
      let inString :=
        if isQuote character then !table.inString || startsEscape table.characters
        else table.inString
      let characters := character :: table.characters
      if !inString && character = '}' && table.braces < 2 then
        (tableTexts? none rest).map (characters.reverse :: ·)
      else
        let braces :=
          if inString then table.braces
          else if character = '{' then table.braces + 1
          else if character = '}' then table.braces - 1
          else table.braces
        tableTexts? (some { braces, inString, characters }) rest

/-- The texts of the members of a list, from what stands between its brackets. -/
def memberTexts? (inside : Text) : Option (List Text) :=
  match (Text.trim inside).head? with
  | some '[' => some (outsideBrackets 0 inside)
  | some '{' => tableTexts? none inside
  | some '"' | some '\'' =>
      match Text.parts [','] inside with
      | [] => some []
      | first :: rest => some (joinStrings first rest)
  | _ => some (Text.parts [','] inside)

/-- A field has its whole value: a string, a list or a table with its closing mark, a number or a
truth value; none if there is no value at all. -/
def isWholeField? (text : Text) : Option Bool :=
  match Text.cut ['='] text with
  | none => none
  | some (_, behind) =>
      match Text.trim behind with
      | [] => none
      | first :: rest =>
          let value := first :: rest
          let last := value.getLast?
          some ((isQuote first && last = some first) || first.isDigit || first = '-' ||
            value = ("true" : Text) || value = ("false" : Text) ||
            (first = '[' && last = some ']') || (first = '{' && last = some '}'))

/-- Joins texts at the commas that belong to the value of a field. -/
def joinFields? : (current : Text) → List Text → Option (List Text)
  | current, rest =>
      match isWholeField? current, rest with
      | some true, [] => some [current]
      | some true, next :: rest => (joinFields? next rest).map (current :: ·)
      | some false, next :: rest => joinFields? (current ++ ',' :: next) rest
      | _, _ => none

/-- The texts of the fields of a table, from what stands between its braces. -/
def inlineTexts? (inside : Text) : Option (List Text) :=
  match Text.parts [','] inside with
  | [] => some []
  | [only] => if (Text.trim only).isEmpty then some [] else joinFields? only []
  | first :: rest => joinFields? first rest

/-- Two values are of one kind, so that they can be members of one list. -/
def sameKind : Setting → Setting → Bool
  | .bool _, .bool _ | .integer _, .integer _ | .number _, .number _ | .text _, .text _ => true
  | .moment (.time _), .moment (.time _) => true
  | .moment (.time _), .moment _ | .moment _, .moment (.time _) => false
  | .moment _, .moment _ | .list _, .list _ | .table _, .table _ => true
  | _, _ => false

/-- A list of values of one kind. -/
def uniform? : List Setting → Option Setting
  | [] => some (.list [])
  | first :: rest => if rest.all (sameKind first) then some (.list (first :: rest)) else none

/-- The names of a key.  A key with dots is divided at those that are not quoted, and its names
stand for themselves; otherwise the escapes of a quoted name are resolved. -/
def keyNames? (key : Text) : Option (List Text) :=
  if key.contains '.' then
    let names := (levelsOf false (quoteParts key)).filter fun name => !name.isEmpty
    names.getLast?.map fun last => names.dropLast ++ [Text.trim last]
  else
    match key with
    | [] => none
    | first :: _ =>
        if isQuote first && key.getLast? = some first then
          (unescape (Text.dropEnds 1 key)).map fun name => [name]
        else some [key]

/-- Sets the new field that names lead to. -/
def define (value : Setting) : List Text → Table → Option Table
  | [], _ => none
  | [name], table => if (table.get? name).isSome then none else some (table.set name value)
  | name :: second :: rest, table =>
      match table.get? name with
      | none =>
          (define value (second :: rest) []).map fun inner => table.set name (.table inner)
      | some (.table inner) =>
          (define value (second :: rest) inner).map fun inner => table.set name (.table inner)
      | some _ => none

/-- The value is a number. -/
def isNumber : Setting → Bool
  | .integer _ | .number _ => true
  | _ => false

/-- Adds a field to a table, given how values are read. -/
def addField (readValue : Text → Option Setting) (table : Table) (field : Text) :
    Option Table := do
  let texts ← fieldTexts? field
  let value ← readValue texts.value
  if texts.isLoose && isNumber value then none
  define value (← keyNames? texts.key) table

/-- The value that a text without blanks at its ends spells; lists and tables are nested less deep
than the given number of levels.  A table in braces stands on one line. -/
def readValue : (levels : Nat) → Text → Option Setting
  | 0, _ => none
  | levels + 1, text =>
      match text with
      | [] => none
      | '[' :: _ => do
          let members := (← memberTexts? (Text.dropEnds 1 text)).map Text.trim
          uniform? (← (members.filter fun member => !member.isEmpty).mapM (readValue levels))
      | '{' :: _ => do
          if text.contains '\n' then none
          let fields ← inlineTexts? (Text.dropEnds 1 text)
          return .table (← fields.foldlM (addField (readValue levels)) [])
      | '"' :: _ | '\'' :: _ => (quotedText? text).map .text
      | _ =>
          match moment text with
          | some (value, []) => some (.moment value)
          | _ => plain? text

/-- The value that a text without blanks at its ends spells.  Every level of it takes a
character. -/
def value? (text : Text) : Option Setting := readValue (text.length + 1) text

end Toml
end ConceptMap
