import ConceptMap.Text.Quoted

/-!
# JSON documents

JSON values and their indented form.  The form is ASCII: every other character is written as one
escape, or as two for a surrogate pair.
-/

namespace ConceptMap

/-- A JSON value; the fields of an object are in order. -/
inductive Json where
  | null
  | bool (value : Bool)
  | integer (value : Int)
  | string (value : Text)
  | array (items : List Json)
  | object (fields : List (Text × Json))
deriving Repr, Inhabited

namespace Json

/-- The escape of one UTF-16 unit. -/
def unitEscape (unit : Nat) : Text := "\\u" ++ Text.hexDigits 4 unit

/-- A character inside a JSON string. -/
def escapeChar (character : Char) : Text :=
  let code := character.toNat
  if character = '"' then "\\\""
  else if character = '\\' then "\\\\"
  else if character = '\n' then "\\n"
  else if character = '\r' then "\\r"
  else if character = '\t' then "\\t"
  else if code = 8 then "\\b"
  else if code = 12 then "\\f"
  else if 0x20 ≤ code ∧ code ≤ 0x7E then [character]
  else if code < 0x10000 then unitEscape code
  else
    unitEscape (0xD800 + (code - 0x10000) / 1024) ++ unitEscape (0xDC00 + (code - 0x10000) % 1024)

/-- A text as a JSON string. -/
def renderString (text : Text) : Text := Text.between '"' (text.flatMap escapeChar)

/-- The start of a line at a depth: two spaces for each level. -/
def lineStart (depth : Nat) : Text := '\n' :: List.replicate (2 * depth) ' '

mutual

/-- A value in indented form, whose lines stand at a depth. -/
def renderAt (depth : Nat) : Json → Text
  | .null => "null"
  | .bool value => if value then "true" else "false"
  | .integer value => Text.ofInt value
  | .string value => renderString value
  | .array [] => "[]"
  | .array (first :: rest) =>
      '[' :: (renderItems (depth + 1) (first :: rest) ++ lineStart depth ++ [']'])
  | .object [] => ['{', '}']
  | .object (first :: rest) =>
      '{' :: (renderFields (depth + 1) (first :: rest) ++ lineStart depth ++ ['}'])

/-- The members of an array, each on a line of its own. -/
def renderItems (depth : Nat) : List Json → Text
  | [] => []
  | [only] => lineStart depth ++ only.renderAt depth
  | first :: second :: rest =>
      lineStart depth ++ first.renderAt depth ++ ',' :: renderItems depth (second :: rest)

/-- The fields of an object, each on a line of its own. -/
def renderFields (depth : Nat) : List (Text × Json) → Text
  | [] => []
  | [(name, only)] => lineStart depth ++ renderString name ++ ": " ++ only.renderAt depth
  | (name, first) :: second :: rest =>
      lineStart depth ++ renderString name ++ ": " ++ first.renderAt depth ++ ',' ::
        renderFields depth (second :: rest)

end

/-- A value as an indented document. -/
def render (json : Json) : Text := json.renderAt 0

end Json
end ConceptMap
