import ConceptMap.Setting

/-!
# Printed TOML

A table of settings is written with its plain fields first, one on a line.  Then come the tables in
it under their headers, then the tables in those, and so on, with an empty line before each header.
A table that holds nothing but tables needs no header of its own.  A table with an integer that has
too many digits cannot be written, unless the integer stands where nothing is written of it.
-/

namespace ConceptMap
namespace Toml

/-- A character inside double quotes. -/
def writeChar (character : Char) : Text :=
  if character = '"' ∨ character = '\\' then ['\\', character]
  else if character = '\n' then "\\n"
  else if character = '\r' then "\\r"
  else if character = '\t' then "\\t"
  else if Text.isPrintable character then [character]
  else if character.toNat < 0x10000 then "\\u" ++ Text.hexDigits 4 character.toNat
  else "\\U" ++ Text.hexDigits 8 character.toNat

/-- A text in double quotes. -/
def writeString (text : Text) : Text := Text.between '"' (text.flatMap writeChar)

/-- The characters of a key that needs no quotes. -/
def isKeyChar (character : Char) : Bool :=
  character.isAlphanum || character = '_' || character = '-'

/-- A key, in quotes if it needs them. -/
def writeKey (name : Text) : Text :=
  if !name.isEmpty && name.all isKeyChar then name else writeString name

/-- A member of a list, with a blank before it and a comma behind it. -/
def writeItem (written : Text) : Text := ' ' :: (written ++ [','])

mutual

/-- A value on a line.  Of a table only the names are written, as a list. -/
def writeValue : Setting → Text
  | .absent => []
  | .bool value => if value then "true" else "false"
  | .integer value => Text.ofInt value
  | .number value => value.render .document
  | .text value => writeString value
  | .moment value => value.render .document
  | .list items => '[' :: (writeItems items ++ [']'])
  | .table fields => '[' :: (fields.flatMap (fun field => writeItem (writeString field.1)) ++ [']'])

/-- The members of a list. -/
def writeItems : List Setting → Text
  | [] => []
  | first :: rest => writeItem (writeValue first) ++ writeItems rest

end

/-- The value is a table. -/
def isTable : Setting → Bool
  | .table _ => true
  | _ => false

/-- The value is a list with a table in it, which is written as a series of tables. -/
def isTableList : Setting → Bool
  | .list items => items.any isTable
  | _ => false

/-- A field on a line of its own. -/
def writeField (field : Text × Setting) : Text :=
  writeKey field.1 ++ " = " ++ writeValue field.2 ++ ['\n']

/-- The fields that are written on lines. -/
def plainFields (table : Table) : Table :=
  table.filter fun field =>
    match field.2 with
    | .absent => false
    | value => !isTable value && !isTableList value

/-- The name of a table inside another one. -/
def qualify (outer : Text) (name : Text) : Text :=
  if outer.isEmpty then writeKey name else outer ++ '.' :: writeKey name

/-- The tables directly inside a table, under their full names. -/
def innerTables (outer : Text) (table : Table) : List (Text × Table) :=
  table.filterMap fun (name, value) =>
    match value with
    | .table fields => some (qualify outer name, fields)
    | _ => none

/-- The tables a number of levels inside a table. -/
def tablesAt : (levels : Nat) → Text → Table → List (Text × Table)
  | 0, name, table => [(name, table)]
  | levels + 1, name, table =>
      (innerTables name table).flatMap fun (name, table) => tablesAt levels name table

mutual

/-- How many levels of lists and tables a value has. -/
def levels : Setting → Nat
  | .list items => levelsOfItems items + 1
  | .table fields => levelsOfFields fields + 1
  | _ => 0

/-- The levels of the deepest member. -/
def levelsOfItems : List Setting → Nat
  | [] => 0
  | first :: rest => max (levels first) (levelsOfItems rest)

/-- The levels of the deepest field. -/
def levelsOfFields : List (Text × Setting) → Nat
  | [] => 0
  | (_, first) :: rest => max (levels first) (levelsOfFields rest)

end

/-- All tables inside a table, the outer ones first. -/
def allTables (name : Text) (table : Table) : List (Text × Table) :=
  (List.range (levelsOfFields table)).flatMap fun depth => tablesAt (depth + 1) name table

/-- The body of a table in a list, with an empty line behind its plain fields; if it has none, the
headers in it follow that line. -/
def spaced (body : Text) : Text :=
  if body.head? = some '[' then '\n' :: body else body ++ ['\n']

/-- What stands under the header of a table: its plain fields and its lists of tables, which are
nested no deeper than the given number of levels. -/
def writeBody : (levels : Nat) → Text → Table → Text
  | 0, _, table => (plainFields table).flatMap writeField
  | levels + 1, name, table =>
      let lists := table.flatMap fun (listName, value) =>
        match value with
        | .list items =>
            if items.any isTable then
              items.flatMap fun item =>
                match item with
                | .table fields =>
                    let full := qualify name listName
                    let inner := (allTables full fields).flatMap fun (innerName, innerTable) =>
                      match writeBody levels innerName innerTable with
                      | [] => []
                      | body => '[' :: (innerName ++ [']', '\n'] ++ body)
                    ['[', '['] ++ full ++ [']', ']', '\n'] ++
                      spaced (writeBody levels full fields) ++ inner
                | _ => []
            else []
        | _ => []
      (plainFields table).flatMap writeField ++ lists

/-- Adds a table to what has been written, after an empty line. -/
def addTable (written : Text) (name body : Text) : Text :=
  let gap : Text :=
    if written.isEmpty || ['\n', '\n'].isSuffixOf written then [] else ['\n']
  written ++ gap ++ '[' :: (name ++ [']', '\n'] ++ body)

mutual

/-- The integers on the line of a value have few enough digits for the line to be written; of a
table there are none. -/
def canWriteValue : Setting → Bool
  | .integer value => Numeral.isWritable value
  | .list items => canWriteItems items
  | _ => true

/-- So have those of the members of a list. -/
def canWriteItems : List Setting → Bool
  | [] => true
  | first :: rest => canWriteValue first && canWriteItems rest

end

mutual

/-- The integers in a field have few enough digits for the field to be written, on a line or under
headers. -/
def canWriteField : Setting → Bool
  | .table fields => canWriteFields fields
  | .list items => if items.any isTable then canWriteTables items else canWriteItems items
  | value => canWriteValue value

/-- So have those in the tables of a list; nothing else in it is written. -/
def canWriteTables : List Setting → Bool
  | [] => true
  | .table fields :: rest => canWriteFields fields && canWriteTables rest
  | _ :: rest => canWriteTables rest

/-- So have those in fields. -/
def canWriteFields : List (Text × Setting) → Bool
  | [] => true
  | (_, first) :: rest => canWriteField first && canWriteFields rest

end

/-- A table of settings as a document. -/
def print (table : Table) : Text :=
  let depth := levelsOfFields table
  (allTables [] table).foldl
    (fun written (name, inner) =>
      let body := writeBody depth name inner
      if body.isEmpty && !(innerTables name inner).isEmpty then written
      else addTable written name body)
    (writeBody depth [] table)

/-- A table of settings as a document, unless an integer that is written has too many digits. -/
def write (table : Table) : Except Numeral.WriteFault Text :=
  if canWriteFields table then .ok (print table) else .error .tooLong

end Toml
end ConceptMap
