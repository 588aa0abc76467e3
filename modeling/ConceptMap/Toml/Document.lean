import ConceptMap.Toml.Line
import ConceptMap.Toml.Value

/-!
# TOML documents

A document is a sequence of headers and fields.  A header opens a table, or adds one to a list, and
the fields behind it go there.  The tables on the way to it are created where they are missing; such
a table may be opened by a header of its own later, every other one only once.  A document that
breaks a rule is malformed as a whole.
-/

namespace ConceptMap
namespace Toml

/-- A text between two quotes of one kind. -/
def isClosed (text : Text) : Bool :=
  match text with
  | first :: _ :: _ => text.getLast? = some first
  | _ => false

/-- The names of a header, from the parts of its text between dots.  A name that starts with a
quote goes on through dots until a part ends in that quote; it stands for itself.  `opened` is the
text of such a name so far. -/
def headerNames? : (opened : Option Text) → List Text → Option (List Text)
  | none, [] => some []
  | some _, [] => none
  | none, part :: rest =>
      let text := Text.trim part
      if text.head?.any isQuote then
        if isClosed text then
          (headerNames? none rest).map (Text.dropEnds 1 text :: ·)
        else headerNames? (some text) rest
      else if text.all isBare then (headerNames? none rest).map (text :: ·)
      else none
  | some text, part :: rest =>
      let longer := text ++ '.' :: part
      if isClosed (Text.trim longer) then
        (headerNames? none rest).map (Text.dropEnds 1 (Text.trim longer) :: ·)
      else headerNames? (some longer) rest

/-- A header. -/
structure Header where
  /-- The header adds a table to a list. -/
  ofList : Bool
  /-- The names that lead to the table. -/
  names : List Text

/-- The header on a line, none if it is malformed or has an empty name. -/
def Header.ofLine? (line : Text) : Option Header := do
  let (ofList, text) ←
    match line with
    | '[' :: '[' :: rest => (headerText? "]]" rest).map fun text => (true, text)
    | '[' :: rest => (headerText? "]" rest).map fun text => (false, text)
    | _ => none
  let names ← headerNames? none (Text.parts ['.'] text)
  if names.any List.isEmpty then none else return ⟨ofList, names⟩

/-- Opens the table of a header.  `implied` holds the names of the tables that were created on the
way to others.  Directly inside a member of a list, a table may be opened again, and none is
implied. -/
def openTable (ofList : Bool) :
    (inMember : Bool) → List Text → List Text → Table → Option (List Text × Table)
  | _, [], _, _ => none
  | inMember, [name], implied, table =>
      match table.get? name with
      | none =>
          some (implied, table.set name (if ofList then .list [.table []] else .table []))
      | some current =>
          if inMember then some (implied, table)
          else if implied.contains name then
            if ofList then none else some (implied.erase name, table)
          else
            match ofList, current with
            | true, .list items => some (implied, table.set name (.list (items ++ [.table []])))
            | _, _ => none
  | inMember, name :: second :: rest, implied, table =>
      match table.get? name with
      | none =>
          let implied := if inMember then implied else name :: implied
          (openTable ofList false (second :: rest) implied []).map fun (implied, inner) =>
            (implied, table.set name (.table inner))
      | some (.table inner) =>
          (openTable ofList false (second :: rest) implied inner).map fun (implied, inner) =>
            (implied, table.set name (.table inner))
      | some (.list items) =>
          match items.getLast? with
          | some (.table inner) =>
              (openTable ofList (!ofList) (second :: rest) implied inner).map
                fun (implied, inner) =>
                  (implied, table.set name (.list (items.dropLast ++ [.table inner])))
          | _ => none
      | some _ => none

/-- Changes the table that a header has opened.  On the way to it a list stands for its last
member. -/
def within (change : Table → Option Table) (ofList : Bool) : List Text → Table → Option Table
  | [], table => change table
  | name :: rest, table =>
      match table.get? name with
      | some (.table inner) =>
          if ofList && rest.isEmpty then none
          else
            (within change ofList rest inner).map fun inner => table.set name (.table inner)
      | some (.list items) =>
          if !ofList && rest.isEmpty then none
          else
            match items.getLast? with
            | some (.table inner) =>
                (within change ofList rest inner).map fun inner =>
                  table.set name (.list (items.dropLast ++ [.table inner]))
            | _ => none
      | _ => none

/-- A document that has been read in part. -/
structure Progress where
  /-- The last header. -/
  header : Header := ⟨false, []⟩
  /-- The names of tables that only headers of inner tables have mentioned. -/
  implied : List Text := []
  /-- The fields so far. -/
  table : Table := []

/-- Reads a line without blanks at its ends. -/
def Progress.readLine (progress : Progress) (line : Text) : Option Progress :=
  match line with
  | [] => some progress
  | '[' :: _ => do
      let header ← Header.ofLine? line
      let (implied, table) ←
        openTable header.ofList false header.names progress.implied progress.table
      return ⟨header, implied, table⟩
  | _ =>
      let header := progress.header
      (within (addField value? · line) header.ofList header.names progress.table).map fun table =>
        { progress with table }

/-- The table that a document spells; none if it is malformed. -/
def read (document : Text) : Option Table := do
  let lines ← lines? document
  let progress ← (lines.map Text.trim).foldlM Progress.readLine {}
  return progress.table

end Toml
end ConceptMap
