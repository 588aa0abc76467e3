import ConceptMap.Toml.Basic

/-!
# Lines of a document

A document is read line by line: each line holds a header or a field.  Comments are left out.  A
line goes on behind a line feed inside the brackets of a list, where the line feed counts as a
space, and inside a block string, to which the line feed belongs.
-/

namespace ConceptMap
namespace Toml

/-- Where on its line a scan stands. -/
inductive Place where
  /-- Behind nothing but spaces. -/
  | start
  /-- In the header of a table. -/
  | tableHeader
  /-- In the header of a list of tables. -/
  | listHeader
  /-- In a name of a key, which may have dots. -/
  | name (dotted : Bool)
  /-- Behind a name of a key. -/
  | behindName (dotted : Bool)
  /-- Behind a header, or behind the sign of equality. -/
  | rest
deriving DecidableEq, Repr

/-- The state of a scan. -/
structure Scan where
  /-- Where on the line the scan stands. -/
  place : Place := .start
  /-- The quote of the string that is open. -/
  quote : Option Char := none
  /-- A block string is open. -/
  inBlock : Bool := false
  /-- A comment has begun. -/
  inComment : Bool := false
  /-- How many brackets of lists are open. -/
  brackets : Int := 0
  /-- The characters of the line, the last one first. -/
  line : Text := []
  /-- The lines before, the last one first. -/
  earlier : List Text := []
deriving Repr

namespace Scan

/-- Goes on behind a character of the line. -/
def take (scan : Scan) (character : Char) : Scan := { scan with line := character :: scan.line }

/-- Goes on in another place, behind a character of the line. -/
def move (scan : Scan) (place : Place) (character : Char) : Scan :=
  { scan.take character with place }

/-- A name follows in a key with dots. -/
def nameFollows (next : Option Char) : Bool :=
  next.any fun character => !isSpace character && character ≠ '\n' && character ≠ '.'

/-- Reads a character of a quoted name. -/
def readQuotedName (scan : Scan) (dotted : Bool) (quote character : Char) : Option Scan :=
  if character = '\n' then none
  else if character = quote && !startsEscape scan.line then
    some { scan.move (.behindName dotted) character with quote := none }
  else some (scan.take character)

/-- Reads a character of a bare name.  Behind a dot a quoted name may start. -/
def readName (scan : Scan) (dotted : Bool) (character : Char) : Option Scan :=
  if isSpace character then some (scan.move (.behindName dotted) character)
  else if character = '.' then some (scan.move (.name true) character)
  else if isBare character then some (scan.take character)
  else if isQuote character && dotted && scan.line.head? = some '.' then
    some { scan.take character with quote := some character }
  else if character = '=' then some (scan.move .rest character)
  else none

/-- Reads a character behind a name. -/
def readBehindName (scan : Scan) (dotted : Bool) (character : Char) (next : Option Char) :
    Option Scan :=
  if isSpace character then
    some (scan.move (if dotted && nameFollows next then .name true else .behindName dotted)
      character)
  else if character = '.' then
    some (scan.move (if nameFollows next then .name true else .behindName true) character)
  else if character = '=' then some (scan.move .rest character)
  else none

/-- Reads the first character of a line that is no space. -/
def readStart (scan : Scan) (character : Char) (next : Option Char) : Option Scan :=
  if character = '[' then
    some (scan.move (if next = some '[' then .listHeader else .tableHeader) character)
  else if isQuote character then
    some { scan.move (.name false) character with quote := some character }
  else if isBare character then some (scan.move (.name false) character)
  else none

/-- Reads a quote that can open or close a string.  Two quotes of its kind before it make it a
quote of a block string.  Behind a backslash a double quote is only a character. -/
def readQuote (scan : Scan) (quote : Char) : Scan :=
  let inThree := [quote, quote].isPrefixOf scan.line
  let before := if inThree then scan.line.drop 2 else scan.line
  if quote = '"' && startsEscape before then scan.take quote
  else if inThree then
    { scan.take quote with
      inBlock := !scan.inBlock, quote := if scan.inBlock then none else some quote }
  else { scan.take quote with quote := if scan.quote.isSome then none else some quote }

/-- Reads a closing bracket. -/
def readClosing (scan : Scan) : Scan :=
  match scan.place with
  | .tableHeader => scan.move .rest ']'
  | .listHeader => if scan.line.head? = some ']' then scan.move .rest ']' else scan.take ']'
  | _ => { scan.take ']' with brackets := scan.brackets - 1 }

/-- Three quotes of one kind stand before. -/
def isBehindQuotes (scan : Scan) : Bool :=
  match scan.line with
  | quote :: before => isQuote quote && [quote, quote].isPrefixOf before
  | [] => false

/-- Reads a line feed.  Directly behind the opening quotes of a block string it does not count. -/
def readNewline (scan : Scan) : Option Scan :=
  let scan := { scan with inComment := false }
  if scan.inBlock then some (if scan.isBehindQuotes then scan else scan.take '\n')
  else if scan.quote.isSome then none
  else if scan.brackets ≠ 0 then some (scan.take ' ')
  else
    match scan.place with
    | .tableHeader | .listHeader => none
    | _ =>
        some
          { scan with
            place := .start, line := [], earlier := scan.line.reverse :: scan.earlier }

/-- Reads a character of a header or of what follows the key of a field. -/
def readRest (scan : Scan) (character : Char) : Scan :=
  if isQuote character && scan.quote.all (· = character) then scan.readQuote character
  else if scan.quote.isSome then scan.take character
  else if character = ']' then scan.readClosing
  else if scan.place = .rest && character = '#' then { scan with inComment := true }
  else if scan.place = .rest && character = '[' then
    { scan.take character with brackets := scan.brackets + 1 }
  else scan.take character

/-- Reads a character, knowing the next one. -/
def read (scan : Scan) (character : Char) (next : Option Char) : Option Scan :=
  match scan.place with
  | .name dotted =>
      match scan.quote with
      | some quote => scan.readQuotedName dotted quote character
      | none => scan.readName dotted character
  | .behindName dotted => scan.readBehindName dotted character next
  | _ =>
      if character = '\n' then scan.readNewline
      else if scan.inComment then some scan
      else
        match scan.place with
        | .start =>
            if isSpace character then some (scan.take character)
            else if character = '#' then some { scan with inComment := true }
            else scan.readStart character next
        | _ => some (scan.readRest character)

/-- Reads a text. -/
def readAll (scan : Scan) : Text → Option Scan
  | [] => some scan
  | character :: rest =>
      match scan.read character rest.head? with
      | none => none
      | some next => next.readAll rest

/-- The lines that have been read; a string, a header or a key must not be left open. -/
def lines? (scan : Scan) : Option (List Text) :=
  match scan.place with
  | .start | .rest =>
      if scan.quote.isSome then none else some (scan.line.reverse :: scan.earlier).reverse
  | _ => none

end Scan

/-- The lines of a document, none if one of them is malformed. -/
def lines? (document : Text) : Option (List Text) :=
  (({} : Scan).readAll document).bind Scan.lines?

end Toml
end ConceptMap
