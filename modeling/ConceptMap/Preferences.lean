import ConceptMap.Files.Path
import ConceptMap.Text.Line
import ConceptMap.Text.UpperCase
import ConceptMap.Text.Utf8
import ConceptMap.Toml.Document
import ConceptMap.Toml.Printer

/-!
# Preferences

How a view starts out, and which messages are logged, come from a settings file.  Whatever in the
file is malformed or out of range is reported, and the default holds instead; but an integer with
too many digits can neither be reported nor taken for the name of a level, nor can it be saved
again.  Saving the view leaves all other settings of the file as they are.
-/

namespace ConceptMap

/-- How much a message matters. -/
inductive Level where
  | debug
  | info
  | warning
  | error
  | critical
deriving DecidableEq, Repr

namespace Level

/-- All levels, ascending. -/
def all : List Level := [.debug, .info, .warning, .error, .critical]

/-- The name of a level. -/
def name : Level → Text
  | .debug => "DEBUG"
  | .info => "INFO"
  | .warning => "WARNING"
  | .error => "ERROR"
  | .critical => "CRITICAL"

/-- The place of a level among all. -/
def rank : Level → Nat
  | .debug => 0
  | .info => 1
  | .warning => 2
  | .error => 3
  | .critical => 4

/-- The level of a name. -/
def ofName? (text : Text) : Option Level := all.find? (·.name = text)

theorem ofName?_name (level : Level) : ofName? level.name = some level := by
  cases level <;> decide

end Level

/-- Why bytes are no document. -/
inductive Malformed where
  /-- They are no text. -/
  | undecodable (fault : Utf8.Fault)
  /-- They are a text that is no document. -/
  | unreadable (text : Text)
deriving Repr

/-- The report of bytes that are no document.  What is wrong with a text that is none is for the
reader of documents to explain. -/
def Malformed.message (explain : Text → Text) : Malformed → Text
  | .undecodable fault => fault.message
  | .unreadable text => explain text

/-- What is wrong with a settings file. -/
inductive Complaint where
  /-- The file is no document. -/
  | malformed (reason : Malformed)
  /-- Something else stands where a table should. -/
  | notTable (name : Text) (value : Setting)
  /-- The distance limit is no natural number. -/
  | invalidMaxDistance (value : Setting)
  /-- The direction mode is no truth value. -/
  | invalidBidirectional (value : Setting)
  /-- There is no level of this name. -/
  | unknownLevel (name : Text)
deriving Repr

/-- The level that holds unless the settings say otherwise. -/
def Level.default : Level := .warning

namespace Complaint

/-- The report of a complaint about a file, if it can be written. -/
def message (file : Path) (explain : Text → Text) : Complaint → Text
  | malformed reason =>
      "Ignoring malformed config file " ++ file.render ++ ": " ++ reason.message explain
  | notTable name value =>
      "Ignoring config key " ++ Text.quoted name ++ ": expected a table, got " ++ value.quoted
  | invalidMaxDistance value => "Ignoring invalid view.max_distance: " ++ value.quoted
  | invalidBidirectional value => "Ignoring invalid view.bidirectional: " ++ value.quoted
  | unknownLevel name =>
      "Unknown log level " ++ Text.quoted name ++ ", falling back to " ++ Level.default.name

/-- The value that a report shows, if any. -/
def value? : Complaint → Option Setting
  | malformed _ | unknownLevel _ => none
  | notTable _ value | invalidMaxDistance value | invalidBidirectional value => some value

/-- The report of a complaint can be written. -/
def isWritable (complaint : Complaint) : Bool := complaint.value?.all Setting.isWritable

/-- The report of a complaint about a file, unless an integer in it has too many digits. -/
def write (file : Path) (explain : Text → Text) (complaint : Complaint) :
    Except Numeral.WriteFault Text :=
  if complaint.isWritable then .ok (complaint.message file explain) else .error .tooLong

end Complaint

/-- A result with the complaints that were made on the way. -/
structure Reported (α : Type) where
  /-- The result. -/
  value : α
  /-- The complaints, in order. -/
  complaints : List Complaint := []
deriving Repr

namespace Reported

/-- Goes on with a result; the complaints follow one another. -/
def andThen {α β : Type} (first : Reported α) (next : α → Reported β) : Reported β :=
  let second := next first.value
  ⟨second.value, first.complaints ++ second.complaints⟩

end Reported

/-- How a view starts out. -/
structure ViewPreferences where
  /-- How far from the active concept nodes are visible. -/
  maxDistance : Nat := 2
  /-- Edges are followed in both directions. -/
  bidirectional : Bool := true
deriving DecidableEq, Repr

/-- The preferences as a table of settings. -/
def ViewPreferences.toTable (preferences : ViewPreferences) : Table :=
  [("max_distance", .integer preferences.maxDistance),
    ("bidirectional", .bool preferences.bidirectional)]

namespace Preferences

/-- The bytes of a settings file; none if there is no file. -/
abbrev Content := Option (List UInt8)

/-- The document that bytes spell, with line endings of any kind. -/
def document (bytes : List UInt8) : Except Malformed Table :=
  match Utf8.decode bytes with
  | .error fault => .error (.undecodable fault)
  | .ok text =>
      match Toml.read (Text.unifyNewlines text) with
      | none => .error (.unreadable (Text.unifyNewlines text))
      | some table => .ok table

/-- All settings of a file.  A missing file has none, and neither has a malformed one. -/
def load : Content → Reported Table
  | none => ⟨[], []⟩
  | some bytes =>
      match document bytes with
      | .ok table => ⟨table, []⟩
      | .error reason => ⟨[], [.malformed reason]⟩

/-- One table of a document; it is empty if something else stands in its place. -/
def tableNamed (name : Text) (document : Table) : Reported Table :=
  match document.get? name with
  | none => ⟨[], []⟩
  | some (.table fields) => ⟨fields, []⟩
  | some other => ⟨[], [.notTable name other]⟩

/-- The distance limit of a table, or else the default. -/
def maxDistanceOf (table : Table) : Reported Nat :=
  let fallback := ({} : ViewPreferences).maxDistance
  match table.get? "max_distance" with
  | none | some .absent => ⟨fallback, []⟩
  | some (.integer (.ofNat distance)) => ⟨distance, []⟩
  | some other => ⟨fallback, [.invalidMaxDistance other]⟩

/-- The direction mode of a table, or else the default. -/
def bidirectionalOf (table : Table) : Reported Bool :=
  let fallback := ({} : ViewPreferences).bidirectional
  match table.get? "bidirectional" with
  | none | some .absent => ⟨fallback, []⟩
  | some (.bool mode) => ⟨mode, []⟩
  | some other => ⟨fallback, [.invalidBidirectional other]⟩

/-- The view preferences of a document. -/
def viewOf (document : Table) : Reported ViewPreferences :=
  (tableNamed "view" document).andThen fun table =>
    (maxDistanceOf table).andThen fun maxDistance =>
      (bidirectionalOf table).andThen fun bidirectional =>
        ⟨{ maxDistance, bidirectional }, []⟩

/-- The level that a document sets.  Its name may be written in any case; the text of any other
value is taken for a name, too, if it can be written. -/
def levelOf (document : Table) : Reported (Except Numeral.WriteFault Level) :=
  (tableNamed "logging" document).andThen fun table =>
    match table.get? "level" with
    | none => ⟨.ok .default, []⟩
    | some value =>
        match value.write with
        | .error fault => ⟨.error fault, []⟩
        | .ok text =>
            let name := Text.upper text
            match Level.ofName? name with
            | some level => ⟨.ok level, []⟩
            | none => ⟨.ok .default, [.unknownLevel name]⟩

/-- The view preferences of a file. -/
def loadView (content : Content) : Reported ViewPreferences := (load content).andThen viewOf

/-- The level that a file sets. -/
def loadLevel (content : Content) : Reported (Except Numeral.WriteFault Level) :=
  (load content).andThen levelOf

/-- A document with other view preferences. -/
def withView (document : Table) (preferences : ViewPreferences) : Table :=
  document.set "view" (.table preferences.toTable)

/-- The bytes of a file after its view preferences have been set, if they can be written; a negative
limit counts as zero. -/
def saveView (content : Content) (maxDistance : Int) (bidirectional : Bool) :
    Reported (Except Numeral.WriteFault (List UInt8)) :=
  (load content).andThen fun document =>
    let preferences : ViewPreferences := { maxDistance := maxDistance.toNat, bidirectional }
    ⟨(Toml.write (withView document preferences)).map Utf8.encode, []⟩

end Preferences
end ConceptMap
