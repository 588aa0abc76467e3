import ConceptMap.CommandLine.Run
import ConceptMap.Proofs.CommandLine.Session
import ConceptMap.Proofs.Preferences.Told

/-!
# Commands up to their output

The way of a run from its arguments to the map that a command works on.  Up to there nothing is
printed and no file is written, so that the command starts with everything still to do.
-/

namespace ConceptMap
namespace CommandLine

/-- A file holds a document: its bytes spell a text, and the text has no fault. -/
def HoldsDocument (files : FileTree) (file : Path) (document : Document) : Prop :=
  ∃ bytes text, files.read file = .ok bytes ∧ Utf8.decode bytes = .ok text ∧
    Document.parse (Text.unifyNewlines text) = .ok document

theorem toOption_eq_some_iff {α ε : Type} {result : Except ε α} {value : α} :
    result.toOption = some value ↔ result = .ok value := by
  cases result with
  | error fault => simp [Except.toOption]
  | ok other => simp [Except.toOption]

/-- The document that a file holds. -/
def document? (files : FileTree) (file : Path) : Option Document := do
  let bytes ← (files.read file).toOption
  let text ← (Utf8.decode bytes).toOption
  (Document.parse (Text.unifyNewlines text)).toOption

theorem document?_eq_some_iff {files : FileTree} {file : Path} {document : Document} :
    document? files file = some document ↔ HoldsDocument files file document := by
  simp only [document?, HoldsDocument, Option.bind_eq_bind, Option.bind_eq_some_iff,
    toOption_eq_some_iff, exists_and_left]

instance (files : FileTree) (file : Path) (document : Document) :
    Decidable (HoldsDocument files file document) :=
  decidable_of_iff _ document?_eq_some_iff

theorem HoldsDocument.unique {files : FileTree} {file : Path} {document other : Document}
    (held : HoldsDocument files file document) (held_too : HoldsDocument files file other) :
    document = other :=
  Option.some.inj
    ((document?_eq_some_iff.2 held).symm.trans (document?_eq_some_iff.2 held_too))

/-- The arguments of a run are read as a command, with or without everything being logged: nothing
else is said in front of its name, and what follows it are its own arguments. -/
def ReadsAt (files : FileTree) (verbose : Bool) (arguments : List Text) (invocation : Invocation) :
    Prop :=
  ∃ name rest command, readPreamble arguments = .ok ⟨false, verbose, name :: rest⟩ ∧
    CommandName.ofText? name = some command ∧ readCommand files rest command = .ok invocation

/-- The command that the arguments of a run are read as. -/
def invocation? (files : FileTree) (verbose : Bool) (arguments : List Text) : Option Invocation :=
  match readPreamble arguments with
  | .ok ⟨false, loud, name :: rest⟩ =>
      if loud = verbose then
        (CommandName.ofText? name).bind fun command => (readCommand files rest command).toOption
      else none
  | _ => none

theorem invocation?_eq_some_iff {files : FileTree} {verbose : Bool} {arguments : List Text}
    {invocation : Invocation} :
    invocation? files verbose arguments = some invocation ↔
      ReadsAt files verbose arguments invocation := by
  unfold invocation? ReadsAt
  split
  next loud name rest preamble =>
    rw [preamble]
    constructor
    · intro found
      split at found
      next same =>
        obtain ⟨command, named, read⟩ := Option.bind_eq_some_iff.1 found
        exact ⟨name, rest, command, same ▸ rfl, named, toOption_eq_some_iff.1 read⟩
      next => cases found
    · rintro ⟨_, _, command, same, named, read⟩
      cases same
      rw [if_pos rfl, named, Option.bind_some]
      exact toOption_eq_some_iff.2 read
  next other =>
    simp only [reduceCtorEq, false_iff]
    rintro ⟨name, rest, command, preamble, -, -⟩
    exact other _ _ _ preamble

instance (files : FileTree) (verbose : Bool) (arguments : List Text) (invocation : Invocation) :
    Decidable (ReadsAt files verbose arguments invocation) :=
  decidable_of_iff _ invocation?_eq_some_iff

/-- The arguments of a run are read as a command. -/
def Reads (files : FileTree) (arguments : List Text) (invocation : Invocation) : Prop :=
  ∃ verbose, ReadsAt files verbose arguments invocation

section Documents

variable {session : Session} {file : Path} {document : Document}

theorem readText_finds {bytes : List UInt8} {text : Text}
    (read : session.files.read file = .ok bytes) (decoded : Utf8.decode bytes = .ok text) :
    Finds (readText file) session (Text.unifyNewlines text) := by
  apply (get_finds session).bind
  intro after _
  simp only [read, decoded]
  exact pure_finds after _

theorem readDocument_finds (held : HoldsDocument session.files file document) :
    Finds (readDocument file) session document := by
  obtain ⟨bytes, text, read, decoded, parsed⟩ := held
  apply (readText_finds read decoded).bind
  intro after _
  simp only [parsed]
  exact (record_finds after _ _).bind fun last _ => pure_finds last document

/-- The map of a document is named for the file that holds it. -/
theorem readMap_finds (held : HoldsDocument session.files file document) :
    Finds (readMap file) session (Map.ofDeclarations file.stem document.declarations) := by
  apply (readDocument_finds held).bind
  intro after _
  exact (record_finds after _ _).bind fun last _ => pure_finds last _

end Documents

section Runs

variable {files : FileTree} {host : Host} {content : Preferences.Content} {verbose : Bool}

theorem setLevel_run (session : Session) (verbose : Bool)
    (configured : HoldsSettings session.files session.host content) :
    ∃ after, session.SameWork after ∧ (setLevel verbose).run.run session =
      match Preferences.startLevel content verbose with
      | .error fault => (.error (.unwritable fault), after)
      | .ok level => (.ok (), { after with level }) := by
  cases verbose with
  | true => exact ⟨session, .refl session, rfl⟩
  | false =>
      refine ⟨_, (Session.OnlyLogged.of_complain session
        ((Preferences.loadLevel content).complaints.filter Complaint.isWritable)).toSameWork, ?_⟩
      have loaded := loadLevelEarly_run configured
      rw [setLevel, Preferences.startLevel]
      cases level_eq : (Preferences.loadLevel content).value with
      | error fault =>
          rw [level_eq] at loaded
          exact run_bind_of_error loaded _
      | ok level =>
          rw [level_eq] at loaded
          exact run_bind_of_ok loaded _

/-- A run stops at a level that cannot be told, or carries out the command that its arguments are
read as at the level that it starts with. -/
theorem run_act_cases {arguments : List Text} {invocation : Invocation}
    (configured : HoldsSettings files host content)
    (read : ReadsAt files verbose arguments invocation) :
    (∃ fault after, Preferences.startLevel content verbose = .error fault ∧
        Session.SameWork { files, host } after ∧
        run files host arguments = ⟨some (.unwritable fault), after⟩) ∨
      ∃ before, Preferences.startLevel content verbose = .ok before.level ∧
        Session.SameWork { files, host } before ∧
        run files host arguments = .ofResult ((perform invocation).run.run before) := by
  obtain ⟨name, rest, command, preamble, named, read⟩ := read
  have act_eq : act arguments = setLevel verbose >>= fun _ =>
      get >>= fun session => orRefuse (readCommand session.files rest command) >>= perform := by
    rw [act, preamble]
    simp only [orRefuse, pure_bind, named, Bool.false_eq_true, if_false]
  obtain ⟨after, same, went⟩ := setLevel_run { files, host } verbose configured
  rw [run, act_eq]
  cases level_eq : Preferences.startLevel content verbose with
  | error fault =>
      rw [level_eq] at went
      rw [run_bind_of_error went]
      exact .inl ⟨fault, after, rfl, same, rfl⟩
  | ok level =>
      rw [level_eq] at went
      -- the arguments are read after the level is set, from files that this has not touched
      have command_read : readCommand after.files rest command = .ok invocation := by
        rw [same.files]
        exact read
      refine .inr ⟨{ after with level }, rfl, ⟨same.files, same.host, same.output, same.errors⟩, ?_⟩
      rw [run_bind_of_ok went]
      change Outcome.ofResult
        ((orRefuse (readCommand after.files rest command) >>= perform).run.run _) = _
      rw [command_read]
      rfl

end Runs
end CommandLine
end ConceptMap
