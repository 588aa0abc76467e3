import ConceptMap.Proofs.CommandLine.Export
import ConceptMap.Proofs.CommandLine.Parts
import ConceptMap.Proofs.CommandLine.Refusing
import ConceptMap.Proofs.Export.Json
import ConceptMap.Proofs.Files.Tree
import ConceptMap.Proofs.Map.Saved
import ConceptMap.Proofs.Text.ControlSequence
import ConceptMap.Proofs.Text.Utf8

/-!
# Exports with and without a file

An export does the same work whether its text is printed or written to a file, so that the two runs
stop alike and leave the same text.  What is printed is rid of control sequences, what is written is
not.
-/

namespace ConceptMap
namespace CommandLine

open FileTree

/-- What an export asks for, apart from where its text goes: the file, the view and the name of the
format. -/
abbrev ExportRequest := Path × ViewRequest × Text

/-- The command that asks for an export with its text in a file or in the output. -/
def ExportRequest.command (output : Option Path) : ExportRequest → Invocation
  | (file, request, name) => .export file request name output

/-- The arguments of a run name the export command and ask it for something, or for nothing that it
takes. -/
def AsksExport (files : FileTree) (verbose : Bool) (arguments : List Text) (output : Option Path)
    (asked : Except Refusal ExportRequest) : Prop :=
  ∃ rest, readPreamble arguments = .ok ⟨false, verbose, "export" :: rest⟩ ∧
    readCommand files rest .export = asked.map (ExportRequest.command output)

/-- What sorted arguments ask of an export. -/
def exportRequest (files : FileTree) (sorted : Arguments) : Except Refusal ExportRequest := do
  return (← onlyFile files sorted, ← viewRequest sorted, (sorted.value? .format).getD "dsl")

theorem readCommand_export (files : FileTree) (rest : List Text) :
    readCommand files rest .export = sortArguments exportRules true rest >>= fun sorted =>
      (exportRequest files sorted).map
        (ExportRequest.command ((sorted.value? .output).map Path.parse)) := by
  rw [readCommand]
  congr 1
  funext sorted
  rw [exportRequest]
  cases onlyFile files sorted with
  | error refusal => rfl
  | ok file =>
      cases viewRequest sorted with
      | error refusal => rfl
      | ok request => rfl

theorem sortArguments_output (spelling : Text) (rest : List Text) :
    sortArguments exportRules true ("--output" :: spelling :: rest) =
      (sortArguments exportRules true rest).map (.withOptions [(.output, spelling)]) := by
  have option_read : readOption exportRules "--output" =
      .ok ⟨[], some { key := .output, long := "output", short := some 'o' }⟩ := rfl
  rw [sortArguments, sortFrom, if_neg (by decide), if_pos (by decide), option_read, sortArguments]
  simp only [bind, Except.bind, sortFrom]
  cases sortFrom exportRules true none rest with
  | error refusal => rfl
  | ok sorted => rfl

/-- What is asked for can be told from the command, and so can that no file is named. -/
theorem eq_of_map_command {output : Option Path} {read asked : Except Refusal ExportRequest}
    (same : read.map (ExportRequest.command output) = asked.map (ExportRequest.command none)) :
    read = asked ∧ ∀ request, read = .ok request → output = none := by
  cases read with
  | error refusal =>
      cases asked with
      | error other => exact ⟨congrArg _ (Except.error.inj same), fun _ found => nomatch found⟩
      | ok request => cases same
  | ok request =>
      cases asked with
      | error other => cases same
      | ok other =>
          obtain ⟨file, view, name⟩ := request
          obtain ⟨other_file, other_view, other_name⟩ := other
          have command_eq := Except.ok.inj same
          simp only [ExportRequest.command, Invocation.export.injEq] at command_eq
          obtain ⟨rfl, rfl, rfl, rfl⟩ := command_eq
          exact ⟨rfl, fun _ _ => rfl⟩

/-- An option for the output may stand in front of what asks for an export without one. -/
theorem asksExport_output {files : FileTree} {rest : List Text}
    {asked : Except Refusal ExportRequest} (spelling : Text)
    (read : readCommand files rest .export = asked.map (ExportRequest.command none)) :
    AsksExport files false ("export" :: "--output" :: spelling :: rest)
      (some (Path.parse spelling)) asked := by
  refine ⟨"--output" :: spelling :: rest, ?_, ?_⟩
  · rw [readPreamble, sortArguments, sortFrom, if_neg (by decide), if_neg (by decide)]
    rfl
  rw [readCommand_export] at read
  rw [readCommand_export, sortArguments_output]
  cases parsed : sortArguments exportRules true rest with
  | error refusal =>
      rw [parsed] at read
      cases asked with
      | error other => exact congrArg _ (Except.error.inj read)
      | ok request => cases read
  | ok sorted =>
      rw [parsed] at read
      obtain ⟨rfl, no_output⟩ := eq_of_map_command read
      change (exportRequest files sorted).map (ExportRequest.command
        (((sorted.withOptions [(.output, spelling)]).value? .output).map Path.parse)) = _
      cases found : exportRequest files sorted with
      | error refusal => rfl
      | ok request =>
          have no_values : sorted.values .output = [] :=
            List.getLast?_eq_none_iff.1 (Option.map_eq_none_iff.1 (no_output request found))
          have values_eq : (sorted.withOptions [(.output, spelling)]).values .output =
              spelling :: sorted.values .output := rfl
          rw [Arguments.value?, values_eq, no_values]
          rfl

/-- The text of an export, before it is left anywhere. -/
def exportText (file : Path) (request : ViewRequest) (name : Text) : Action (Format × Text) := do
  match Format.ofText? name with
  | none => throw (.unknownFormat name)
  | some format =>
      let map ← readViewed file request
      return (format, format.render map)

/-- What a run does up to the text of its export. -/
def prepare (verbose : Bool) (asked : Except Refusal ExportRequest) : Action (Format × Text) := do
  setLevel verbose
  let (file, request, name) ← orRefuse asked
  exportText file request name

/-- The text of an export is that of the document's map in the format, looked at as is asked for. -/
structure IsExport (files : FileTree) (asked : Except Refusal ExportRequest) (format : Format)
    (text : Text) (file : Path) (document : Document) : Prop where
  asked : ∃ request name, asked = .ok (file, request, name) ∧ Format.ofText? name = some format
  held : HoldsDocument files file document
  text : ∃ change, text =
    format.render ((Map.ofDeclarations file.stem document.declarations).withView change)

variable {files : FileTree} {host : Host} {path : Path} {verbose : Bool} {format : Format}
variable {text : Text} {content : Preferences.Content}
variable {asked : Except Refusal ExportRequest} {arguments : List Text} {output : Option Path}

theorem perform_export (file : Path) (request : ViewRequest) (name : Text) (output : Option Path) :
    perform (.export file request name output) =
      exportText file request name >>= fun (format, text) => deliver format output text := by
  rw [perform_eq, performWith, exportText]
  cases Format.ofText? name with
  | none => rfl
  | some format =>
      simp only [bind_assoc, pure_bind]

theorem run_export_eq (host : Host) (asks : AsksExport files verbose arguments output asked) :
    run files host arguments =
      .ofResult ((prepare verbose asked >>= fun (format, text) =>
        deliver format output text).run.run { files, host }) := by
  obtain ⟨rest, preamble, read⟩ := asks
  have named : CommandName.ofText? "export" = some .export := by decide
  rw [run_eq, runWith_eq_of_preamble preamble named, read, prepare, bind_assoc]
  congr 4
  funext _
  cases asked with
  | error refusal => rfl
  | ok request =>
      obtain ⟨file, request, name⟩ := request
      exact perform_export file request name output

theorem looks_prepare :
    Looks files (prepare verbose asked) fun (format, text) =>
      ∃ file document, IsExport files asked format text file document := by
  apply (looks_setLevel verbose).bind
  rintro _ -
  apply (looks_orRefuse asked).bind
  rintro ⟨file, request, name⟩ rfl
  simp only [exportText]
  split
  next => exact looks_throw _
  next format named =>
    apply (looks_readViewed file request).bind
    rintro _ ⟨document, preferences, held, rfl⟩
    exact looks_pure ⟨file, document, ⟨request, name, rfl, named⟩, held, _, rfl⟩

theorem refuses_prepare : Refuses files (prepare verbose asked) := by
  apply (refuses_setLevel verbose).bind (looks_setLevel verbose)
  rintro _ -
  apply (refuses_orRefuse asked).bind (looks_orRefuse asked)
  rintro ⟨file, request, name⟩ -
  simp only [exportText]
  split
  next => exact refuses_throw (show 2 ≠ 0 by decide)
  next format _ =>
    have refuses_view : Refuses files (readViewed file request) :=
      (refuses_readMap file).bind (looks_readMap file) fun map _ => refuses_applyRequest map request
    apply refuses_view.bind (looks_readViewed file request)
    rintro viewed -
    exact refuses_pure _

/-! ## Leaving the text -/

/-- What a file holds of an export in a format, as it is claimed of the output: the whole of it as a
document, and otherwise all but its last line feed. -/
def claimedContent (format : Format) (shown : Text) : Text :=
  match format with
  | .dsl => shown
  | .json | .dot => shown.dropLast

theorem fileContent_eq_iff :
    text ++ format.fileEnd = claimedContent format (Session.printedLine text) ↔
      ControlSequence.Free text := by
  rw [← ControlSequence.remove_eq_self_iff]
  cases format with
  | dsl => simp [claimedContent, Session.printedLine, Format.fileEnd, eq_comm]
  | json => simp [claimedContent, Session.printedLine, Format.fileEnd, eq_comm]
  | dot => simp [claimedContent, Session.printedLine, Format.fileEnd, eq_comm]

/-- What two runs leave of one export: the one its text in the output, the other in a file. -/
structure ExportedBoth (files : FileTree) (path place : Path) (format : Format) (text : Text)
    (printed written : Outcome) : Prop where
  located : files.locate path = .ok place
  code : written.code = 0
  output : printed.session.output = [.text (Session.printedLine text)]
  wrote : files.Wrote written.session.files place (Utf8.encode (text ++ format.fileEnd))

theorem deliver_none_run (format : Format) (text : Text) {session : Session}
    (blank : session.output = []) :
    ∃ after, (deliver format none text).run.run session = (.ok (), after) ∧
      after.files = session.files ∧ after.output = [.text (Session.printedLine text)] := by
  refine ⟨session.echo text, rfl, session.echo_files text, ?_⟩
  simp [Session.echo, Session.print, blank]

/-- Where the directory of a path is there and the path leads to no directory, the text is written
to the file, unless the name is too long. -/
theorem deliver_some_cases (format : Format) (text : Text) {session : Session}
    (parent : session.files.find path.parent = .ok .directory)
    (free : session.files.find path ≠ .ok .directory) :
    (session.files.locate path = .error .tooLong ∧
        (deliver format (some path) text).run.run session =
          (.error (.file .tooLong path), session)) ∨
      ∃ place last, session.files.locate path = .ok place ∧
        (deliver format (some path) text).run.run session = (.ok (), last) ∧
        session.files.Wrote last.files place (Utf8.encode (text ++ format.fileEnd)) := by
  rcases locate_cases parent free with long | ⟨place, located, unoccupied⟩
  · have failed : session.files.write path (Utf8.encode (text ++ format.fileEnd)) =
        .error .tooLong := by
      rw [FileTree.write, long]
      rfl
    exact .inl ⟨long, run_bind_of_error (writeFile_run_of_error failed) _⟩
  · obtain ⟨grown, write, wrote⟩ :=
      exists_wrote located unoccupied (Utf8.encode (text ++ format.fileEnd))
    have went : (writeFile path (text ++ format.fileEnd)).run.run session =
        (.ok (), { session with files := grown }) := writeFile_run write
    refine .inr ⟨place, _, located, run_bind_of_ok went _, ?_⟩
    rw [Session.echo_files]
    exact wrote

/-! ## Two runs -/

/-- A run gets to the text of its export, or stops with nothing done. -/
theorem prepare_cases (files : FileTree) (host : Host) (verbose : Bool)
    (asked : Except Refusal ExportRequest) :
    (∃ stop after, (prepare verbose asked).run.run { files, host } = (.error stop, after) ∧
        after.files = files ∧ stop.code ≠ 0) ∨
      ∃ format text file document after,
        (prepare verbose asked).run.run { files, host } = (.ok (format, text), after) ∧
          IsExport files asked format text file document ∧ after.files = files ∧
          after.output = [] := by
  rcases run_cases (prepare verbose asked) { files, host } with
    ⟨stop, after, stopped⟩ | ⟨⟨format, text⟩, after, returned⟩
  · obtain ⟨kept, -, code⟩ := refuses_prepare _ stop after rfl stopped
    exact .inl ⟨stop, after, stopped, kept, code⟩
  · obtain ⟨work, file, document, exported⟩ := looks_prepare _ _ after rfl returned
    exact .inr ⟨format, text, file, document, after, returned, exported, work.files, work.output⟩

/-- The level of a run that gets to the text of its export could be told. -/
theorem exists_startLevel_of_prepare {result : Format × Text} {after : Session}
    (configured : HoldsSettings files host content)
    (returned : (prepare verbose asked).run.run { files, host } = (.ok result, after)) :
    ∃ level, Preferences.startLevel content verbose = .ok level := by
  obtain ⟨between, -, level_set⟩ := setLevel_run { files, host } verbose configured
  cases started : Preferences.startLevel content verbose with
  | ok level => exact ⟨level, rfl⟩
  | error fault =>
      rw [started] at level_set
      rw [prepare, run_bind_of_error level_set] at returned
      cases returned

/-- The text of a document does not depend on the view. -/
theorem IsExport.text_eq {file : Path} {document : Document}
    (exported : IsExport files asked .dsl text file document) :
    text = (Map.ofDeclarations file.stem document.declarations).toText := by
  obtain ⟨change, text_eq⟩ := exported.text
  exact text_eq

/-- What is printed of a document does not depend on the view, nor on the settings. -/
theorem run_export_dsl {file : Path} {request : ViewRequest} {name : Text} {document : Document}
    (asks : AsksExport files verbose arguments none (.ok (file, request, name)))
    (named : Format.ofText? name = some .dsl) (held : HoldsDocument files file document)
    (went : (run files host arguments).code = 0) :
    (run files host arguments).session.output = [.text (Session.printedLine
      (Map.ofDeclarations file.stem document.declarations).toText)] := by
  have run_eq := run_export_eq host asks
  rcases prepare_cases files host verbose (.ok (file, request, name)) with
    ⟨stop, after, stopped, -, code⟩ |
      ⟨format, text, other, found, after, returned, exported, -, blank⟩
  · rw [run_bind_of_error stopped] at run_eq
    rw [run_eq] at went
    exact absurd went code
  · obtain ⟨other_request, other_name, asked_eq, other_named⟩ := exported.asked
    obtain ⟨rfl, -, rfl⟩ : file = other ∧ request = other_request ∧ name = other_name := by
      simpa using Except.ok.inj asked_eq
    obtain rfl : Format.dsl = format := Option.some.inj (named.symm.trans other_named)
    rw [run_bind_of_ok returned] at run_eq
    obtain ⟨last, told, -, output_eq⟩ := deliver_none_run .dsl text blank
    rw [run_eq, held.unique exported.held, ← exported.text_eq, told]
    exact output_eq

/-- Over files with the same document the text of an export is printed again, in whatever view. -/
theorem IsExport.output_eq {others : FileTree} {elsewhere : Host} {file : Path} {loud : Bool}
    {again : List Text} {request : ViewRequest} {name : Text} {document : Document}
    (exported : IsExport files asked .dsl text file document)
    (same : others.read file = files.read file)
    (asks : AsksExport others loud again none (.ok (file, request, name)))
    (named : Format.ofText? name = some .dsl) (went : (run others elsewhere again).code = 0) :
    (run others elsewhere again).session.output = [.text (Session.printedLine text)] := by
  obtain ⟨bytes, spelled, read, decoded, parsed⟩ := exported.held
  have held : HoldsDocument others file document :=
    ⟨bytes, spelled, same.trans read, decoded, parsed⟩
  rw [run_export_dsl asks named held went, exported.text_eq]

/-- Writing a file leaves the settings as they are, unless it is the settings file. -/
theorem Wrote.holdsSettings {before after : FileTree} {place : Path} {bytes : List UInt8}
    (wrote : before.Wrote after place bytes) (held : HoldsSettings before host content) :
    ∃ other, HoldsSettings after host other ∧ (other = content ∨ other = some bytes) := by
  rcases wrote.find_cases host.settingsFile with same | found | ⟨missing, blocked⟩
  · cases held with
    | present found => exact ⟨_, .present (same.trans found), .inl rfl⟩
    | absent lost harmless => exact ⟨none, .absent (same.trans lost) harmless, .inl rfl⟩
  · exact ⟨_, .present found, .inr rfl⟩
  · cases held with
    | present found => simp [missing] at found
    | absent => exact ⟨none, .absent blocked (.inr rfl), .inl rfl⟩

/-- What is said about a document that can be read. -/
def tellWarnings (document : Document) : Action Unit := do
  echo ("Parsed " ++ Text.ofNat document.predicates.length ++ " predicates and " ++
    Text.ofNat document.definitions.length ++ " definitions.")
  if document.warnings.isEmpty then echo "No warnings."
  else echoGrid (warningGrid document)

theorem check_eq_bind (file : Path) : check file = readDocument file >>= tellWarnings := rfl

/-- Checking a file that holds a document goes through exactly if the level of the log can be
told. -/
theorem run_check_iff {file : Path} {document : Document}
    (configured : HoldsSettings files host content) (held : HoldsDocument files file document)
    (read : ReadsAt files verbose arguments (.check file)) :
    (run files host arguments).code = 0 ↔
      ∃ level, Preferences.startLevel content verbose = .ok level := by
  rcases run_act_cases configured read with
    ⟨fault, after, untold, -, run_eq⟩ | ⟨before, started, same, run_eq⟩
  · have failed : (run files host arguments).code ≠ 0 := by
      rw [run_eq]
      exact Nat.one_ne_zero
    exact ⟨fun went => absurd went failed, fun ⟨level, started⟩ => by simp [untold] at started⟩
  obtain rfl : before.files = files := same.files
  obtain ⟨between, -, check_eq⟩ := (readDocument_finds held).run_bind tellWarnings
  obtain ⟨after, told⟩ : ∃ after,
      (tellWarnings document).run.run between = (.ok (), after) := by
    rw [tellWarnings]
    split
    next => exact ⟨_, rfl⟩
    next => exact ⟨_, rfl⟩
  rw [run_eq, perform, check_eq_bind, check_eq, told]
  exact ⟨fun _ => ⟨before.level, started⟩, fun _ => rfl⟩

/-- A document's map that was written to a file is a document there. -/
theorem ExportedBoth.exists_holdsDocument {place file : Path} {document : Document}
    {printed written : Outcome} (both : ExportedBoth files path place .dsl text printed written)
    (exported : IsExport files asked .dsl text file document) :
    ∃ again, HoldsDocument written.session.files path again := by
  obtain ⟨bytes, spelled, -, -, parsed⟩ := exported.held
  obtain ⟨again, again_parsed⟩ := Document.exists_parse_saved parsed file.stem
  refine ⟨again, _, text ++ ['\n'], read_eq_ok_of_find (both.wrote.find both.located),
    Utf8.decode_encode _, ?_⟩
  rw [exported.text_eq]
  exact again_parsed

/-- The same export without and with a file for its text.  The run without one changes nothing.  If
it fails, the other one fails alike and changes nothing; if not, the other one goes through, too,
unless the name of the file is too long, and nothing is changed but that file.  The file then holds
what was printed, without the last line feed in the formats for what a map shows, if and only if the
text has no control sequences, which in the JSON format is always so.  The text as a document
depends on nothing but the document that was read.  It can be checked in its file as long as the
level of the log can be told, which it can be if it could for the export: the settings are as they
were, unless the file is the settings file. -/
theorem run_export_twice {alone : List Text} (configured : HoldsSettings files host content)
    (asks_alone : AsksExport files verbose alone none asked)
    (asks : AsksExport files verbose arguments (some path) asked)
    (parent : files.find path.parent = .ok .directory) (free : files.find path ≠ .ok .directory) :
    let printed := run files host alone
    let written := run files host arguments
    printed.session.files = files ∧
      (printed.code ≠ 0 → written = printed) ∧
      (printed.code = 0 →
        files.locate path = .error .tooLong ∧ written.stop = some (.file .tooLong path) ∧
            written.session.files = files ∨
          ∃ place format text file document,
            IsExport files asked format text file document ∧
            ExportedBoth files path place format text printed written ∧
            (text ++ format.fileEnd = claimedContent format (Session.printedLine text) ↔
              ControlSequence.Free text) ∧
            (format = .json → ControlSequence.Free text) ∧
            (format = .dsl →
              text = (Map.ofDeclarations file.stem document.declarations).toText ∧
              (∀ others elsewhere loud again request name,
                others.read file = files.read file →
                AsksExport others loud again none (.ok (file, request, name)) →
                Format.ofText? name = some .dsl → (run others elsewhere again).code = 0 →
                (run others elsewhere again).session.output = printed.session.output) ∧
              ∃ after, HoldsSettings written.session.files host after ∧
                (after = content ∨ after = some (Utf8.encode (text ++ ['\n']))) ∧
                ∀ loud check, ReadsAt written.session.files loud check (.check path) →
                  ((run written.session.files host check).code = 0 ↔
                    ∃ level, Preferences.startLevel after loud = .ok level) ∧
                  (after = content → (verbose → loud) →
                    (run written.session.files host check).code = 0))) := by
  intro printed written
  have printed_eq : printed = _ := run_export_eq host asks_alone
  have written_eq : written = _ := run_export_eq host asks
  rcases prepare_cases files host verbose asked with
    ⟨stop, after, stopped, kept, code⟩ |
      ⟨format, text, file, document, after, returned, exported, rfl, blank⟩
  · rw [run_bind_of_error stopped] at printed_eq written_eq
    have failed : printed.code ≠ 0 := by
      rw [printed_eq]
      exact code
    refine ⟨?_, fun _ => written_eq.trans printed_eq.symm, fun went => absurd went failed⟩
    rw [printed_eq]
    exact kept
  · obtain ⟨level, started⟩ := exists_startLevel_of_prepare configured returned
    rw [run_bind_of_ok returned] at printed_eq written_eq
    obtain ⟨last, told, last_files, last_output⟩ := deliver_none_run format text blank
    rw [told] at printed_eq
    have went : printed.code = 0 := by
      rw [printed_eq]
      rfl
    have output_eq : printed.session.output = [.text (Session.printedLine text)] := by
      rw [printed_eq]
      exact last_output
    refine ⟨?_, fun failed => absurd went failed, fun _ => ?_⟩
    · rw [printed_eq]
      exact last_files
    rcases deliver_some_cases format text parent free with
      ⟨long, failed⟩ | ⟨place, final, located, left_text, wrote⟩
    · rw [failed] at written_eq
      rw [written_eq]
      exact .inl ⟨long, rfl, rfl⟩
    · rw [left_text] at written_eq
      have both : ExportedBoth after.files path place format text printed written := by
        rw [written_eq]
        exact ⟨located, rfl, output_eq, wrote⟩
      right
      refine ⟨place, format, text, file, document, exported, both, fileContent_eq_iff, ?_, ?_⟩
      · rintro rfl
        obtain ⟨change, rfl⟩ := exported.text
        exact Map.free_toJsonText _
      · rintro rfl
        obtain ⟨again, held⟩ := both.exists_holdsDocument exported
        obtain ⟨settings, configured_after, settings_cases⟩ :=
          Wrote.holdsSettings both.wrote configured
        refine ⟨exported.text_eq, ?_, settings, configured_after, settings_cases, ?_⟩
        · intro others elsewhere loud again request name same asks_again named again_went
          rw [exported.output_eq same asks_again named again_went, output_eq]
        · intro loud check read
          have check_iff := run_check_iff configured_after held read
          refine ⟨check_iff, ?_⟩
          rintro rfl louder
          exact check_iff.2 (Preferences.exists_startLevel_of_louder louder started)

/-- A document without control sequences is written as it is printed, and can be checked. -/
theorem run_export_twice_of_definition :
    let files := ({} : FileTree).addFile (Path.parse "m.dsl")
      (Utf8.encode "a -- r -> b\na:\nx\n---")
    let host : Host := { settings := Path.parse "home", pick := fun _ _ => 0, explain := id }
    let printed := run files host ["export", "m.dsl"]
    let written := run files host ["export", "--output", "out.dsl", "m.dsl"]
    files.find (Path.parse "out.dsl").parent = .ok .directory ∧
      printed.code = 0 ∧ written.code = 0 ∧
      (∃ place shown, printed.session.output = [.text shown] ∧
        files.Wrote written.session.files place (Utf8.encode shown)) ∧
      (run written.session.files host ["check", "out.dsl"]).code = 0 := by
  intro files host
  -- the two runs are to be compared as they stand, not by running the program
  dsimp only
  let document : Document :=
    { predicates := [⟨1, ⟨"a", "r", "b"⟩⟩], definitions := [⟨2, ⟨"a", "x"⟩⟩] }
  have configured : HoldsSettings files host none := .absent (by decide +kernel) (.inl rfl)
  have held : HoldsDocument files (Path.parse "m.dsl") document := by
    decide +kernel
  have read : readCommand files ["m.dsl"] .export =
      Except.map (ExportRequest.command none) (.ok (Path.parse "m.dsl", {}, "dsl")) := by
    decide +kernel
  have parent : files.find (Path.parse "out.dsl").parent = .ok .directory := by decide +kernel
  have went : (run files host ["export", "m.dsl"]).code = 0 := by decide +kernel
  have asks_alone : AsksExport files false ["export", "m.dsl"] none
      (.ok (Path.parse "m.dsl", {}, "dsl")) := ⟨["m.dsl"], by decide +kernel, read⟩
  obtain ⟨-, -, goes⟩ := run_export_twice configured asks_alone (asksExport_output "out.dsl" read)
    parent (by decide +kernel)
  rcases goes went with
    ⟨long, -⟩ | ⟨place, format, text, file, found, exported, both, same_iff, -, dsl⟩
  · exact absurd long (by decide +kernel)
  obtain ⟨request, name, asked_eq, named⟩ := exported.asked
  obtain ⟨rfl, -, rfl⟩ : Path.parse "m.dsl" = file ∧ _ = request ∧ "dsl".toList = name := by
    simpa using Except.ok.inj asked_eq
  obtain rfl : Format.dsl = format := Option.some.inj named
  obtain rfl := held.unique exported.held
  obtain ⟨text_eq, -, settings, configured_after, -, checks⟩ := dsl rfl
  have free : ControlSequence.Free text := by
    rw [text_eq]
    exact ControlSequence.free_of_not_mem (by decide +kernel)
  have content_eq := same_iff.2 free
  have wrote := both.wrote
  rw [content_eq] at wrote
  have check_read : ReadsAt
      (run files host ["export", "--output", "out.dsl", "m.dsl"]).session.files false
      ["check", "out.dsl"] (.check (Path.parse "out.dsl")) := by
    decide +kernel
  have no_settings : (run files host ["export", "--output", "out.dsl", "m.dsl"]).session.files.find
      host.settingsFile = .error .missing := by
    decide +kernel
  have untouched : settings = none := by
    cases configured_after with
    | present found =>
        rw [no_settings] at found
        cases found
    | absent => rfl
  obtain ⟨-, checked⟩ := checks false ["check", "out.dsl"] check_read
  exact ⟨parent, went, both.code, ⟨place, _, both.output, wrote⟩, checked untouched id⟩

/-- A control sequence in a name is written to the file but not printed. -/
theorem run_export_prints_without_colour :
    let files := ({} : FileTree).addFile (Path.parse "m.dsl") (Utf8.encode "a\x1b[1m -- r -> b")
    let host : Host := { settings := Path.parse "home", pick := fun _ _ => 0, explain := id }
    let printed := run files host ["export", "m.dsl"]
    let written := run files host ["export", "--output", "out.dsl", "m.dsl"]
    files.find (Path.parse "out.dsl").parent = .ok .directory ∧
      files.find (Path.parse "out.dsl") = .error .missing ∧
      printed.code = 0 ∧ written.code = 0 ∧
      printed.session.output = [.text "a -- r -> b\n"] ∧
      written.session.files.find (Path.parse "out.dsl") =
        .ok (.file (Utf8.encode "a\x1b[1m -- r -> b\n")) ∧
      (Utf8.encode "a\x1b[1m -- r -> b\n" ≠ Utf8.encode "a -- r -> b\n") := by
  intro files host printed written
  exact ⟨by decide +kernel, by decide +kernel, by decide +kernel, by decide +kernel,
    by decide +kernel, by decide +kernel, by decide +kernel⟩

end CommandLine
end ConceptMap
