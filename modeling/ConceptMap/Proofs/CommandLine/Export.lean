import ConceptMap.Proofs.CommandLine.Viewing
import ConceptMap.Proofs.Files.Tree
import ConceptMap.Proofs.Map.Restricted
import Mathlib.Data.List.Nodup

/-!
# Exports

An export leaves the text of what a map shows, in the output or in a file.  Under a relationship the
text covers nothing else if a concept is named, too; without one it covers the whole map.
-/

namespace ConceptMap

/-- A file can be written under a path: the way there is free, and leads to no directory. -/
def FileTree.Writable (tree : FileTree) (path : Path) : Prop :=
  ∃ place, tree.locate path = .ok place ∧ tree.entry? place ≠ some .directory

theorem FileTree.Writable.exists_write {tree : FileTree} {path : Path}
    (writable : tree.Writable path) (bytes : List UInt8) :
    ∃ after, tree.write path bytes = .ok after := by
  obtain ⟨place, located, free⟩ := writable
  obtain ⟨after, write, -⟩ := exists_wrote located free bytes
  exact ⟨after, write⟩

theorem Format.fileEnd_eq_nil {format : Format} (shown : format ≠ .dsl) : format.fileEnd = [] := by
  cases format with
  | dsl => exact absurd rfl shown
  | json => rfl
  | dot => rfl

namespace CommandLine

/-- A text is in the file of a path, or else it is all that was printed. -/
inductive Delivers (files : FileTree) (text : Text) : Option Path → Session → Prop where
  /-- It was printed, and no file was touched. -/
  | printed {session : Session} (output : session.output = [.text (Session.printedLine text)])
      (kept : session.files = files) : Delivers files text none session
  /-- It was written to the file. -/
  | written {path : Path} {session : Session}
      (write : files.write path (Utf8.encode text) = .ok session.files) :
      Delivers files text (some path) session

variable {files : FileTree} {host : Host} {file : Path} {document : Document}
  {content : Preferences.Content} {request : ViewRequest} {format : Format} {output : Option Path}
  {verbose : Bool} {arguments : List Text} {name : Text}

/-- A text in a format for what a map shows is left as it is. -/
theorem deliver_run (partial_view : format ≠ .dsl) (text : Text) {before : Session}
    (blank : before.output = []) (writable : ∀ path ∈ output, before.files.Writable path) :
    ∃ after, (deliver format output text).run.run before = (.ok (), after) ∧
      Delivers before.files text output after := by
  cases output with
  | none =>
      have printed : (before.echo text).output = [.text (Session.printedLine text)] := by
        simp [Session.echo, Session.print, blank]
      exact ⟨before.echo text, rfl, .printed printed (before.echo_files text)⟩
  | some path =>
      obtain ⟨files, write⟩ := (writable path rfl).exists_write (Utf8.encode text)
      have wrote : (writeFile path (text ++ format.fileEnd)).run.run before =
          (.ok (), { before with files }) := by
        rw [Format.fileEnd_eq_nil partial_view, List.append_nil]
        exact writeFile_run write
      refine ⟨_, run_bind_of_ok wrote _, .written ?_⟩
      rw [Session.echo_files]
      exact write

/-- A run that is asked for an export leaves the text of the map, looked at as is asked for, unless
its settings cannot be told. -/
theorem run_export_cases (configured : HoldsSettings files host content)
    (read : ReadsAt files verbose arguments (.export file request name output))
    (held : HoldsDocument files file document)
    (known : (Map.ofDeclarations file.stem document.declarations).Knows request)
    (shown : Format.ofText? name = some format) (partial_view : format ≠ .dsl)
    (writable : ∀ path ∈ output, files.Writable path) :
    let viewed := (Map.ofDeclarations file.stem document.declarations).withView
      (request.change (Preferences.loadView content).value)
    (Preferences.canTell content verbose = false ∧ StopsUntold files (run files host arguments)) ∨
      Preferences.canTell content verbose = true ∧ (run files host arguments).code = 0 ∧
        Delivers files (format.render viewed) output (run files host arguments).session := by
  intro viewed
  have exports := Views.exports shown file request output
  rcases run_views_cases configured read exports held with
    untold | ⟨told, ⟨-, before, same, run_eq⟩ | ⟨fault, -, unknown, -⟩⟩
  · exact .inl untold
  · obtain rfl : before.files = files := same.files
    obtain ⟨after, went, delivered⟩ :=
      deliver_run partial_view (format.render viewed) same.output writable
    rw [run_eq, went]
    exact .inr ⟨told, rfl, delivered⟩
  · exact absurd known unknown.not_knows

/-- An export under a relationship goes through exactly if its settings can be told, and else stops
before anything is done; settings without integers that are too long can be told.  It covers nothing
but the relationship exactly when a concept is named, as the active one or as a selected one, or the
map has nothing else. -/
theorem run_export_showsOnly_iff {label : Text} (configured : HoldsSettings files host content)
    (read : ReadsAt files verbose arguments (.export file request name output))
    (held : HoldsDocument files file document)
    (known : (Map.ofDeclarations file.stem document.declarations).Knows request)
    (restricted : request.relationship = some label) (nonempty : label ≠ [])
    (shown : Format.ofText? name = some format) (partial_view : format ≠ .dsl)
    (writable : ∀ path ∈ output, files.Writable path) :
    let outcome := run files host arguments
    ((Setting.table (Preferences.load content).value).isWritable →
        Preferences.canTell content verbose) ∧
      (outcome.code = 0 ↔ Preferences.canTell content verbose) ∧
      (outcome.code ≠ 0 → StopsUntold files outcome) ∧
      ∃ viewed : Map,
        (Map.ofDeclarations file.stem document.declarations).request
            (Preferences.loadView content).value request = .ok viewed ∧
          (outcome.code = 0 → Delivers files (format.render viewed) output outcome.session) ∧
          (viewed.ShowsOnly label ↔ request.active ≠ none ∨ request.select ≠ [] ∨
            (Graph.ofDeclarations document.declarations).HasOnly label) := by
  intro outcome
  have granted := Map.request_of_knows known (Preferences.loadView content).value
  have fresh : (Map.ofDeclarations file.stem document.declarations).view = {} := rfl
  have only_iff := Map.showsOnly_withView_change_iff fresh restricted nonempty
    (Preferences.loadView content).value
  refine ⟨fun writable => Preferences.canTell_of_isWritable writable verbose, ?_⟩
  rcases run_export_cases configured read held known shown partial_view writable with
    ⟨untold, stopped⟩ | ⟨told, code, delivered⟩
  · have failed : outcome.code ≠ 0 := stopped.code_ne_zero
    exact ⟨by simp [failed, untold], fun _ => stopped, _, granted,
      fun went => absurd went failed, only_iff⟩
  · exact ⟨by simp [outcome, code, told], fun failed => absurd code failed, _, granted,
      fun _ => delivered, only_iff⟩

/-- With an active concept the relationship alone is covered, and a limit that makes no sense in the
settings file does no harm. -/
theorem run_export_showsOnly_of_active :
    let document : Document :=
      { predicates := [⟨1, ⟨"a", "r", "b"⟩⟩, ⟨2, ⟨"b", "s", "c"⟩⟩], definitions := [] }
    let files := (({} : FileTree).addFile (Path.parse "m.dsl")
      (Utf8.encode "a -- r -> b\nb -- s -> c")).addFile (Path.parse "home/config.toml")
        (Utf8.encode "[view]\nmax_distance = -1")
    let host : Host := { settings := Path.parse "home", pick := fun _ _ => 0, explain := id }
    let outcome := run files host
      ["export", "m.dsl", "--format", "dot", "-r", "r", "--active", "b"]
    HoldsDocument files (Path.parse "m.dsl") document ∧
      ∃ viewed : Map, outcome.code = 0 ∧ Delivers files viewed.toDot none outcome.session ∧
        viewed.ShowsOnly "r" := by
  intro document files host outcome
  have configured : HoldsSettings files host (some (Utf8.encode "[view]\nmax_distance = -1")) :=
    .present (by decide +kernel)
  have read : ReadsAt files false
      ["export", "m.dsl", "--format", "dot", "-r", "r", "--active", "b"]
      (.export (Path.parse "m.dsl") { active := some "b", relationship := some "r" } "dot"
        none) := by
    decide +kernel
  have held : HoldsDocument files (Path.parse "m.dsl") document := by
    decide +kernel
  have known : (Map.ofDeclarations (Path.parse "m.dsl").stem document.declarations).Knows
      { active := some "b", relationship := some "r" } := by
    decide +kernel
  have shown : Format.ofText? "dot" = some .dot := by decide
  obtain ⟨short, code_iff, -, viewed, -, delivered, only_iff⟩ :=
    run_export_showsOnly_iff configured read held known rfl (by decide) shown (by decide) (by simp)
  have code : outcome.code = 0 := code_iff.2 (short (by decide +kernel))
  have named : (some "b" : Option Text) ≠ none := by simp
  exact ⟨held, viewed, code, delivered code, only_iff.2 (.inl named)⟩

/-- Without a concept the whole map is covered, so that an edge with another label is exported. -/
theorem run_export_not_showsOnly :
    let document : Document :=
      { predicates := [⟨1, ⟨"a", "r", "b"⟩⟩, ⟨2, ⟨"b", "s", "c"⟩⟩], definitions := [] }
    let files := ({} : FileTree).addFile (Path.parse "m.dsl")
      (Utf8.encode "a -- r -> b\nb -- s -> c")
    let host : Host := { settings := Path.parse "home", pick := fun _ _ => 0, explain := id }
    let outcome := run files host ["export", "m.dsl", "--format", "json", "--relationship", "r"]
    let viewed := (Map.ofDeclarations "m" document.declarations).withView fun view =>
      view.setRelationship (some "r")
    outcome.code = 0 ∧ outcome.session.output = [.text (Session.printedLine viewed.toJsonText)] ∧
      (∃ link ∈ viewed.payload.links, link.label = "s") ∧ ¬viewed.ShowsOnly "r" := by
  intro document files host outcome viewed
  exact ⟨by decide +kernel, by decide +kernel, by decide +kernel, by decide +kernel⟩

end CommandLine
end ConceptMap
