import ConceptMap.Proofs.CommandLine.Looking
import ConceptMap.Proofs.Files.Tree
import ConceptMap.Proofs.Preferences

/-!
# Runs that save settings

A run that saves settings reads the settings file, writes it anew and stops at a fault of the file
system only.  So whatever is saved in run after run, the settings file holds what the changes have
made of it.
-/

namespace ConceptMap
namespace CommandLine

variable {files last : FileTree} {host : Host} {session : Session}
  {content : Preferences.Content} {change : ViewChange} {changes : List ViewChange}

/-- A file that was written to the settings directory is the settings file. -/
theorem holdsSettings_of_write {bytes : List UInt8}
    (write : files.write host.settingsFile bytes = .ok last) :
    HoldsSettings last host (some bytes) := by
  obtain ⟨place, located, wrote⟩ := FileTree.exists_wrote_of_write write
  exact .present (wrote.find located)

section Steps

variable {α β : Type}

/-- An action stops with an exit code that tells of it. -/
def Fails (action : Action α) (session : Session) : Prop :=
  ∃ stop after, action.run.run session = (.error stop, after) ∧ stop.code ≠ 0

/-- An action fails, or leaves a content in the settings file. -/
def Stores (action : Action α) (session : Session) (content : Preferences.Content) : Prop :=
  Fails action session ∨ ∃ result after, action.run.run session = (.ok result, after) ∧
    HoldsSettings after.files session.host content

/-- An action fails, or leaves the files as they are. -/
def Spares (action : Action α) (session : Session) : Prop :=
  Fails action session ∨ ∃ result after, action.run.run session = (.ok result, after) ∧
    after.files = session.files

theorem Fails.bind {first : Action α} (fails : Fails first session) (next : α → Action β) :
    Fails (first >>= next) session := by
  obtain ⟨stop, after, stopped, code⟩ := fails
  exact ⟨stop, after, run_bind_of_error stopped next, code⟩

/-- What only looks can stand in front. -/
theorem Finds.stores {first : Action α} {result : α} {next : α → Action β}
    (found : Finds first session result)
    (stores : ∀ after, session.OnlyLogged after → Stores (next result) after content) :
    Stores (first >>= next) session content := by
  obtain ⟨between, same, run_eq⟩ := found.run_bind next
  rw [Stores, Fails, run_eq, ← same.host]
  exact stores between same

/-- So can a report, which may fail. -/
theorem accept_stores {reported : Reported α} {next : α → Action β}
    (stores : ∀ after, session.OnlyLogged after → Stores (next reported.value) after content) :
    Stores (accept reported >>= next) session content := by
  by_cases tells : session.Tells reported.complaints
  · exact (accept_finds tells).stores stores
  · have fails : Fails (accept reported) session :=
      ⟨_, _, accept_run_of_not_tells tells, Nat.one_ne_zero⟩
    exact .inl (fails.bind next)

/-- What does not touch the files can follow. -/
theorem Stores.bind {first : Action α} {next : α → Action β}
    (stores : Stores first session content)
    (spares : ∀ result after, Spares (next result) after) :
    Stores (first >>= next) session content := by
  rcases stores with fails | ⟨middle, between, went, held⟩
  · exact .inl (fails.bind next)
  · rw [Stores, Fails, run_bind_of_ok went]
    rcases spares middle between with fails | ⟨result, after, went_on, kept⟩
    · exact .inl fails
    · exact .inr ⟨result, after, went_on, kept ▸ held⟩

theorem spares_echo (line : Text) (session : Session) : Spares (echo line) session :=
  .inr ⟨(), session.echo line, rfl, session.echo_files line⟩

theorem spares_orUnwritable {written : Except Numeral.WriteFault α} {next : α → Action β}
    (spares : ∀ result, written = .ok result → Spares (next result) session) :
    Spares (orUnwritable written >>= next) session := by
  cases written with
  | error fault => exact .inl ⟨.unwritable fault, session, rfl, Nat.one_ne_zero⟩
  | ok result => exact spares result rfl

end Steps

/-- The settings file is written, in a directory that is made if need be. -/
def writeSettings (saved : Except Numeral.WriteFault (List UInt8)) : Action Unit := do
  let session ← get
  let host := session.host
  let made ← orStop host.settings (session.files.makeDirectory host.settings)
  let files ← orStop host.settingsFile (made.write host.settingsFile (saved.toOption.getD []))
  set { session with files }
  discard (orUnwritable saved)

theorem saveView_eq (preferences : ViewPreferences) :
    saveView preferences = readSettings >>= fun content =>
      accept (Preferences.saveView content preferences.maxDistance preferences.bidirectional) >>=
        writeSettings :=
  rfl

theorem writeSettings_stores {saved : Except Numeral.WriteFault (List UInt8)} {bytes : List UInt8}
    (written : ∀ result, saved = .ok result → result = bytes) (session : Session) :
    Stores (writeSettings saved) session (some bytes) := by
  have run_eq : (writeSettings saved).run.run session =
      (orStop session.host.settings (session.files.makeDirectory session.host.settings) >>=
        fun made => orStop session.host.settingsFile
          (made.write session.host.settingsFile (saved.toOption.getD [])) >>= fun files =>
            set { session with files } >>= fun _ => discard (orUnwritable saved)).run.run session :=
    rfl
  have file_code (fault : FileFault) (path : Path) : (Stop.file fault path).code ≠ 0 :=
    Nat.one_ne_zero
  rw [Stores, Fails, run_eq]
  cases made : session.files.makeDirectory session.host.settings with
  | error fault => exact .inl ⟨_, session, rfl, file_code fault _⟩
  | ok tree =>
      have goes_on (next : FileTree → Action Unit) :
          (orStop session.host.settings (.ok tree) >>= next).run.run session =
            (next tree).run.run session := rfl
      rw [goes_on]
      cases write : tree.write session.host.settingsFile (saved.toOption.getD []) with
      | error fault => exact .inl ⟨_, session, rfl, file_code fault _⟩
      | ok files =>
          cases saved with
          | error fault => exact .inl ⟨.unwritable fault, _, rfl, Nat.one_ne_zero⟩
          | ok result =>
              obtain rfl := written result rfl
              exact .inr ⟨(), { session with files }, rfl, holdsSettings_of_write write⟩

/-- What is saved, if it can be written, is the document after the change. -/
theorem saveView_value_eq_ok {bytes : List UInt8}
    (saved : (Preferences.saveView content
      (change.apply (Preferences.loadView content).value).maxDistance
      (change.apply (Preferences.loadView content).value).bidirectional).value = .ok bytes) :
    bytes = Utf8.encode (Toml.print (Preferences.documentAfter content change)) := by
  simp only [Preferences.saveView, Reported.andThen, Toml.write, Int.toNat_natCast] at saved
  split at saved
  next => exact (Except.ok.inj saved).symm
  next => cases saved

theorem saveSettings_stores (configured : HoldsSettings session.files session.host content)
    (change : ViewChange) :
    Stores (saveSettings change.distance change.bidirectional) session
      (Preferences.contentAfter content change) := by
  rw [saveSettings, loadView, bind_assoc]
  apply (readSettings_finds configured).stores
  intro after same
  apply accept_stores
  intro later same_later
  have configured_later := (same.trans same_later).holdsSettings configured
  apply Stores.bind
  · rw [saveView_eq]
    apply (readSettings_finds configured_later).stores
    intro last _
    exact accept_stores fun _ _ => writeSettings_stores (fun _ => saveView_value_eq_ok) _
  · exact fun _ last => spares_orUnwritable fun _ _ => spares_echo _ last

/-- A run that saves a change and succeeds leaves what the change makes of the settings file. -/
theorem holdsSettings_run {arguments : List Text}
    (configured : HoldsSettings files host content)
    (read : Reads files arguments (.saveSettings change.distance change.bidirectional))
    (succeeded : (run files host arguments).code = 0) :
    HoldsSettings (run files host arguments).session.files host
      (Preferences.contentAfter content change) := by
  obtain ⟨verbose, read⟩ := read
  rcases run_act_cases configured read with
    ⟨fault, after, -, -, run_eq⟩ | ⟨before, -, same, run_eq⟩
  · rw [run_eq] at succeeded
    exact absurd succeeded Nat.one_ne_zero
  have same_host : before.host = host := same.host
  rcases saveSettings_stores (same.holdsSettings configured) change with
    ⟨stop, after, stopped, code⟩ | ⟨result, after, went, held⟩
  · rw [run_eq, perform, stopped] at succeeded
    exact absurd succeeded code
  · rw [run_eq, perform, went, ← same_host]
    exact held

/-- Runs that save changes and succeed, each over the files that the one before has left. -/
inductive Saves (host : Host) : FileTree → List ViewChange → FileTree → Prop where
  /-- There is no run. -/
  | none (files : FileTree) : Saves host files [] files
  /-- There is a run, and others follow. -/
  | run {files last : FileTree} {arguments : List Text} {change : ViewChange}
      {changes : List ViewChange}
      (read : Reads files arguments (.saveSettings change.distance change.bidirectional))
      (succeeded : (CommandLine.run files host arguments).code = 0)
      (rest : Saves host (CommandLine.run files host arguments).session.files changes last) :
      Saves host files (change :: changes) last

theorem Saves.holdsSettings (saves : Saves host files changes last)
    (configured : HoldsSettings files host content) :
    HoldsSettings last host (changes.foldl Preferences.contentAfter content) := by
  induction saves generalizing content with
  | none => exact configured
  | run read succeeded _ ih => exact ih (holdsSettings_run configured read succeeded)

/-- However often settings are saved, and whatever the settings file was at first: as long as the
documents that are printed are read back, each preference is the one that was given last, or else
the one that held at first, and nothing else that the file says is lost or changed. -/
theorem settings_accumulate (saves : Saves host files changes last) (nonempty : changes ≠ [])
    (configured : HoldsSettings files host content)
    (back : ∀ document ∈ Preferences.documentsAfter content changes, Toml.ReadsBack document) :
    ∃ after, HoldsSettings last host after ∧ Preferences.Accumulates content changes after :=
  ⟨_, saves.holdsSettings configured, Preferences.accumulates_foldl_contentAfter nonempty back⟩

/-- Settings with a view and a level. -/
def settingsWith (view : ViewPreferences) : Table :=
  [("view", .table view.toTable), ("logging", .table [("level", .text "info")])]

set_option maxRecDepth 4000 in
/-- In the settings file a number stands in place of the view.  One run gives a limit and the next
one a direction, which leaves the limit as it is. -/
theorem settings_accumulate_over_invalid_view :
    let content : Preferences.Content :=
      some (Utf8.encode "view = 3\n\n[logging]\nlevel = \"info\"\n")
    let files : FileTree :=
      ⟨[(Path.parse "home", .directory),
        (Path.parse "home/config.toml", .file (content.getD []))]⟩
    let host : Host := { settings := Path.parse "home", pick := fun _ _ => 0, explain := id }
    let changes : List ViewChange := [⟨some 4, none⟩, ⟨none, some false⟩]
    ∃ last after, Saves host files changes last ∧
      HoldsSettings files host content ∧
      HoldsSettings last host after ∧ Preferences.Accumulates content changes after ∧
      (Preferences.loadView after).value.maxDistance = 4 := by
  intro content files host changes
  have configured : HoldsSettings files host content :=
    .present (by decide +kernel)
  have first_read : Reads files ["config", "set-view", "--distance", "4"]
      (.saveSettings (some 4) none) :=
    ⟨false, by decide +kernel⟩
  have second_read (files : FileTree) : Reads files ["config", "set-view", "--one-way"]
      (.saveSettings none (some false)) :=
    ⟨false, "config", ["set-view", "--one-way"], .config, by decide +kernel, by decide +kernel,
      by rfl⟩
  have saves : Saves host files changes _ :=
    .run first_read (by decide +kernel) (.run (second_read _) (by decide +kernel) (.none _))
  have first_document :
      Preferences.documentAfter content ⟨some 4, none⟩ = settingsWith ⟨4, true⟩ := by
    rw [Preferences.documentAfter, Preferences.loadView, Preferences.load, Preferences.document,
      Utf8.decode_encode]
    rfl
  have first_read_back :
      Toml.read (Toml.print (settingsWith ⟨4, true⟩)) = some (settingsWith ⟨4, true⟩) := by
    rfl
  have second_document :
      Preferences.documentAfter (Preferences.contentAfter content ⟨some 4, none⟩)
          ⟨none, some false⟩ =
        settingsWith ⟨4, false⟩ := by
    rw [Preferences.documentAfter, Preferences.contentAfter, first_document, Preferences.loadView,
      Preferences.load_print first_read_back]
    rfl
  have second_read_back :
      Toml.read (Toml.print (settingsWith ⟨4, false⟩)) = some (settingsWith ⟨4, false⟩) := by
    rfl
  have back : ∀ document ∈ Preferences.documentsAfter content changes, Toml.ReadsBack document := by
    simp only [changes, Preferences.documentsAfter, List.forall_mem_cons]
    rw [first_document, second_document]
    exact ⟨⟨_, first_read_back, .refl _⟩, ⟨_, second_read_back, .refl _⟩, List.forall_mem_nil _⟩
  obtain ⟨after, held, accumulated⟩ :=
    settings_accumulate saves (List.cons_ne_nil _ _) configured back
  exact ⟨_, after, saves, configured, held, accumulated, accumulated.maxDistance⟩

end CommandLine
end ConceptMap
