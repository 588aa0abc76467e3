import ConceptMap.CommandLine.Session

/-!
# Actions that only look

Most steps of a run only look at the files, and leave no trace but in the log.  Such a step finds a
result; steps that find something may follow one another, and what comes after them starts from the
same files and the same output.
-/

namespace ConceptMap
namespace CommandLine

/-- Nothing was done between two sessions but to log messages and to set the level of the log. -/
structure Session.SameWork (before after : Session) : Prop where
  files : after.files = before.files
  host : after.host = before.host
  output : after.output = before.output
  errors : after.errors = before.errors

/-- Nothing was done between two sessions but to log messages. -/
structure Session.OnlyLogged (before after : Session) : Prop extends before.SameWork after where
  level : after.level = before.level

namespace Session

variable {first second third : Session}

theorem SameWork.refl (session : Session) : session.SameWork session := ⟨rfl, rfl, rfl, rfl⟩

theorem SameWork.trans (start : first.SameWork second) (rest : second.SameWork third) :
    first.SameWork third where
  files := rest.files.trans start.files
  host := rest.host.trans start.host
  output := rest.output.trans start.output
  errors := rest.errors.trans start.errors

theorem OnlyLogged.refl (session : Session) : session.OnlyLogged session := ⟨.refl session, rfl⟩

theorem OnlyLogged.trans (start : first.OnlyLogged second) (rest : second.OnlyLogged third) :
    first.OnlyLogged third :=
  ⟨start.toSameWork.trans rest.toSameWork, rest.level.trans start.level⟩

theorem OnlyLogged.of_record (session : Session) (level : Level) (message : Text) :
    session.OnlyLogged (session.record level message) := by
  rw [record]
  split
  next => exact ⟨⟨rfl, rfl, rfl, rfl⟩, rfl⟩
  next => exact refl session

/-- What is logged of complaints. -/
def reports (session : Session) (complaints : List Complaint) : List Record :=
  if session.warns then complaints.map fun complaint => ⟨.warning, session.report complaint⟩
  else []

/-- A session in which complaints are logged, if warnings are. -/
def complain (session : Session) (complaints : List Complaint) : Session :=
  { session with log := session.log ++ session.reports complaints }

/-- The reports of complaints can be written, unless warnings are not logged anyway. -/
def Tells (session : Session) (complaints : List Complaint) : Prop :=
  session.warns → ∀ complaint ∈ complaints, complaint.isWritable

theorem OnlyLogged.of_complain (session : Session) (complaints : List Complaint) :
    session.OnlyLogged (session.complain complaints) :=
  ⟨⟨rfl, rfl, rfl, rfl⟩, rfl⟩

@[simp]
theorem complain_nil (session : Session) : session.complain [] = session := by
  simp [complain, reports]

theorem complain_cons (session : Session) (complaint : Complaint) (rest : List Complaint) :
    session.complain (complaint :: rest) = (session.complain [complaint]).complain rest := by
  have reports_eq : session.reports (complaint :: rest) =
      session.reports [complaint] ++ (session.complain [complaint]).reports rest := by
    have same_reports : (session.complain [complaint]).reports rest = session.reports rest := rfl
    rw [same_reports, reports, reports, reports]
    split
    next => rfl
    next => rfl
  rw [complain, reports_eq, ← List.append_assoc]
  rfl

theorem complain_singleton (session : Session) (complaint : Complaint) :
    session.complain [complaint] = session.record .warning (session.report complaint) := by
  rw [complain, record, reports]
  by_cases warned : session.level.rank ≤ Level.warning.rank
  · simp [warns, warned]
  · simp [warns, warned]

theorem foldl_record (session : Session) (complaints : List Complaint) :
    complaints.foldl (fun session complaint => session.record .warning (session.report complaint))
      session = session.complain complaints := by
  induction complaints generalizing session with
  | nil => rw [complain_nil]; rfl
  | cons complaint rest ih => rw [List.foldl_cons, ih, ← complain_singleton, ← complain_cons]

end Session

/-- In a session an action goes through with a result, and leaves no trace but in the log. -/
def Finds {α : Type} (action : Action α) (session : Session) (result : α) : Prop :=
  ∃ after, action.run.run session = (.ok result, after) ∧ session.OnlyLogged after

section Steps

variable {α β : Type} {session after : Session}

theorem run_bind_of_ok {first : Action α} {result : α}
    (went : first.run.run session = (.ok result, after)) (next : α → Action β) :
    (first >>= next).run.run session = (next result).run.run after := by
  rw [ExceptT.run_bind, StateT.run_bind, went]
  rfl

theorem run_bind_of_error {first : Action α} {stop : Stop}
    (stopped : first.run.run session = (.error stop, after)) (next : α → Action β) :
    (first >>= next).run.run session = (.error stop, after) := by
  rw [ExceptT.run_bind, StateT.run_bind, stopped]
  rfl

theorem Finds.run_bind {first : Action α} {result : α} (found : Finds first session result)
    (next : α → Action β) :
    ∃ after, session.OnlyLogged after ∧
      (first >>= next).run.run session = (next result).run.run after := by
  obtain ⟨after, went, same⟩ := found
  exact ⟨after, same, run_bind_of_ok went next⟩

theorem Finds.bind {first : Action α} {next : α → Action β} {middle : α} {result : β}
    (start : Finds first session middle)
    (rest : ∀ after, session.OnlyLogged after → Finds (next middle) after result) :
    Finds (first >>= next) session result := by
  obtain ⟨between, same, run_eq⟩ := start.run_bind next
  obtain ⟨after, went, same_rest⟩ := rest between same
  exact ⟨after, run_eq.trans went, same.trans same_rest⟩

theorem pure_finds (session : Session) (result : α) :
    Finds (pure result : Action α) session result :=
  ⟨session, rfl, .refl session⟩

theorem get_finds (session : Session) : Finds (get : Action Session) session session :=
  ⟨session, rfl, .refl session⟩

theorem record_finds (session : Session) (level : Level) (message : Text) :
    Finds (record level message) session () :=
  ⟨session.record level message, rfl, .of_record session level message⟩

theorem complain_run {complaint : Complaint} (tells : session.Tells [complaint]) :
    (complain complaint).run.run session = (.ok (), session.complain [complaint]) := by
  have got : (get : Action Session).run.run session = (.ok session, session) := rfl
  rw [complain, run_bind_of_ok got, Session.complain_singleton, Session.record]
  by_cases warned : session.warns
  · have writable : complaint.isWritable := tells warned complaint List.mem_cons_self
    simp only [warned, if_true, Complaint.write, writable]
    exact (congrArg (Prod.mk _) (if_pos warned)).trans (congrArg (Prod.mk _) (if_pos warned).symm)
  · simp only [warned, if_false]
    exact congrArg (Prod.mk _) (if_neg warned).symm

theorem complain_run_of_not_isWritable {complaint : Complaint} (warned : session.warns)
    (unwritable : complaint.isWritable = false) :
    (complain complaint).run.run session = (.error (.unwritable .tooLong), session) := by
  have got : (get : Action Session).run.run session = (.ok session, session) := rfl
  rw [complain, run_bind_of_ok got]
  simp only [warned, if_true, Complaint.write, unwritable]
  rfl

theorem forM_complain_run {complaints : List Complaint} (tells : session.Tells complaints) :
    (complaints.forM complain).run.run session = (.ok (), session.complain complaints) := by
  induction complaints generalizing session with
  | nil => rw [Session.complain_nil]; rfl
  | cons complaint rest ih =>
      have told : session.Tells [complaint] := fun warned =>
        List.forall_mem_singleton.2 (tells warned complaint List.mem_cons_self)
      have tells_rest : (session.complain [complaint]).Tells rest := fun warned other found =>
        tells warned other (List.mem_cons_of_mem complaint found)
      rw [session.complain_cons, ← ih tells_rest]
      exact run_bind_of_ok (complain_run told) fun _ => rest.forM complain

/-- Complaints are logged up to the first one that cannot be written, which stops the run. -/
theorem forM_complain_run_of_not_tells {complaints : List Complaint}
    (silenced : ¬session.Tells complaints) :
    (complaints.forM complain).run.run session =
      (.error (.unwritable .tooLong),
        session.complain (complaints.takeWhile Complaint.isWritable)) := by
  have warned : session.warns :=
    Decidable.byContradiction fun silent => silenced fun warned => absurd warned silent
  induction complaints generalizing session with
  | nil => exact absurd (fun _ _ found => nomatch found) silenced
  | cons complaint rest ih =>
      cases writable : complaint.isWritable with
      | false =>
          have stopped := complain_run_of_not_isWritable warned writable
          rw [List.takeWhile_cons_of_neg (by simp [writable]), Session.complain_nil]
          exact run_bind_of_error stopped fun _ => rest.forM complain
      | true =>
          have told : session.Tells [complaint] := fun _ => List.forall_mem_singleton.2 writable
          have silenced_rest : ¬(session.complain [complaint]).Tells rest := fun tells =>
            silenced fun _ => List.forall_mem_cons.2 ⟨writable, tells warned⟩
          rw [List.takeWhile_cons_of_pos writable, session.complain_cons,
            ← ih silenced_rest warned]
          exact run_bind_of_ok (complain_run told) fun _ => rest.forM complain

/-- What is complained about is logged, and nothing else happens. -/
theorem accept_run {reported : Reported α} (tells : session.Tells reported.complaints) :
    (accept reported).run.run session =
      (.ok reported.value, session.complain reported.complaints) :=
  run_bind_of_ok (forM_complain_run tells) fun _ => pure reported.value

/-- What cannot be written stops the run. -/
theorem accept_run_of_not_tells {reported : Reported α}
    (silenced : ¬session.Tells reported.complaints) :
    (accept reported).run.run session =
      (.error (.unwritable .tooLong),
        session.complain (reported.complaints.takeWhile Complaint.isWritable)) :=
  run_bind_of_error (forM_complain_run_of_not_tells silenced) fun _ => pure reported.value

theorem accept_finds {reported : Reported α} (tells : session.Tells reported.complaints) :
    Finds (accept reported) session reported.value :=
  ⟨_, accept_run tells, .of_complain session reported.complaints⟩

theorem acceptEarly_run (session : Session) (reported : Reported α) :
    (acceptEarly reported).run.run session =
      (.ok reported.value,
        session.complain (reported.complaints.filter Complaint.isWritable)) := by
  rw [← Session.foldl_record]
  rfl

end Steps

/-- Printing leaves the files as they are. -/
theorem Session.echo_files (session : Session) (line : Text) :
    (session.echo line).files = session.files := by
  rw [Session.echo, Session.print]
  split
  next => rfl
  next => rfl

theorem writeFile_run_eq (session : Session) (path : Path) (text : Text) :
    (writeFile path text).run.run session =
      (orStop path (session.files.write path (Utf8.encode text)) >>= fun files =>
        set { session with files }).run.run session :=
  rfl

theorem writeFile_run {session : Session} {path : Path} {text : Text} {files : FileTree}
    (write : session.files.write path (Utf8.encode text) = .ok files) :
    (writeFile path text).run.run session = (.ok (), { session with files }) := by
  rw [writeFile_run_eq, write]
  rfl

theorem writeFile_run_of_error {session : Session} {path : Path} {text : Text} {fault : FileFault}
    (failed : session.files.write path (Utf8.encode text) = .error fault) :
    (writeFile path text).run.run session = (.error (.file fault path), session) := by
  rw [writeFile_run_eq, failed]
  rfl

/-- The settings file of a host has a content: its bytes, or nothing if it is not there. -/
inductive HoldsSettings (files : FileTree) (host : Host) : Preferences.Content → Prop where
  /-- There is a file. -/
  | present {bytes : List UInt8}
      (found : files.find host.settingsFile = .ok (.file bytes)) :
      HoldsSettings files host (some bytes)
  /-- There is no file, or not even a place for it. -/
  | absent {fault : FileFault}
      (lost : files.find host.settingsFile = .error fault)
      (harmless : fault = .missing ∨ fault = .notDirectory) :
      HoldsSettings files host none

/-- The settings are still there when nothing was done. -/
theorem Session.SameWork.holdsSettings {before after : Session} {content : Preferences.Content}
    (same : before.SameWork after) (held : HoldsSettings before.files before.host content) :
    HoldsSettings after.files after.host content := by
  rw [same.files, same.host]
  exact held

theorem read_eq_ok_of_find {files : FileTree} {path : Path} {bytes : List UInt8}
    (found : files.find path = .ok (.file bytes)) : files.read path = .ok bytes := by
  rw [FileTree.read, found]
  rfl

section Settings

variable {session : Session} {content : Preferences.Content}

/-- Reading the settings file leaves no trace at all. -/
theorem readSettings_run (held : HoldsSettings session.files session.host content) :
    readSettings.run.run session = (.ok content, session) := by
  have got : (get : Action Session).run.run session = (.ok session, session) := rfl
  rw [readSettings, run_bind_of_ok got]
  cases held with
  | present found =>
      simp only [found, read_eq_ok_of_find found]
      rfl
  | absent lost harmless =>
      rcases harmless with rfl | rfl
      · simp only [lost]
        rfl
      · simp only [lost]
        rfl

theorem readSettings_finds (held : HoldsSettings session.files session.host content) :
    Finds readSettings session content :=
  ⟨session, readSettings_run held, .refl session⟩

/-- The preferences are those of the settings file, whatever there is to complain about, as long as
the complaints can be written. -/
theorem loadView_run (held : HoldsSettings session.files session.host content)
    (tells : session.Tells (Preferences.loadView content).complaints) :
    loadView.run.run session =
      (.ok (Preferences.loadView content).value,
        session.complain (Preferences.loadView content).complaints) := by
  rw [loadView, run_bind_of_ok (readSettings_run held), accept_run tells]

theorem loadView_run_of_not_tells (held : HoldsSettings session.files session.host content)
    (silenced : ¬session.Tells (Preferences.loadView content).complaints) :
    loadView.run.run session =
      (.error (.unwritable .tooLong),
        session.complain
          ((Preferences.loadView content).complaints.takeWhile Complaint.isWritable)) := by
  rw [loadView, run_bind_of_ok (readSettings_run held), accept_run_of_not_tells silenced]

/-- The level is that of the settings file, if it can be written. -/
theorem loadLevelEarly_run (held : HoldsSettings session.files session.host content) :
    loadLevelEarly.run.run session =
      ((Preferences.loadLevel content).value.mapError Stop.unwritable,
        session.complain
          ((Preferences.loadLevel content).complaints.filter Complaint.isWritable)) := by
  rw [loadLevelEarly, run_bind_of_ok (readSettings_run held),
    run_bind_of_ok (acceptEarly_run session _)]
  cases (Preferences.loadLevel content).value with
  | error fault => rfl
  | ok level => rfl

end Settings

end CommandLine
end ConceptMap
