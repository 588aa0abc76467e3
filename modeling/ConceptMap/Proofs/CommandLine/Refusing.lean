import ConceptMap.Proofs.CommandLine.Looking

/-!
# Steps that stop

A step that stops before anything was printed or written has left the files and the output as they
were, and its reason has an exit code of its own.  Steps that only look may stand in front of it.
-/

namespace ConceptMap
namespace CommandLine

/-- If an action stops over such files, it has touched neither these nor the output, and the exit
code tells of it. -/
def Refuses {α : Type} (files : FileTree) (action : Action α) : Prop :=
  ∀ session stop after, session.files = files → action.run.run session = (.error stop, after) →
    after.files = files ∧ after.output = session.output ∧ stop.code ≠ 0

section Steps

variable {α β : Type} {files : FileTree} {property : α → Prop}

theorem Refuses.bind {first : Action α} {next : α → Action β} (start : Refuses files first)
    (looks : Looks files first property)
    (rest : ∀ result, property result → Refuses files (next result)) :
    Refuses files (first >>= next) := by
  intro session stop after same_files went
  rcases run_cases first session with ⟨reason, between, stopped⟩ | ⟨middle, between, returned⟩
  · rw [run_bind_of_error stopped] at went
    obtain ⟨reason_eq, rfl⟩ := Prod.mk.inj went
    obtain rfl := Except.error.inj reason_eq
    exact start session reason between same_files stopped
  · rw [run_bind_of_ok returned] at went
    obtain ⟨same, holds⟩ := looks session middle between same_files returned
    obtain ⟨kept, silent, code⟩ :=
      rest middle holds between stop after (same.files.trans same_files) went
    exact ⟨kept, silent.trans same.output, code⟩

/-- What always finds something never stops. -/
theorem refuses_of_finds {action : Action α}
    (found : ∀ session, session.files = files → ∃ result, Finds action session result) :
    Refuses files action := by
  intro session stop after same_files went
  obtain ⟨result, last, found_run, -⟩ := found session same_files
  cases (Prod.mk.inj (went.symm.trans found_run)).1

theorem refuses_pure (result : α) : Refuses files (pure result : Action α) :=
  refuses_of_finds fun session _ => ⟨result, pure_finds session result⟩

theorem refuses_get : Refuses files (get : Action Session) :=
  refuses_of_finds fun session _ => ⟨session, get_finds session⟩

theorem refuses_record (level : Level) (message : Text) : Refuses files (record level message) :=
  refuses_of_finds fun session _ => ⟨(), record_finds session level message⟩

theorem refuses_acceptEarly (reported : Reported α) : Refuses files (acceptEarly reported) :=
  refuses_of_finds fun session _ =>
    ⟨_, _, acceptEarly_run session reported, .of_complain session _⟩

theorem refuses_throw {stop : Stop} (tells : stop.code ≠ 0) :
    Refuses files (throw stop : Action α) := by
  intro session reason after same_files went
  obtain ⟨reason_eq, rfl⟩ := Prod.mk.inj went
  obtain rfl := Except.error.inj reason_eq
  exact ⟨same_files, rfl, tells⟩

theorem refuses_accept (reported : Reported α) : Refuses files (accept reported) := by
  intro session stop after same_files went
  by_cases tells : session.Tells reported.complaints
  · rw [accept_run tells] at went
    cases went
  · obtain ⟨stop_eq, rfl⟩ := Prod.mk.inj ((accept_run_of_not_tells tells).symm.trans went)
    obtain rfl := Except.error.inj stop_eq
    exact ⟨same_files, rfl, by decide⟩

theorem refuses_orUnwritable (written : Except Numeral.WriteFault α) :
    Refuses files (orUnwritable written) := by
  cases written with
  | ok result => exact refuses_pure result
  | error fault => exact refuses_throw (show 1 ≠ 0 by decide)

theorem refuses_reject (line : Text) : Refuses files (reject line : Action α) := by
  intro session reason after same_files went
  obtain ⟨reason_eq, rfl⟩ := Prod.mk.inj went
  obtain rfl := Except.error.inj reason_eq
  exact ⟨same_files, rfl, by decide⟩

theorem refuses_orRefuse (outcome : Except Refusal α) : Refuses files (orRefuse outcome) := by
  cases outcome with
  | ok result => exact refuses_pure result
  | error refusal => exact refuses_throw (show 2 ≠ 0 by decide)

theorem looks_orRefuse (outcome : Except Refusal α) :
    Looks files (orRefuse outcome) fun result => outcome = .ok result := by
  cases outcome with
  | ok result => exact looks_pure rfl
  | error refusal => exact looks_throw _

theorem refuses_orStop (path : Path) (outcome : Except FileFault α) :
    Refuses files (orStop path outcome) := by
  cases outcome with
  | ok result => exact refuses_pure result
  | error fault => exact refuses_throw (show 1 ≠ 0 by decide)

end Steps

section Reading

variable {files : FileTree}

theorem refuses_readText (file : Path) : Refuses files (readText file) := by
  apply refuses_get.bind looks_get
  rintro session -
  split
  next => exact refuses_reject _
  next =>
    split
    next => exact refuses_reject _
    next => exact refuses_pure _

theorem refuses_readDocument (file : Path) : Refuses files (readDocument file) := by
  apply (refuses_readText file).bind (looks_readText file)
  rintro text -
  split
  next => exact (refuses_record _ _).bind (looks_record _ _) fun _ _ => refuses_reject _
  next => exact (refuses_record _ _).bind (looks_record _ _) fun _ _ => refuses_pure _

theorem refuses_readMap (file : Path) : Refuses files (readMap file) := by
  apply (refuses_readDocument file).bind (looks_readDocument file)
  rintro document -
  exact (refuses_record _ _).bind (looks_record _ _) fun _ _ => refuses_pure _

theorem refuses_readSettings : Refuses files readSettings := by
  apply refuses_get.bind looks_get
  rintro session -
  dsimp only
  split
  next => exact refuses_pure _
  next => exact refuses_pure _
  next => exact (refuses_orStop _ _).bind (looks_orStop _ _) fun _ _ => refuses_pure _

theorem refuses_setLevel (verbose : Bool) : Refuses files (setLevel verbose) := by
  have refuses_put (level : Level) :
      Refuses files (modify fun session => { session with level }) :=
    fun _ _ _ _ went => nomatch went
  have looks_debug : Looks files (pure Level.debug) fun _ => True := looks_pure trivial
  have refuses_level : Refuses files loadLevelEarly :=
    refuses_readSettings.bind looks_readSettings fun _ _ =>
      (refuses_acceptEarly _).bind (looks_acceptEarly _) fun _ _ => refuses_orUnwritable _
  have looks_level : Looks files loadLevelEarly fun _ => True :=
    looks_readSettings.bind fun _ _ => (looks_acceptEarly _).bind fun _ _ => looks_orUnwritable _
  cases verbose with
  | true => exact (refuses_pure Level.debug).bind looks_debug fun level _ => refuses_put level
  | false => exact refuses_level.bind looks_level fun level _ => refuses_put level

theorem refuses_applyRequest (map : Map) (request : ViewRequest) :
    Refuses files (applyRequest map request) := by
  have refuses_loadView : Refuses files loadView :=
    refuses_readSettings.bind looks_readSettings fun _ _ => refuses_accept _
  apply refuses_loadView.bind looks_loadView
  rintro preferences -
  split
  next => exact refuses_pure _
  next => exact refuses_throw (show 2 ≠ 0 by decide)

end Reading
end CommandLine
end ConceptMap
