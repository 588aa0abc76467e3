import ConceptMap.Proofs.CommandLine.Commands
import ConceptMap.Proofs.Map.SetOrder

/-!
# Looking, with or without success

A step that only looks may stop, for want of a file or because of what is in it.  If it goes
through, it has left no trace but in the log, and its result is of a certain kind.  Two ways to go
on need to be the same for results of that kind only.
-/

namespace ConceptMap
namespace CommandLine

/-- If an action returns over such files, it has left no trace but in the log, and what it returns
has a property. -/
def Looks {α : Type} (files : FileTree) (action : Action α) (property : α → Prop) : Prop :=
  ∀ session result after, session.files = files →
    action.run.run session = (.ok result, after) → session.SameWork after ∧ property result

section Steps

variable {α β : Type} {files : FileTree} {session after : Session} {property : α → Prop}

theorem run_bind_congr {first second : Action α}
    (same : first.run.run session = second.run.run session) (next : α → Action β) :
    (first >>= next).run.run session = (second >>= next).run.run session := by
  rw [ExceptT.run_bind, StateT.run_bind, same, ExceptT.run_bind, StateT.run_bind]

/-- An action stops or returns. -/
theorem run_cases (action : Action α) (session : Session) :
    (∃ stop after, action.run.run session = (.error stop, after)) ∨
      ∃ result after, action.run.run session = (.ok result, after) := by
  cases went : action.run.run session with
  | mk outcome after =>
      cases outcome with
      | error stop => exact .inl ⟨stop, after, rfl⟩
      | ok result => exact .inr ⟨result, after, rfl⟩

theorem looks_of_finds {action : Action α}
    (found : ∀ session, session.files = files →
      ∃ result, property result ∧ Finds action session result) :
    Looks files action property := by
  intro session result after same_files went
  obtain ⟨other, holds, last, found_run, same⟩ := found session same_files
  obtain ⟨result_eq, rfl⟩ := Prod.mk.inj (went.symm.trans found_run)
  obtain rfl := Except.ok.inj result_eq
  exact ⟨same.toSameWork, holds⟩

theorem Looks.imp {action : Action α} {other : α → Prop} (looks : Looks files action property)
    (weaker : ∀ result, property result → other result) : Looks files action other := by
  intro session result after same_files went
  obtain ⟨same, holds⟩ := looks session result after same_files went
  exact ⟨same, weaker result holds⟩

theorem looks_pure {result : α} (holds : property result) :
    Looks files (pure result : Action α) property :=
  looks_of_finds fun session _ => ⟨result, holds, pure_finds session result⟩

theorem looks_throw (stop : Stop) : Looks files (throw stop : Action α) property :=
  fun _ _ _ _ went => nomatch went

theorem looks_reject (line : Text) : Looks files (reject line : Action α) property :=
  fun _ _ _ _ went => nomatch went

theorem looks_get : Looks files (get : Action Session) fun session => session.files = files :=
  looks_of_finds fun session same_files => ⟨session, same_files, get_finds session⟩

theorem looks_record (level : Level) (message : Text) :
    Looks files (record level message) fun _ => True :=
  looks_of_finds fun session _ => ⟨(), trivial, record_finds session level message⟩

theorem looks_accept (reported : Reported α) : Looks files (accept reported) fun _ => True := by
  intro session result after _ went
  by_cases tells : session.Tells reported.complaints
  · obtain ⟨-, rfl⟩ := Prod.mk.inj ((accept_run tells).symm.trans went)
    exact ⟨(Session.OnlyLogged.of_complain session _).toSameWork, trivial⟩
  · rw [accept_run_of_not_tells tells] at went
    cases went

theorem looks_acceptEarly (reported : Reported α) :
    Looks files (acceptEarly reported) fun _ => True :=
  looks_of_finds fun session _ =>
    ⟨_, trivial, _, acceptEarly_run session reported, .of_complain session _⟩

theorem looks_orUnwritable (written : Except Numeral.WriteFault α) :
    Looks files (orUnwritable written) fun _ => True := by
  cases written with
  | error fault => exact looks_throw _
  | ok result => exact looks_pure trivial

theorem Looks.bind {first : Action α} {next : α → Action β} {outcome : β → Prop}
    (start : Looks files first property)
    (rest : ∀ result, property result → Looks files (next result) outcome) :
    Looks files (first >>= next) outcome := by
  intro session result after same_files went
  rcases run_cases first session with ⟨stop, between, stopped⟩ | ⟨middle, between, returned⟩
  · rw [run_bind_of_error stopped] at went
    cases went
  · rw [run_bind_of_ok returned] at went
    obtain ⟨same, holds⟩ := start session middle between same_files returned
    obtain ⟨same_rest, outcome_holds⟩ :=
      rest middle holds between result after (same.files.trans same_files) went
    exact ⟨same.trans same_rest, outcome_holds⟩

/-- It does not matter how an action goes on for results that do not occur. -/
theorem Looks.run_bind_congr {first : Action α} {next other : α → Action β}
    (start : Looks files first property) (same_files : session.files = files)
    (rest : ∀ result, property result → ∀ between, between.files = files →
      (next result).run.run between = (other result).run.run between) :
    (first >>= next).run.run session = (first >>= other).run.run session := by
  rcases run_cases first session with ⟨stop, between, stopped⟩ | ⟨middle, between, returned⟩
  · rw [run_bind_of_error stopped, run_bind_of_error stopped]
  · obtain ⟨same, holds⟩ := start session middle between same_files returned
    rw [run_bind_of_ok returned, run_bind_of_ok returned]
    exact rest middle holds between (same.files.trans same_files)

end Steps

section Reading

variable {files : FileTree}

theorem looks_readText (file : Path) :
    Looks files (readText file) fun text => ∃ bytes spelled, files.read file = .ok bytes ∧
      Utf8.decode bytes = .ok spelled ∧ text = Text.unifyNewlines spelled := by
  apply looks_get.bind
  rintro session rfl
  split
  next => exact looks_reject _
  next bytes read =>
    split
    next => exact looks_reject _
    next text decoded => exact looks_pure ⟨bytes, text, read, decoded, rfl⟩

theorem looks_readDocument (file : Path) :
    Looks files (readDocument file) (HoldsDocument files file) := by
  apply (looks_readText file).bind
  rintro _ ⟨bytes, text, read, decoded, rfl⟩
  split
  next => exact (looks_record _ _).bind fun _ _ => looks_reject _
  next document parsed =>
    exact (looks_record _ _).bind fun _ _ => looks_pure ⟨bytes, text, read, decoded, parsed⟩

/-- A map that is read is the map of the document in the file. -/
theorem looks_readMap (file : Path) :
    Looks files (readMap file) fun map => ∃ document, HoldsDocument files file document ∧
      map = .ofDeclarations file.stem document.declarations := by
  apply (looks_readDocument file).bind
  intro document held
  exact (looks_record _ _).bind fun _ _ => looks_pure ⟨document, held, rfl⟩

theorem looks_orStop {α : Type} (path : Path) (outcome : Except FileFault α) :
    Looks files (orStop path outcome) fun _ => True := by
  cases outcome with
  | error fault => exact looks_throw _
  | ok result => exact looks_pure trivial

theorem looks_readSettings : Looks files readSettings fun _ => True := by
  apply looks_get.bind
  intro session _
  dsimp only
  split
  next => exact looks_pure trivial
  next => exact looks_pure trivial
  next => exact (looks_orStop _ _).bind fun _ _ => looks_pure trivial

theorem looks_loadView : Looks files loadView fun _ => True :=
  looks_readSettings.bind fun _ _ => looks_accept _

theorem looks_setLevel (verbose : Bool) : Looks files (setLevel verbose) fun _ => True := by
  have looks_put (level : Level) :
      Looks files (modify fun session => { session with level }) fun _ => True := by
    intro session result after _ went
    obtain ⟨-, rfl⟩ := Prod.mk.inj went
    exact ⟨⟨rfl, rfl, rfl, rfl⟩, trivial⟩
  have looks_debug : Looks files (pure Level.debug) fun _ => True := looks_pure trivial
  have looks_level : Looks files loadLevelEarly fun _ => True :=
    looks_readSettings.bind fun _ _ => (looks_acceptEarly _).bind fun _ _ => looks_orUnwritable _
  cases verbose with
  | true => exact looks_debug.bind fun level _ => looks_put level
  | false => exact looks_level.bind fun level _ => looks_put level

/-- A map that is looked at as was asked for is as it was but for its view. -/
theorem looks_applyRequest (map : Map) (request : ViewRequest) :
    Looks files (applyRequest map request) fun viewed =>
      ∃ preferences, viewed = map.withView (request.change preferences) := by
  apply looks_loadView.bind
  intro preferences _
  split
  next granted => exact looks_pure ⟨preferences, (Map.request_eq_ok_iff.1 granted).2⟩
  next => exact looks_throw _

end Reading
end CommandLine
end ConceptMap
