import ConceptMap.Proofs.Preferences.Loaded
import ConceptMap.Proofs.Setting
import ConceptMap.Proofs.Text.Utf8

/-!
# Settings that can be told

An integer with too many digits cannot be written, and so can nothing that it is a part of.  A run
that looks at a map has to tell the name of the level that the settings set, and its warnings about
the view.  It goes on only if it can, which it always can if no integer in the settings is too long.
-/

namespace ConceptMap

theorem Setting.write_eq_ok {value : Setting} (writable : value.isWritable) :
    value.write = .ok value.display :=
  if_pos writable

namespace Preferences

variable {content : Content} {verbose : Bool}

/-- The level at which a run starts, if it can be told: all is logged if that is asked for, and
otherwise what the settings say. -/
def startLevel (content : Content) (verbose : Bool) : Except Numeral.WriteFault Level :=
  if verbose then .ok .debug else (loadLevel content).value

/-- A run can tell of its settings: the level at which it starts, and at this level its warnings
about the view. -/
def canTell (content : Content) (verbose : Bool) : Bool :=
  match startLevel content verbose with
  | .error _ => false
  | .ok level =>
      Level.warning.rank < level.rank || (loadView content).complaints.all Complaint.isWritable

theorem canTell_eq_false_of_error {fault : Numeral.WriteFault}
    (silenced : startLevel content verbose = .error fault) : canTell content verbose = false := by
  rw [canTell, silenced]

/-- At a louder level the settings count less, and not at all if everything is logged. -/
theorem exists_startLevel_of_louder {level : Level} {loud : Bool} (louder : verbose → loud)
    (started : startLevel content verbose = .ok level) :
    ∃ other, startLevel content loud = .ok other := by
  cases loud with
  | true => exact ⟨.debug, rfl⟩
  | false =>
      have quiet : verbose = false := Bool.eq_false_iff.2 fun loud => nomatch louder loud
      exact ⟨level, quiet ▸ started⟩

/-- The settings can be told at a level if warnings are not logged, or if all of them can be
written. -/
theorem canTell_iff {level : Level} (started : startLevel content verbose = .ok level) :
    canTell content verbose ↔ (level.rank ≤ Level.warning.rank →
      ∀ complaint ∈ (loadView content).complaints, complaint.isWritable) := by
  rw [canTell, started]
  simp only [Bool.or_eq_true, decide_eq_true_eq, List.all_eq_true, ← Nat.not_le]
  exact Decidable.imp_iff_not_or.symm

/-! ## Settings with short integers -/

/-- A complaint that shows a value can be written if the value can. -/
theorem Settles.isWritable {α : Type} {embed : α → Setting} {fallback : α}
    {complaint : Setting → Complaint} {field : Option Setting} {reported : Reported α}
    (settled : Settles embed fallback complaint field reported)
    (shows_value : ∀ value, (complaint value).value? = some value)
    (writable : ∀ value ∈ field, value.isWritable) :
    ∀ complaint ∈ reported.complaints, complaint.isWritable := by
  cases settled with
  | missing | valid => exact List.forall_mem_nil _
  | invalid found =>
      rw [List.forall_mem_singleton, Complaint.isWritable, shows_value]
      exact writable _ found

theorem HasDocument.isWritable {reported : Reported Table} (has : HasDocument content reported) :
    ∀ complaint ∈ reported.complaints, complaint.isWritable := by
  cases has with
  | noFile | document => exact List.forall_mem_nil _
  | malformed => exact List.forall_mem_singleton.2 rfl

variable {document : Table}

theorem tableNamed_isWritable (writable : (Setting.table document).isWritable) (name : Text) :
    (Setting.table (tableNamed name document).value).isWritable := by
  unfold tableNamed
  split
  next => rfl
  next fields found => exact Setting.isWritable_of_get? writable found
  next => rfl

theorem exists_levelOf_eq_ok (writable : (Setting.table document).isWritable) :
    ∃ level, (levelOf document).value = .ok level := by
  have logging_writable := tableNamed_isWritable writable "logging"
  simp only [levelOf, Reported.andThen]
  split
  next => exact ⟨_, rfl⟩
  next value found =>
    rw [Setting.write_eq_ok (Setting.isWritable_of_get? logging_writable found)]
    dsimp only
    split
    next => exact ⟨_, rfl⟩
    next => exact ⟨_, rfl⟩

theorem Loads.isWritable {reported : Reported ViewPreferences} (loads : Loads content reported)
    (writable : (Setting.table (load content).value).isWritable) :
    ∀ complaint ∈ reported.complaints, complaint.isWritable := by
  obtain ⟨has, view_settled, limit_settled, mode_settled⟩ := loads
  obtain rfl := has.unique (hasDocument_load content)
  obtain rfl := view_settled.unique (settles_tableNamed _)
  have view_writable := tableNamed_isWritable writable "view"
  simp only [List.forall_mem_append, and_assoc]
  refine ⟨has.isWritable, view_settled.isWritable (fun _ => rfl) ?_,
    limit_settled.isWritable (fun _ => rfl) ?_, mode_settled.isWritable (fun _ => rfl) ?_⟩
  · exact fun value found => Setting.isWritable_of_get? writable found
  · exact fun value found => Setting.isWritable_of_get? view_writable found
  · exact fun value found => Setting.isWritable_of_get? view_writable found

/-- Settings without integers that are too long can be told. -/
theorem canTell_of_isWritable (writable : (Setting.table (load content).value).isWritable)
    (verbose : Bool) : canTell content verbose := by
  obtain ⟨level, started⟩ : ∃ level, startLevel content verbose = .ok level := by
    cases verbose with
    | true => exact ⟨.debug, rfl⟩
    | false => exact exists_levelOf_eq_ok writable
  exact (canTell_iff started).2 fun _ => (loads_loadView content).isWritable writable

end Preferences
end ConceptMap
