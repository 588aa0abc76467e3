import ConceptMap.Preferences
import ConceptMap.Proofs.Setting
import ConceptMap.Proofs.Text.Utf8
import ConceptMap.Proofs.Toml.Printer

/-!
# Preferences that are saved

Saving replaces the view in the settings file and writes the whole document anew.  As long as the
document that is printed is read back, the view that was saved is the view that is loaded, and all
else that the file says is what it said before, even if the file was not fit to be read.
-/

namespace ConceptMap

/-- From the printed document the same document is read, but for the order of its fields. -/
def Toml.ReadsBack (document : Table) : Prop :=
  ∃ table, Toml.read (Toml.print document) = some table ∧
    (Setting.table document).Same (.table table)

/-- What is asked to be saved; what is left out stays as it is. -/
structure ViewChange where
  /-- How far from the active concept nodes are visible. -/
  distance : Option Nat
  /-- Edges are followed in both directions. -/
  bidirectional : Option Bool
deriving DecidableEq, Repr

/-- The preferences after a change. -/
def ViewChange.apply (before : ViewPreferences) (change : ViewChange) : ViewPreferences :=
  { maxDistance := change.distance.getD before.maxDistance
    bidirectional := change.bidirectional.getD before.bidirectional }

/-- Of each preference the last change that is about it counts. -/
theorem ViewChange.foldl_apply (changes : List ViewChange) (before : ViewPreferences) :
    changes.foldl apply before =
      ⟨(changes.filterMap (·.distance)).getLast?.getD before.maxDistance,
        (changes.filterMap (·.bidirectional)).getLast?.getD before.bidirectional⟩ := by
  induction changes generalizing before with
  | nil => rfl
  | cons change rest ih =>
      obtain ⟨distance, bidirectional⟩ := change
      rw [List.foldl_cons, ih]
      cases distance <;> cases bidirectional <;>
        simp [apply, List.getLast?_cons]

/-- No level is called what a list or a table is shown as. -/
theorem Level.ofName?_upper_bracket {bracket : Char} (opens : bracket = '[' ∨ bracket = '{')
    (rest : Text) : ofName? (Text.upper (bracket :: rest)) = none := by
  have upper_eq : Text.upperChar bracket = [bracket] := by
    rcases opens with rfl | rfl
    · decide +kernel
    · decide +kernel
  have head_eq : (Text.upper (bracket :: rest)).head? = some bracket := by
    rw [Text.upper, List.flatMap_cons, upper_eq]
    rfl
  rw [ofName?, List.find?_eq_none]
  intro level _ named
  rw [← of_decide_eq_true named] at head_eq
  rcases opens with rfl | rfl
  · revert head_eq
    cases level <;> decide
  · revert head_eq
    cases level <;> decide

namespace Preferences

variable {document first second table : Table} {preferences : ViewPreferences}

theorem load_print (read : Toml.read (Toml.print document) = some table) :
    load (some (Utf8.encode (Toml.print document))) = ⟨table, []⟩ := by
  rw [load, Preferences.document, Utf8.decode_encode]
  simp only
  rw [Toml.unifyNewlines_print, read]

/-- The view that a document sets is the view that is found in it. -/
theorem viewOf_of_same
    (same : (Setting.table (withView document preferences)).Same (.table table)) :
    viewOf table = ⟨preferences, []⟩ := by
  obtain ⟨view, view_found, view_same⟩ :=
    same.exists_get? (Table.get?_set_self document "view" (.table preferences.toTable))
  have limit_set :
      preferences.toTable.get? "max_distance" = some (.integer preferences.maxDistance) := rfl
  have mode_set :
      preferences.toTable.get? "bidirectional" = some (.bool preferences.bidirectional) := rfl
  obtain ⟨fields, rfl⟩ : ∃ fields, view = .table fields := by
    cases view_same with
    | refl => exact ⟨_, rfl⟩
    | table => exact ⟨_, rfl⟩
  obtain ⟨limit, limit_found, limit_same⟩ := view_same.exists_get? limit_set
  obtain ⟨mode, mode_found, mode_same⟩ := view_same.exists_get? mode_set
  cases limit_same
  cases mode_same
  have view_eq : tableNamed "view" table = ⟨fields, []⟩ := by rw [tableNamed, view_found]
  have limit_eq : maxDistanceOf fields = ⟨preferences.maxDistance, []⟩ := by
    rw [maxDistanceOf, limit_found]
  have mode_eq : bidirectionalOf fields = ⟨preferences.bidirectional, []⟩ := by
    rw [bidirectionalOf, mode_found]
  simp only [viewOf, view_eq, limit_eq, mode_eq, Reported.andThen]
  rfl

/-- In place of the same values there are the same tables. -/
theorem tableNamed_same {name : Text}
    (same : Option.Rel Setting.Same (first.get? name) (second.get? name)) :
    (Setting.table (tableNamed name first).value).Same (.table (tableNamed name second).value) := by
  rw [tableNamed, tableNamed]
  generalize first.get? name = before at same
  generalize second.get? name = after at same
  cases same with
  | none => exact .refl _
  | some same =>
      cases same with
      | refl => exact .refl _
      | list => exact .refl _
      | table names members => exact .table names members

/-- The level that the text of a value names. -/
def levelNamed (text : Text) : Level := (Level.ofName? (Text.upper text)).getD .default

theorem levelOf_value (document : Table) :
    (levelOf document).value =
      match (tableNamed "logging" document).value.get? "level" with
      | none => .ok .default
      | some value => value.write.map levelNamed := by
  simp only [levelOf, Reported.andThen]
  cases (tableNamed "logging" document).value.get? "level" with
  | none => rfl
  | some value =>
      dsimp only
      cases value.write with
      | error fault => rfl
      | ok text =>
          simp only [Except.map, levelNamed]
          cases Level.ofName? (Text.upper text) with
          | none => rfl
          | some level => rfl

/-- Lists and tables name no level, whatever is in them. -/
theorem levelNamed_bracket {bracket : Char} (opens : bracket = '[' ∨ bracket = '{') (rest : Text) :
    levelNamed (bracket :: rest) = .default := by
  rw [levelNamed, Level.ofName?_upper_bracket opens]
  rfl

/-- The same value names the same level, and can be written or cannot. -/
theorem map_levelNamed_write_eq {value other : Setting} (same : value.Same other) :
    other.write.map levelNamed = value.write.map levelNamed := by
  have writable_eq : other.isWritable = value.isWritable :=
    Bool.eq_iff_iff.2 same.isWritable_iff.symm
  rw [Setting.write, Setting.write, writable_eq]
  split
  next =>
    cases same with
    | refl => rfl
    | list =>
        simp only [Except.map, Setting.display, Setting.quoted, levelNamed_bracket (.inl rfl)]
    | table =>
        simp only [Except.map, Setting.display, Setting.quoted, levelNamed_bracket (.inr rfl)]
  next => rfl

/-- The level is that of the same value; a list or a table sets no level, whatever is in it. -/
theorem levelOf_value_eq
    (same : Option.Rel Setting.Same (first.get? "logging") (second.get? "logging")) :
    (levelOf second).value = (levelOf first).value := by
  have field := (tableNamed_same same).get? "level"
  rw [levelOf_value, levelOf_value]
  generalize (tableNamed "logging" first).value.get? "level" = before at field
  generalize (tableNamed "logging" second).value.get? "level" = after at field
  cases field with
  | none => rfl
  | some same_value => exact map_levelNamed_write_eq same_value

/-! ## One change after another -/

variable {content : Content} {change : ViewChange} {changes : List ViewChange}

/-- The document that is written when a change is saved. -/
def documentAfter (content : Content) (change : ViewChange) : Table :=
  withView (load content).value (change.apply (loadView content).value)

/-- The settings file after a change was saved. -/
def contentAfter (content : Content) (change : ViewChange) : Content :=
  some (Utf8.encode (Toml.print (documentAfter content change)))

/-- The documents that are written when changes are saved one after another. -/
def documentsAfter : Content → List ViewChange → List Table
  | _, [] => []
  | content, change :: rest =>
      documentAfter content change :: documentsAfter (contentAfter content change) rest

/-- Apart from the view a settings file says what another one says. -/
structure Keeps (before after : Content) : Prop where
  fields : ∀ name : Text, name ≠ "view" →
    Option.Rel Setting.Same ((load before).value.get? name) ((load after).value.get? name)
  level : (loadLevel after).value = (loadLevel before).value

theorem Keeps.refl (content : Content) : Keeps content content where
  fields _ _ := Setting.Same.rel_refl _
  level := rfl

theorem Keeps.trans {before between after : Content} (start : Keeps before between)
    (rest : Keeps between after) : Keeps before after where
  fields name other := Setting.Same.rel_trans (start.fields name other) (rest.fields name other)
  level := rest.level.trans start.level

/-- Apart from the view the document that was saved is read again as it was. -/
theorem keeps_contentAfter (back : Toml.ReadsBack (documentAfter content change)) :
    Keeps content (contentAfter content change) := by
  obtain ⟨table, read, same⟩ := back
  have loaded := load_print read
  have fields (name : Text) (other : name ≠ "view") :
      Option.Rel Setting.Same ((load content).value.get? name) (table.get? name) := by
    have field := same.get? name
    rwa [documentAfter, withView, Table.get?_set_of_ne _ _ other] at field
  rw [← contentAfter] at loaded
  refine ⟨fun name other => ?_, ?_⟩
  · rw [loaded]
    exact fields name other
  · simp only [loadLevel, Reported.andThen, loaded]
    exact levelOf_value_eq (fields "logging" (by decide))

/-- The view that was saved is loaded, and there is nothing to complain about. -/
theorem loadView_contentAfter (back : Toml.ReadsBack (documentAfter content change)) :
    loadView (contentAfter content change) = ⟨change.apply (loadView content).value, []⟩ := by
  obtain ⟨table, read, same⟩ := back
  rw [loadView, contentAfter, load_print read, Reported.andThen, viewOf_of_same same]
  rfl

/-- Where there was nothing to complain about, change after change leaves it so. -/
theorem loadView_foldl_contentAfter (quiet : (loadView content).complaints = [])
    (back : ∀ document ∈ documentsAfter content changes, Toml.ReadsBack document) :
    loadView (changes.foldl contentAfter content) =
      ⟨changes.foldl ViewChange.apply (loadView content).value, []⟩ := by
  induction changes generalizing content with
  | nil => rw [List.foldl_nil, List.foldl_nil, ← quiet]
  | cons change rest ih =>
      obtain ⟨back_first, back_rest⟩ := List.forall_mem_cons.1 back
      have saved := loadView_contentAfter back_first
      rw [List.foldl_cons, List.foldl_cons, ih (by rw [saved]) back_rest, saved]

theorem keeps_foldl_contentAfter
    (back : ∀ document ∈ documentsAfter content changes, Toml.ReadsBack document) :
    Keeps content (changes.foldl contentAfter content) := by
  induction changes generalizing content with
  | nil => exact .refl content
  | cons change rest ih =>
      obtain ⟨back_first, back_rest⟩ := List.forall_mem_cons.1 back
      exact (keeps_contentAfter back_first).trans (ih back_rest)

/-- Of each preference the last change that is about it holds, or else what held before; there is
nothing to complain about; and apart from the view nothing else has changed. -/
structure Accumulates (before : Content) (changes : List ViewChange) (after : Content) : Prop where
  maxDistance : (loadView after).value.maxDistance =
    (changes.filterMap (·.distance)).getLast?.getD (loadView before).value.maxDistance
  bidirectional : (loadView after).value.bidirectional =
    (changes.filterMap (·.bidirectional)).getLast?.getD (loadView before).value.bidirectional
  quiet : (loadView after).complaints = []
  keeps : Keeps before after

theorem accumulates_foldl_contentAfter (nonempty : changes ≠ [])
    (back : ∀ document ∈ documentsAfter content changes, Toml.ReadsBack document) :
    Accumulates content changes (changes.foldl contentAfter content) := by
  have view_eq : loadView (changes.foldl contentAfter content) =
      ⟨changes.foldl ViewChange.apply (loadView content).value, []⟩ := by
    -- what there was to complain about at first is gone after the first change
    obtain ⟨change, rest, rfl⟩ := List.exists_cons_of_ne_nil nonempty
    obtain ⟨back_first, back_rest⟩ := List.forall_mem_cons.1 back
    have saved := loadView_contentAfter back_first
    rw [List.foldl_cons, List.foldl_cons, loadView_foldl_contentAfter (by rw [saved]) back_rest,
      saved]
  rw [ViewChange.foldl_apply] at view_eq
  exact ⟨by rw [view_eq], by rw [view_eq], by rw [view_eq], keeps_foldl_contentAfter back⟩

end Preferences
end ConceptMap
