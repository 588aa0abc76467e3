import ConceptMap.Preferences
import ConceptMap.Proofs.Toml.Document

/-!
# Preferences that are loaded

Whatever a settings file holds, preferences are found in it.  Each of them is settled by one field
of the view table alone: a valid value counts, and a value that is not valid is complained about and
counts as little as none.
-/

namespace ConceptMap
namespace Preferences

/-- A field settles what holds.  The valid values are those that stand for something; for want of a
valid value there is something to fall back to, with a complaint if there is some other value. -/
inductive Settles {α : Type} (embed : α → Setting) (fallback : α)
    (complaint : Setting → Complaint) (field : Option Setting) : Reported α → Prop where
  | missing (unset : field = none) : Settles embed fallback complaint field ⟨fallback, []⟩
  | valid {value : α} (found : field = some (embed value)) :
      Settles embed fallback complaint field ⟨value, []⟩
  | invalid {other : Setting} (found : field = some other)
      (foreign : ∀ value, other ≠ embed value) :
      Settles embed fallback complaint field ⟨fallback, [complaint other]⟩

/-- Any table is valid in the place of the view. -/
abbrev SettlesView : Option Setting → Reported Table → Prop :=
  Settles .table [] (.notTable "view")

/-- A natural number is valid as the distance limit. -/
abbrev SettlesLimit : Option Setting → Reported Nat → Prop :=
  Settles (fun limit : Nat => .integer limit) 2 .invalidMaxDistance

/-- A truth value is valid as the direction mode. -/
abbrev SettlesMode : Option Setting → Reported Bool → Prop :=
  Settles .bool true .invalidBidirectional

/-- The document in a settings file, which is empty if there is no file or no document in it. -/
inductive HasDocument : Content → Reported Table → Prop where
  | noFile : HasDocument none ⟨[], []⟩
  | malformed {bytes : List UInt8} {reason : Malformed}
      (unreadable : Preferences.document bytes = .error reason) :
      HasDocument (some bytes) ⟨[], [.malformed reason]⟩
  | document {bytes : List UInt8} {table : Table}
      (read : Preferences.document bytes = .ok table) :
      HasDocument (some bytes) ⟨table, []⟩

/-- The preferences in a settings file, with all complaints about it. -/
inductive Loads (content : Content) : Reported ViewPreferences → Prop where
  | intro {document view : Reported Table} {limit : Reported Nat} {mode : Reported Bool}
      (has : HasDocument content document)
      (view_settled : SettlesView (document.value.get? "view") view)
      (limit_settled : SettlesLimit (view.value.get? "max_distance") limit)
      (mode_settled : SettlesMode (view.value.get? "bidirectional") mode) :
      Loads content ⟨⟨limit.value, mode.value⟩,
        document.complaints ++ view.complaints ++ limit.complaints ++ mode.complaints⟩

section Unique

variable {α : Type} {embed : α → Setting} {fallback : α} {complaint : Setting → Complaint}

theorem Settles.unique (injective : Function.Injective embed) {field : Option Setting}
    {first second : Reported α} (settled : Settles embed fallback complaint field first)
    (settled_too : Settles embed fallback complaint field second) : first = second := by
  cases settled with
  | missing unset =>
      cases settled_too with
      | missing => rfl
      | valid found => simp [unset] at found
      | invalid found => simp [unset] at found
  | valid found =>
      cases settled_too with
      | missing unset => simp [unset] at found
      | valid found_too =>
          obtain rfl := injective (Option.some.inj (found.symm.trans found_too))
          rfl
      | invalid found_too foreign =>
          exact absurd (Option.some.inj (found_too.symm.trans found)) (foreign _)
  | invalid found foreign =>
      cases settled_too with
      | missing unset => simp [unset] at found
      | valid found_too =>
          exact absurd (Option.some.inj (found.symm.trans found_too)) (foreign _)
      | invalid found_too =>
          obtain rfl := Option.some.inj (found.symm.trans found_too)
          rfl

theorem SettlesView.unique {field : Option Setting} {first second : Reported Table}
    (settled : SettlesView field first) (settled_too : SettlesView field second) :
    first = second :=
  Settles.unique (fun _ _ same => Setting.table.inj same) settled settled_too

theorem SettlesLimit.unique {field : Option Setting} {first second : Reported Nat}
    (settled : SettlesLimit field first) (settled_too : SettlesLimit field second) :
    first = second :=
  Settles.unique (fun _ _ same => Int.ofNat.inj (Setting.integer.inj same)) settled settled_too

theorem SettlesMode.unique {field : Option Setting} {first second : Reported Bool}
    (settled : SettlesMode field first) (settled_too : SettlesMode field second) :
    first = second :=
  Settles.unique (fun _ _ same => Setting.bool.inj same) settled settled_too

theorem HasDocument.unique {content : Content} {first second : Reported Table}
    (has : HasDocument content first) (has_too : HasDocument content second) : first = second := by
  cases has with
  | noFile =>
      cases has_too
      rfl
  | malformed unreadable =>
      cases has_too with
      | malformed unreadable_too =>
          obtain rfl := Except.error.inj (unreadable.symm.trans unreadable_too)
          rfl
      | document read => simp [unreadable] at read
  | document read =>
      cases has_too with
      | malformed unreadable => simp [unreadable] at read
      | document read_too =>
          obtain rfl := Except.ok.inj (read.symm.trans read_too)
          rfl

end Unique

/-! ## What is loaded is settled -/

section Loaded

variable {content : Content} {table : Table}

theorem hasDocument_load (content : Content) : HasDocument content (load content) := by
  cases content with
  | none => exact .noFile
  | some bytes =>
      rw [load]
      split
      next read => exact .document read
      next unreadable => exact .malformed unreadable

theorem HasDocument.definite {document : Reported Table} (has : HasDocument content document) :
    document.value.Definite := by
  cases has with
  | noFile | malformed => exact .nil
  | document read =>
      unfold Preferences.document at read
      split at read
      next => simp at read
      split at read
      next => simp at read
      next table_read =>
        obtain rfl := Except.ok.inj read
        exact Toml.definite_read table_read

theorem settles_tableNamed (table : Table) :
    SettlesView (table.get? "view") (tableNamed "view" table) := by
  unfold tableNamed
  split
  next unset => exact .missing unset
  next found => exact .valid found
  next foreign found => exact .invalid found foreign

theorem SettlesView.definite {view : Reported Table}
    (settled : SettlesView (table.get? "view") view) (definite : table.Definite) :
    view.value.Definite := by
  cases settled with
  | missing | invalid => exact .nil
  | valid found => exact (definite.get? found).fields

theorem settles_maxDistanceOf (definite : table.Definite) :
    SettlesLimit (table.get? "max_distance") (maxDistanceOf table) := by
  unfold maxDistanceOf
  dsimp only
  split
  next unset => exact .missing unset
  next found => cases definite.get? found
  next found => exact .valid found
  next foreign found => exact .invalid found fun limit => foreign limit

theorem settles_bidirectionalOf (definite : table.Definite) :
    SettlesMode (table.get? "bidirectional") (bidirectionalOf table) := by
  unfold bidirectionalOf
  dsimp only
  split
  next unset => exact .missing unset
  next found => cases definite.get? found
  next found => exact .valid found
  next foreign found => exact .invalid found foreign

theorem definite_view (content : Content) :
    (tableNamed "view" (load content).value).value.Definite :=
  (settles_tableNamed _).definite (hasDocument_load content).definite

theorem loads_loadView (content : Content) : Loads content (loadView content) := by
  have definite := definite_view content
  have loads := Loads.intro (hasDocument_load content) (settles_tableNamed _)
    (settles_maxDistanceOf definite) (settles_bidirectionalOf definite)
  simpa only [loadView, viewOf, Reported.andThen, List.append_nil, List.append_assoc] using loads

theorem Loads.unique {first second : Reported ViewPreferences} (loads : Loads content first)
    (loads_too : Loads content second) : first = second := by
  obtain ⟨has, view_settled, limit_settled, mode_settled⟩ := loads
  obtain ⟨has_too, view_settled_too, limit_settled_too, mode_settled_too⟩ := loads_too
  obtain rfl := has.unique has_too
  obtain rfl := SettlesView.unique view_settled view_settled_too
  rw [SettlesLimit.unique limit_settled limit_settled_too,
    SettlesMode.unique mode_settled mode_settled_too]

end Loaded

end Preferences
end ConceptMap
