import ConceptMap.Setting
import Mathlib.Data.Option.Basic

/-!
# Settings up to the order of fields

A table says the same in whatever order its fields were set.  Two values are the same if they differ
in the order of fields only, at whatever depth.
-/

namespace ConceptMap

/-- The values are the same but for the order of the fields of tables. -/
inductive Setting.Same : Setting → Setting → Prop where
  | refl (value : Setting) : Same value value
  /-- Lists have the same members in the same places. -/
  | list {items others : List Setting} (length_eq : items.length = others.length)
      (members : ∀ (index : Nat) (value other : Setting), items[index]? = some value →
        others[index]? = some other → Same value other) : Same (.list items) (.list others)
  /-- Tables have the same fields. -/
  | table {fields others : Table}
      (names : ∀ name, (fields.get? name).isSome = (others.get? name).isSome)
      (members : ∀ name value other, fields.get? name = some value → others.get? name = some other →
        Same value other) : Same (.table fields) (.table others)

namespace Setting.Same

variable {first second third value : Setting} {fields others : Table}

theorem trans (start : first.Same second) (rest : second.Same third) : first.Same third := by
  induction start generalizing third with
  | refl => exact rest
  | list length_eq members ih =>
      cases rest with
      | refl => exact .list length_eq members
      | list length_eq_rest members_rest =>
          refine .list (length_eq.trans length_eq_rest) fun index value other found found_last => ?_
          have inside := (List.getElem?_eq_some_iff.1 found).1
          exact ih index value _ found (List.getElem?_eq_getElem (length_eq ▸ inside))
            (members_rest index _ other (List.getElem?_eq_getElem (length_eq ▸ inside)) found_last)
  | table names members ih =>
      cases rest with
      | refl => exact .table names members
      | table names_rest members_rest =>
          refine .table (fun name => (names name).trans (names_rest name))
            fun name value other found found_last => ?_
          have between := names name
          rw [found] at between
          obtain ⟨middle, found_middle⟩ := Option.isSome_iff_exists.1 between.symm
          exact ih name value middle found found_middle
            (members_rest name middle other found_middle found_last)

theorem rel_refl (value : Option Setting) : Option.Rel Same value value := by
  cases value with
  | none => exact .none
  | some value => exact .some (.refl value)

/-- The same field has the same value, if there is one. -/
theorem get? (same : (Setting.table fields).Same (.table others)) (name : Text) :
    Option.Rel Same (fields.get? name) (others.get? name) := by
  cases same with
  | refl => exact rel_refl _
  | table names members =>
      have both := names name
      cases found : fields.get? name with
      | none =>
          cases found_too : others.get? name with
          | none => exact .none
          | some other => simp [found, found_too] at both
      | some value =>
          cases found_too : others.get? name with
          | none => simp [found, found_too] at both
          | some other => exact .some (members name value other found found_too)

theorem exists_get? (same : (Setting.table fields).Same (.table others)) {name : Text}
    (found : fields.get? name = some value) :
    ∃ other, others.get? name = some other ∧ value.Same other := by
  have field := same.get? name
  rw [found] at field
  cases found_too : others.get? name with
  | none =>
      rw [found_too] at field
      cases field
  | some other =>
      rw [found_too] at field
      cases field with
      | some same_value => exact ⟨other, rfl, same_value⟩

/-- What is the same, or missing, in two places and then in a third is so in the first and the
third. -/
theorem rel_trans {first second third : Option Setting} (start : Option.Rel Same first second)
    (rest : Option.Rel Same second third) : Option.Rel Same first third := by
  cases start with
  | none => exact rest
  | some same =>
      cases rest with
      | some same_rest => exact .some (same.trans same_rest)

end Setting.Same

/-! ## Values that can be written -/

namespace Setting

variable {fields others : Table} {value : Setting}

/-- Of a table the field that counts for a name can be written, unless the name is passed over. -/
theorem fieldsWritable_iff {names : List Text} :
    fieldsWritable names fields ↔
      ∀ name value, name ∉ names → fields.get? name = some value → value.isWritable := by
  induction fields generalizing names with
  | nil => simp [fieldsWritable, Table.get?]
  | cons field rest ih =>
      obtain ⟨first, head⟩ := field
      rw [fieldsWritable, Bool.and_eq_true, Bool.or_eq_true, List.contains_iff_mem, ih]
      constructor
      · rintro ⟨head_counts, rest_writable⟩ name value fresh found
        by_cases same : name = first
        · subst same
          obtain rfl : head = value := by simpa [Table.get?] using found
          exact head_counts.resolve_left fresh
        · have differs : (name == first) = false := by simpa using same
          refine rest_writable name value (by simp [same, fresh]) ?_
          simpa [Table.get?, List.lookup_cons, differs] using found
      · intro counts
        refine ⟨Decidable.or_iff_not_imp_left.2 fun fresh => ?_, ?_⟩
        · exact counts first head fresh (by simp [Table.get?])
        · intro name value fresh found
          rw [List.mem_cons, not_or] at fresh
          have differs : (name == first) = false := by simpa using fresh.1
          exact counts name value fresh.2
            (by simpa [Table.get?, List.lookup_cons, differs] using found)

theorem isWritable_table_iff :
    (table fields).isWritable ↔ ∀ name value, fields.get? name = some value → value.isWritable := by
  rw [isWritable, fieldsWritable_iff]
  simp

theorem isWritable_of_get? {name : Text} (writable : (table fields).isWritable)
    (found : fields.get? name = some value) : value.isWritable :=
  isWritable_table_iff.1 writable name value found

theorem areWritable_iff {items : List Setting} :
    areWritable items ↔ ∀ value ∈ items, value.isWritable := by
  induction items with
  | nil => simp [areWritable]
  | cons first rest ih => simp [areWritable, ih]

/-- What is the same can be written or cannot, in whatever order of fields. -/
theorem Same.isWritable_iff {first second : Setting} (same : first.Same second) :
    first.isWritable ↔ second.isWritable := by
  induction same with
  | refl => rfl
  | @list items others length_eq members ih =>
      rw [isWritable, isWritable, areWritable_iff, areWritable_iff]
      constructor
      · intro writable value found
        obtain ⟨index, inside, rfl⟩ := List.mem_iff_getElem.1 found
        have inside_too : index < items.length := length_eq ▸ inside
        exact (ih index _ _ (List.getElem?_eq_getElem inside_too)
          (List.getElem?_eq_getElem inside)).1 (writable _ (List.getElem_mem inside_too))
      · intro writable value found
        obtain ⟨index, inside, rfl⟩ := List.mem_iff_getElem.1 found
        have inside_too : index < others.length := length_eq ▸ inside
        exact (ih index _ _ (List.getElem?_eq_getElem inside)
          (List.getElem?_eq_getElem inside_too)).2 (writable _ (List.getElem_mem inside_too))
  | @table fields others names members ih =>
      rw [isWritable_table_iff, isWritable_table_iff]
      constructor
      · intro writable name other found
        obtain ⟨value, found_too⟩ : ∃ value, fields.get? name = some value := by
          rw [← Option.isSome_iff_exists, names, found]
          rfl
        exact (ih name value other found_too found).1 (writable name value found_too)
      · intro writable name value found
        obtain ⟨other, found_too⟩ : ∃ other, others.get? name = some other := by
          rw [← Option.isSome_iff_exists, ← names, found]
          rfl
        exact (ih name value other found found_too).2 (writable name other found_too)

end Setting
end ConceptMap
