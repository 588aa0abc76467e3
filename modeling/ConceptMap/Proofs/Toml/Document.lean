import ConceptMap.Toml.Document

/-!
# What documents hold

Every value that is read from a document is there: neither it nor anything in it is absent.  Each
step of reading puts definite values where definite values were, and the document begins empty.
-/

namespace ConceptMap

/-- The value is there, and so is everything in it. -/
inductive Setting.Definite : Setting → Prop where
  | bool (value : Bool) : Definite (.bool value)
  | integer (value : Int) : Definite (.integer value)
  | number (value : Binary64) : Definite (.number value)
  | text (value : Text) : Definite (.text value)
  | moment (value : Moment) : Definite (.moment value)
  | list {items : List Setting} (members : ∀ item ∈ items, Definite item) : Definite (.list items)
  | table {fields : Table} (members : ∀ field ∈ fields, Definite field.2) :
      Definite (.table fields)

/-- All values of the table are there. -/
def Table.Definite (table : Table) : Prop := ∀ field ∈ table, field.2.Definite

namespace Table.Definite

variable {table : Table} {name : Text} {value : Setting}

theorem nil : Table.Definite [] := List.forall_mem_nil _

theorem get? (definite : table.Definite) (found : table.get? name = some value) :
    value.Definite := by
  induction table with
  | nil => simp [Table.get?] at found
  | cons field rest ih =>
      obtain ⟨first, others⟩ := List.forall_mem_cons.1 definite
      rw [Table.get?, List.lookup_cons] at found
      split at found
      next => exact Option.some.inj found ▸ first
      next => exact ih others found

theorem set (definite : table.Definite) (name : Text) (value_definite : value.Definite) :
    (table.set name value).Definite := by
  induction table with
  | nil => simpa [Table.set, Table.Definite] using value_definite
  | cons field rest ih =>
      obtain ⟨first, others⟩ := List.forall_mem_cons.1 definite
      rw [Table.set]
      split
      next => exact List.forall_mem_cons.2 ⟨value_definite, others⟩
      next => exact List.forall_mem_cons.2 ⟨first, ih others⟩

end Table.Definite

namespace Setting.Definite

variable {members : List Setting} {inner : Table}

theorem fields (definite : (Setting.table inner).Definite) : inner.Definite := by
  cases definite with
  | table members => exact members

theorem items (definite : (Setting.list members).Definite) :
    ∀ item ∈ members, item.Definite := by
  cases definite with
  | list members => exact members

/-- The last table of a list is definite, and any other definite table can take its place. -/
theorem last (definite : (Setting.list members).Definite)
    (found : members.getLast? = some (.table inner)) :
    inner.Definite ∧ ∀ {other : Table}, other.Definite →
      (Setting.list (members.dropLast ++ [.table other])).Definite := by
  refine ⟨(definite.items _ (List.mem_of_getLast? found)).fields, fun other_definite => .list ?_⟩
  simp only [List.forall_mem_append, List.forall_mem_singleton]
  exact ⟨fun item kept => definite.items item (List.dropLast_subset members kept),
    .table other_definite⟩

end Setting.Definite

/-- A property that every step keeps holds in the end. -/
theorem foldlM_keeps {α β : Type} {step : β → α → Option β} {property : β → Prop} {list : List α}
    (keeps : ∀ state member after, property state → step state member = some after →
      property after)
    {start last : β} (holds : property start) (folded : list.foldlM step start = some last) :
    property last := by
  induction list generalizing start with
  | nil => exact Option.some.inj folded ▸ holds
  | cons first rest ih =>
      obtain ⟨middle, stepped, later⟩ := Option.bind_eq_some_iff.1 folded
      exact ih (keeps start first middle holds stepped) later

/-- Every result comes from a member. -/
theorem exists_mem_of_mapM {α β : Type} {make : α → Option β} {list : List α} {results : List β}
    (made : list.mapM make = some results) {result : β} (found : result ∈ results) :
    ∃ member ∈ list, make member = some result := by
  induction list generalizing results with
  | nil =>
      obtain rfl := Option.some.inj made
      simp at found
  | cons first rest ih =>
      rw [List.mapM_cons] at made
      obtain ⟨head, head_made, made⟩ := Option.bind_eq_some_iff.1 made
      obtain ⟨tail, tail_made, made⟩ := Option.bind_eq_some_iff.1 made
      obtain rfl := Option.some.inj made
      rcases List.mem_cons.1 found with rfl | later
      · exact ⟨first, List.mem_cons_self, head_made⟩
      · obtain ⟨member, inside, member_made⟩ := ih tail_made later
        exact ⟨member, List.mem_cons_of_mem _ inside, member_made⟩

namespace Toml

variable {table after : Table} {value : Setting} {text : Text}

/-! ## Values -/

theorem definite_plain (read : plain? text = some value) : value.Definite := by
  unfold plain? at read
  split at read
  next => exact Option.some.inj read ▸ .bool true
  next =>
    split at read
    next => exact Option.some.inj read ▸ .bool false
    next =>
      split at read
      next whole _ => exact Option.some.inj read ▸ .integer whole
      next =>
        obtain ⟨number, _, rfl⟩ := Option.map_eq_some_iff.1 read
        exact .number number

theorem definite_uniform {items : List Setting} (definite : ∀ item ∈ items, item.Definite)
    (made : uniform? items = some value) : value.Definite := by
  unfold uniform? at made
  split at made
  next => exact Option.some.inj made ▸ .list definite
  next =>
    split at made
    next => exact Option.some.inj made ▸ .list definite
    next => simp at made

/-- A new field is set in the table, or in a table inside it. -/
theorem definite_define (value_definite : value.Definite) {names : List Text}
    (definite : table.Definite) (defined : define value names table = some after) :
    after.Definite := by
  fun_induction define value names table generalizing after with
  | case1 => simp at defined
  | case2 => simp at defined
  | case3 => exact Option.some.inj defined ▸ definite.set _ value_definite
  | case4 name second rest table unset ih =>
      obtain ⟨inner, made, rfl⟩ := Option.map_eq_some_iff.1 defined
      exact definite.set name (.table (ih .nil made))
  | case5 name second rest table inner found ih =>
      obtain ⟨changed, made, rfl⟩ := Option.map_eq_some_iff.1 defined
      exact definite.set name (.table (ih (definite.get? found).fields made))
  | case6 => simp at defined

theorem definite_addField {readValue : Text → Option Setting}
    (reads : ∀ text value, readValue text = some value → value.Definite) {field : Text}
    (definite : table.Definite) (added : addField readValue table field = some after) :
    after.Definite := by
  obtain ⟨texts, _, added⟩ := Option.bind_eq_some_iff.1 added
  obtain ⟨value, read, added⟩ := Option.bind_eq_some_iff.1 added
  dsimp only at added
  split at added
  next => simp at added
  next =>
    obtain ⟨names, _, defined⟩ := Option.bind_eq_some_iff.1 added
    exact definite_define (reads _ _ read) definite defined

theorem definite_readValue {levels : Nat} (read : readValue levels text = some value) :
    value.Definite := by
  induction levels generalizing text value with
  | zero => simp [readValue] at read
  | succ levels ih =>
      unfold readValue at read
      split at read
      next => simp at read
      next =>
        obtain ⟨members, _, read⟩ := Option.bind_eq_some_iff.1 read
        obtain ⟨items, made, read⟩ := Option.bind_eq_some_iff.1 read
        refine definite_uniform (fun item found => ?_) read
        obtain ⟨_, _, item_read⟩ := exists_mem_of_mapM made found
        exact ih item_read
      next =>
        split at read
        next => simp at read
        next =>
          obtain ⟨fields, _, read⟩ := Option.bind_eq_some_iff.1 read
          obtain ⟨inner, folded, read⟩ := Option.bind_eq_some_iff.1 read
          obtain rfl := Option.some.inj read
          exact .table (foldlM_keeps (fun _ _ _ => definite_addField fun _ _ => ih) .nil folded)
      next =>
        obtain ⟨quoted, _, rfl⟩ := Option.map_eq_some_iff.1 read
        exact .text quoted
      next =>
        obtain ⟨quoted, _, rfl⟩ := Option.map_eq_some_iff.1 read
        exact .text quoted
      next =>
        split at read
        next => exact Option.some.inj read ▸ .moment _
        next => exact definite_plain read

/-! ## Headers -/

/-- What a header opens is an empty table, or one that was there before. -/
theorem definite_openTable {ofList inMember : Bool} {names implied changed : List Text}
    (definite : table.Definite)
    (opened : openTable ofList inMember names implied table = some (changed, after)) :
    after.Definite := by
  fun_induction openTable ofList inMember names implied table generalizing changed after with
  | case1 | case4 | case7 | case11 | case12 => simp at opened
  | case2 =>
      obtain ⟨_, rfl⟩ := Prod.mk.inj (Option.some.inj opened)
      refine definite.set _ ?_
      split
      next => exact .list (List.forall_mem_singleton.2 (.table Table.Definite.nil))
      next => exact .table Table.Definite.nil
  | case3 | case5 =>
      obtain ⟨_, rfl⟩ := Prod.mk.inj (Option.some.inj opened)
      exact definite
  | case6 inMember name implied table _ _ items _ found =>
      obtain ⟨_, rfl⟩ := Prod.mk.inj (Option.some.inj opened)
      refine definite.set _ (.list ?_)
      rw [List.forall_mem_append, List.forall_mem_singleton]
      exact ⟨(definite.get? found).items, .table Table.Definite.nil⟩
  | case8 =>
      rename_i name _ _ _ _ _ _ ih
      obtain ⟨⟨_, inner⟩, inner_opened, made⟩ := Option.map_eq_some_iff.1 opened
      obtain ⟨_, rfl⟩ := Prod.mk.inj made
      exact definite.set name (.table (ih .nil inner_opened))
  | case9 inMember name second rest implied table inner found ih =>
      obtain ⟨⟨_, changed_inner⟩, inner_opened, made⟩ := Option.map_eq_some_iff.1 opened
      obtain ⟨_, rfl⟩ := Prod.mk.inj made
      exact definite.set name (.table (ih (definite.get? found).fields inner_opened))
  | case10 inMember name second rest implied table items found inner last ih =>
      obtain ⟨⟨_, changed_inner⟩, inner_opened, made⟩ := Option.map_eq_some_iff.1 opened
      obtain ⟨_, rfl⟩ := Prod.mk.inj made
      obtain ⟨inner_definite, replace⟩ := (definite.get? found).last last
      exact definite.set name (replace (ih inner_definite inner_opened))

/-- A change that keeps tables definite may be made at any depth. -/
theorem definite_within {change : Table → Option Table}
    (changes : ∀ before after, before.Definite → change before = some after → after.Definite)
    {ofList : Bool} {names : List Text} (definite : table.Definite)
    (changed : within change ofList names table = some after) : after.Definite := by
  fun_induction within change ofList names table generalizing after with
  | case1 => exact changes _ _ definite changed
  | case2 | case4 | case6 | case7 => simp at changed
  | case3 name rest table inner found _ ih =>
      obtain ⟨changed_inner, inner_changed, rfl⟩ := Option.map_eq_some_iff.1 changed
      exact definite.set name (.table (ih (definite.get? found).fields inner_changed))
  | case5 name rest table items found _ inner last ih =>
      obtain ⟨changed_inner, inner_changed, rfl⟩ := Option.map_eq_some_iff.1 changed
      obtain ⟨inner_definite, replace⟩ := (definite.get? found).last last
      exact definite.set name (replace (ih inner_definite inner_changed))

theorem definite_readLine {progress next : Progress} {line : Text}
    (definite : progress.table.Definite) (read : progress.readLine line = some next) :
    next.table.Definite := by
  unfold Progress.readLine at read
  split at read
  next => exact Option.some.inj read ▸ definite
  next =>
    obtain ⟨header, _, read⟩ := Option.bind_eq_some_iff.1 read
    obtain ⟨⟨implied, opened⟩, made, read⟩ := Option.bind_eq_some_iff.1 read
    obtain rfl := Option.some.inj read
    exact definite_openTable definite made
  next =>
    obtain ⟨changed, made, rfl⟩ := Option.map_eq_some_iff.1 read
    exact definite_within
      (fun _ _ before added => definite_addField (fun _ _ => definite_readValue) before added)
      definite made

/-- A document that is read holds definite values only. -/
theorem definite_read (read : Toml.read text = some table) : table.Definite := by
  obtain ⟨lines, _, read⟩ := Option.bind_eq_some_iff.1 read
  obtain ⟨progress, folded, read⟩ := Option.bind_eq_some_iff.1 read
  obtain rfl := Option.some.inj read
  have keeps (progress : Progress) (line : Text) (next : Progress) :
      progress.table.Definite → progress.readLine line = some next → next.table.Definite :=
    definite_readLine
  exact foldlM_keeps keeps .nil folded

end Toml
end ConceptMap
