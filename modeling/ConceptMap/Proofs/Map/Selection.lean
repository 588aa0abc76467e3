import ConceptMap.View
import Mathlib.Data.List.Basic

/-!
# Selections

A selection ascends by id and has no id twice, so that what is selected fixes the list.  Selecting
the same concepts in another order, or one of them again, gives the same selection.
-/

namespace ConceptMap

/-- The ids ascend. -/
def AscendsById (nodes : List NodeRef) : Prop :=
  nodes.Pairwise fun first second => first.id < second.id

variable {node other : NodeRef} {nodes : List NodeRef} {id : Text}

theorem mem_map_id_insertById :
    id ∈ (insertById node nodes).map NodeRef.id ↔ id = node.id ∨ id ∈ nodes.map NodeRef.id := by
  induction nodes with
  | nil => simp [insertById]
  | cons first rest ih =>
      rw [insertById]
      split
      next same => simp [← same]
      next =>
        split
        next => simp
        next =>
          rw [List.map_cons, List.mem_cons, ih, List.map_cons, List.mem_cons]
          exact or_left_comm

theorem mem_of_mem_insertById (found : other ∈ insertById node nodes) :
    other = node ∨ other ∈ nodes := by
  induction nodes with
  | nil => exact .inl (List.mem_singleton.1 found)
  | cons first rest ih =>
      rw [insertById] at found
      split at found
      next => exact .inr found
      next =>
        split at found
        next => exact List.mem_cons.1 found
        next =>
          rcases List.mem_cons.1 found with rfl | found
          · exact .inr List.mem_cons_self
          · exact (ih found).imp_right (List.mem_cons_of_mem first)

theorem AscendsById.insertById (ascends : AscendsById nodes) (node : NodeRef) :
    AscendsById (insertById node nodes) := by
  induction nodes with
  | nil => exact List.pairwise_singleton _ _
  | cons first rest ih =>
      obtain ⟨first_least, rest_ascends⟩ := List.pairwise_cons.1 ascends
      rw [ConceptMap.insertById]
      split
      next => exact ascends
      next differ =>
        split
        next before =>
          refine List.pairwise_cons.2 ⟨?_, ascends⟩
          intro later found
          rcases List.mem_cons.1 found with rfl | found
          · exact before
          · exact List.lt_trans before (first_least later found)
        next not_before =>
          have behind : first.id < node.id := by
            by_contra not_behind
            exact differ (List.le_antisymm (List.not_lt.1 not_before) (List.not_lt.1 not_behind))
          refine List.pairwise_cons.2 ⟨?_, ih rest_ascends⟩
          intro later found
          rcases mem_of_mem_insertById found with rfl | found
          · exact behind
          · exact first_least later found

theorem AscendsById.pairwise_id (ascends : AscendsById nodes) :
    (nodes.map NodeRef.id).Pairwise (· < ·) :=
  List.pairwise_map.2 ascends

/-- No id occurs twice in an ascending list. -/
theorem AscendsById.nodup_id (ascends : AscendsById nodes) : (nodes.map NodeRef.id).Nodup := by
  refine ascends.pairwise_id.imp ?_
  rintro first _ before rfl
  exact List.lt_irrefl first before

/-- Ascending lists with the same ids have them in the same order. -/
theorem AscendsById.map_id_eq {others : List NodeRef} (ascends : AscendsById nodes)
    (others_ascend : AscendsById others)
    (same : ∀ id, id ∈ nodes.map NodeRef.id ↔ id ∈ others.map NodeRef.id) :
    nodes.map NodeRef.id = others.map NodeRef.id := by
  have perm := (List.perm_ext_iff_of_nodup ascends.nodup_id others_ascend.nodup_id).2 same
  refine perm.eq_of_pairwise ?_ ascends.pairwise_id others_ascend.pairwise_id
  intro first second _ _ before behind
  exact absurd behind (List.lt_asymm before)

/-! ## Selecting by name -/

/-- The selection after registered concepts are selected one after another. -/
def selectNames (names : List Text) (selected : List NodeRef) : List NodeRef :=
  names.foldl (fun selected name => insertById (.registered name) selected) selected

variable {names : List Text}

theorem mem_map_id_selectNames :
    id ∈ (selectNames names nodes).map NodeRef.id ↔ id ∈ names ∨ id ∈ nodes.map NodeRef.id := by
  induction names generalizing nodes with
  | nil => simp [selectNames]
  | cons name rest ih =>
      have step_eq : selectNames (name :: rest) nodes =
          selectNames rest (insertById (.registered name) nodes) := rfl
      rw [step_eq, ih, mem_map_id_insertById, List.mem_cons, NodeRef.id]
      exact or_left_comm.trans or_assoc.symm

theorem AscendsById.selectNames (ascends : AscendsById nodes) (names : List Text) :
    AscendsById (selectNames names nodes) := by
  induction names generalizing nodes with
  | nil => exact ascends
  | cons name rest ih => exact ih (ascends.insertById (.registered name))

theorem eq_registered_of_mem_selectNames (found : other ∈ selectNames names nodes)
    (registered : ∀ node ∈ nodes, node = .registered node.id) :
    other = .registered other.id := by
  induction names generalizing nodes with
  | nil => exact registered other found
  | cons name rest ih =>
      refine ih found fun node here => ?_
      rcases mem_of_mem_insertById here with rfl | here
      · rfl
      · exact registered node here

theorem map_registered_map_id (registered : ∀ node ∈ nodes, node = .registered node.id) :
    (nodes.map NodeRef.id).map NodeRef.registered = nodes := by
  rw [List.map_map]
  exact (List.map_congr_left fun node found => (registered node found).symm).trans (List.map_id _)

/-- The order of the names does not matter, nor how often one is given. -/
theorem selectNames_congr {others : List Text} (same : ∀ name, name ∈ names ↔ name ∈ others) :
    selectNames names [] = selectNames others [] := by
  have ascends (list : List Text) : AscendsById (selectNames list []) :=
    AscendsById.selectNames List.Pairwise.nil list
  have registered (list : List Text) :
      ((selectNames list []).map NodeRef.id).map NodeRef.registered = selectNames list [] :=
    map_registered_map_id fun node found => eq_registered_of_mem_selectNames found (by simp)
  have ids_eq := (ascends names).map_id_eq (ascends others) fun id => by
    rw [mem_map_id_selectNames, mem_map_id_selectNames, same]
  rw [← registered names, ids_eq, registered others]

end ConceptMap
