import ConceptMap.CommandLine.Tables
import Mathlib.Data.List.Basic

/-!
# The order of rows

Rows ascend by distance, and at the same distance by id.  As no two rows have the same id, what is
in the table fixes the order of its rows.
-/

namespace ConceptMap
namespace CommandLine

variable {near middle far : Option Nat}

theorem distanceBefore_trans (start : distanceBefore near middle)
    (rest : distanceBefore middle far) :
    distanceBefore near far := by
  cases near with
  | none => simp [distanceBefore] at start
  | some near =>
      cases middle with
      | none => simp [distanceBefore] at rest
      | some middle =>
          cases far with
          | none => rfl
          | some far =>
              simp only [distanceBefore, decide_eq_true_eq] at start rest ⊢
              omega

theorem distanceBefore_irrefl (distance : Option Nat) :
    distanceBefore distance distance = false := by
  cases distance with
  | none => rfl
  | some distance => simp [distanceBefore]

theorem distanceBefore_trichotomy (near far : Option Nat) :
    distanceBefore near far ∨ near = far ∨ distanceBefore far near := by
  cases near with
  | none =>
      cases far with
      | none => exact .inr (.inl rfl)
      | some far => exact .inr (.inr rfl)
  | some near =>
      cases far with
      | none => exact .inl rfl
      | some far =>
          simp only [distanceBefore, decide_eq_true_eq, Option.some.injEq]
          omega

theorem not_distanceBefore_of_distanceBefore (before : distanceBefore near far) :
    distanceBefore far near = false := by
  rw [Bool.eq_false_iff]
  intro behind
  have loop := distanceBefore_trans before behind
  rw [distanceBefore_irrefl] at loop
  cases loop

variable {first second third : Text × Option Nat}

theorem rowBefore_iff :
    rowBefore first second ↔
      distanceBefore first.2 second.2 ∨ first.2 = second.2 ∧ ¬second.1 < first.1 := by
  rcases distanceBefore_trichotomy first.2 second.2 with before | same | behind
  · simp [rowBefore, before]
  · simp [rowBefore, same, distanceBefore_irrefl]
  · have differ : first.2 ≠ second.2 := by
      intro same
      rw [same, distanceBefore_irrefl] at behind
      cases behind
    simp [rowBefore, behind, not_distanceBefore_of_distanceBefore behind, differ]

theorem rowBefore_trans (start : rowBefore first second) (rest : rowBefore second third) :
    rowBefore first third := by
  rw [rowBefore_iff] at start rest ⊢
  rcases start with before | ⟨same, not_behind⟩
  · rcases rest with before_rest | ⟨same_rest, -⟩
    · exact .inl (distanceBefore_trans before before_rest)
    · exact .inl (same_rest ▸ before)
  · rcases rest with before_rest | ⟨same_rest, not_behind_rest⟩
    · exact .inl (same ▸ before_rest)
    · have ids_le := List.le_trans (List.not_lt.1 not_behind) (List.not_lt.1 not_behind_rest)
      exact .inr ⟨same.trans same_rest, List.not_lt.2 ids_le⟩

theorem rowBefore_total (first second : Text × Option Nat) :
    rowBefore first second ∨ rowBefore second first := by
  simp only [rowBefore_iff]
  rcases distanceBefore_trichotomy first.2 second.2 with before | same | behind
  · exact .inl (.inl before)
  · rcases List.le_total first.1 second.1 with ids_le | ids_ge
    · exact .inl (.inr ⟨same, List.not_lt.2 ids_le⟩)
    · exact .inr (.inr ⟨same.symm, List.not_lt.2 ids_ge⟩)
  · exact .inr (.inl behind)

theorem rowBefore_antisymm (before : rowBefore first second) (behind : rowBefore second first) :
    first = second := by
  rw [rowBefore_iff] at before behind
  rcases before with closer | ⟨same, not_behind⟩
  · have not_closer := not_distanceBefore_of_distanceBefore closer
    rcases behind with further | ⟨same, -⟩
    · simp [not_closer] at further
    · rw [same, distanceBefore_irrefl] at closer
      cases closer
  · rcases behind with further | ⟨-, not_before⟩
    · rw [same, distanceBefore_irrefl] at further
      cases further
    · have ids_eq := List.le_antisymm (List.not_lt.1 not_behind) (List.not_lt.1 not_before)
      exact Prod.ext ids_eq same

/-- The order of rows, on the nodes that they are about. -/
def entryBefore (first second : NodeRef × Option Nat) : Bool :=
  rowBefore (first.1.id, first.2) (second.1.id, second.2)

theorem pairwise_mergeSort_entries (entries : List (NodeRef × Option Nat)) :
    (entries.mergeSort entryBefore).Pairwise fun first second => entryBefore first second := by
  apply List.pairwise_mergeSort
  · intro first second third
    exact rowBefore_trans
  · intro first second
    rw [Bool.or_eq_true]
    exact rowBefore_total _ _

/-- Entries that their ids tell apart come in one order only. -/
theorem mergeSort_entries_eq {entries others : List (NodeRef × Option Nat)}
    (perm : entries.Perm others)
    (apart : ∀ first ∈ entries, ∀ second ∈ entries, first.1.id = second.1.id → first = second) :
    entries.mergeSort entryBefore = others.mergeSort entryBefore := by
  have sorted_perm := (List.mergeSort_perm entries entryBefore).trans
    (perm.trans (List.mergeSort_perm others entryBefore).symm)
  refine List.Perm.eq_of_pairwise ?_ (pairwise_mergeSort_entries entries)
    (pairwise_mergeSort_entries others) sorted_perm
  intro first second first_mem second_mem before behind
  have ids_eq := congrArg Prod.fst (rowBefore_antisymm before behind)
  have second_entry := perm.mem_iff.2 (List.mem_mergeSort.1 second_mem)
  exact apart first (List.mem_mergeSort.1 first_mem) second second_entry ids_eq

end CommandLine
end ConceptMap
