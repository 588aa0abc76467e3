import ConceptMap.Text.ControlSequence
import Mathlib.Data.List.Infix

/-!
# Texts that are printed as they are

A control sequence that is removed takes its first character with it, so that a text is printed as
it is exactly when no control sequence starts anywhere in it.
-/

namespace ConceptMap
namespace ControlSequence

/-- No control sequence starts in the text. -/
def Free (text : Text) : Prop := ∀ rest, rest <:+ text → lengthAtHead rest = 0

variable {text : Text}

theorem length_removeFrom_le (hidden : Nat) (text : Text) :
    (removeFrom hidden text).length ≤ text.length := by
  induction text generalizing hidden with
  | nil =>
      cases hidden with
      | zero => exact Nat.le_refl _
      | succ => exact Nat.le_refl _
  | cons character rest ih =>
      cases hidden with
      | succ hidden => exact (ih hidden).trans (Nat.le_succ _)
      | zero =>
          rw [removeFrom]
          split
          next => exact Nat.succ_le_succ (ih 0)
          next length _ => exact (ih length).trans (Nat.le_succ _)

theorem free_cons_iff {character : Char} {rest : Text} :
    Free (character :: rest) ↔ lengthAtHead (character :: rest) = 0 ∧ Free rest := by
  constructor
  · intro free
    exact ⟨free _ (List.suffix_refl _), fun more inside =>
      free more (inside.trans (List.suffix_cons _ _))⟩
  · rintro ⟨head, free⟩ more inside
    rcases List.suffix_cons_iff.1 inside with rfl | later
    · exact head
    · exact free more later

theorem remove_eq_self_iff : remove text = text ↔ Free text := by
  induction text with
  | nil =>
      refine iff_of_true rfl fun rest inside => ?_
      rw [List.suffix_nil.1 inside]
      rfl
  | cons character rest ih =>
      rw [free_cons_iff, ← ih]
      unfold remove
      rw [removeFrom]
      split
      next head => simp [head]
      next length head =>
        have shorter := length_removeFrom_le length rest
        refine iff_of_false (fun same => ?_) (by simp [head])
        rw [same, List.length_cons] at shorter
        omega

theorem free_of_not_mem (plain : '\x1b' ∉ text) : Free text :=
  remove_eq_self_iff.1 (remove_eq_self plain)

end ControlSequence
end ConceptMap
