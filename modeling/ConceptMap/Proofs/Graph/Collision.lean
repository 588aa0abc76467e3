import ConceptMap.Proofs.Graph.Store
import ConceptMap.Proofs.Predicate.Key
import Mathlib.Data.Set.Operations

/-!
# Relationships with the same id

The id of an edge is the key of the predicate that it states, and an edge that is registered takes
the place of any other one with its id.  Well-formed predicates share a key only when a dash moves
from the end of the source to the start of the relationship.  A second dash cannot move, since there
would be two of them side by side; so no key belongs to three predicates, and none to two whose
sources do not end with a dash.
-/

namespace ConceptMap
namespace Predicate

variable {first second third : Predicate}

theorem Shifts.dash_suffix (shifts : Shifts first second) : ['-'] <:+ first.source := by
  cases shifts
  exact List.suffix_append _ _

theorem Shifts.right_unique (left : Shifts first second) (right : Shifts first third) :
    second = third := by
  obtain ⟨source, relationship, target⟩ := left
  obtain ⟨otherSource, otherRelationship, otherTarget⟩ := third
  obtain ⟨source_eq, relationship_eq, target_eq⟩ := shifts_iff.1 right
  obtain rfl : source = otherSource := List.append_cancel_right source_eq
  obtain rfl : otherRelationship = '-' :: relationship := relationship_eq
  obtain rfl : target = otherTarget := target_eq
  rfl

theorem Shifts.left_unique (left : Shifts first third) (right : Shifts second third) :
    first = second := by
  obtain ⟨source, relationship, target⟩ := left
  obtain ⟨otherSource, otherRelationship, otherTarget⟩ := second
  obtain ⟨source_eq, relationship_eq, target_eq⟩ := shifts_iff.1 right
  obtain rfl : otherSource = source ++ ['-'] := source_eq
  obtain rfl : relationship = otherRelationship := List.tail_eq_of_cons_eq relationship_eq
  obtain rfl : otherTarget = target := target_eq
  rfl

/-- No second dash can move: the source would contain `--`. -/
theorem WellFormed.not_shifts_of_shifts (first_formed : first.WellFormed)
    (shifts : Shifts first second) : ¬ Shifts second third := by
  intro again
  have source_eq : first.source = third.source ++ dashes := by
    rw [(shifts_iff.1 shifts).1, (shifts_iff.1 again).1]
    simp [dashes]
  exact first_formed.source.tokenFree.1 (source_eq ▸ (List.suffix_append _ _).isInfix)

/-- Among three well-formed predicates with the same key there are two equal ones. -/
theorem eq_of_key_eq_of_key_eq (first_formed : first.WellFormed)
    (second_formed : second.WellFormed) (third_formed : third.WellFormed)
    (same : first.key = second.key) (same_again : second.key = third.key) :
    first = second ∨ second = third ∨ first = third := by
  rcases (key_eq_iff first_formed second_formed).1 same with equal | ahead | back
  · exact .inl equal
  -- the dash comes back to where it was, as it cannot move on
  · rcases (key_eq_iff second_formed third_formed).1 same_again with equal | further | returned
    · exact .inr (.inl equal)
    · exact absurd further (first_formed.not_shifts_of_shifts ahead)
    · exact .inr (.inr (ahead.left_unique returned))
  · rcases (key_eq_iff second_formed third_formed).1 same_again with equal | further | returned
    · exact .inr (.inl equal)
    · exact .inr (.inr (back.right_unique further))
    · exact absurd back (third_formed.not_shifts_of_shifts returned)

/-- Sources that do not end with a dash can be told from the key. -/
theorem injOn_key :
    Set.InjOn key {predicate | predicate.WellFormed ∧ ¬ ['-'] <:+ predicate.source} := by
  rintro first ⟨first_formed, first_plain⟩ second ⟨second_formed, second_plain⟩ same
  rcases (key_eq_iff first_formed second_formed).1 same with equal | ahead | back
  · exact equal
  · exact absurd ahead.dash_suffix first_plain
  · exact absurd back.dash_suffix second_plain

/-- Well-formed predicates have the same key exactly when they are equal or have the same target and
differ by a dash that ends the source of one and begins the relationship of the other.  Exactly then
edges that state them have the same id and replace each other.  No three predicates share a key, and
those whose sources do not end with a dash share none. -/
theorem keys_collide_iff (first_formed : first.WellFormed) (second_formed : second.WellFormed) :
    (first.key = second.key ↔
        first = second ∨
          first.target = second.target ∧
            (second.source = first.source ++ ['-'] ∧
                first.relationship = '-' :: second.relationship ∨
              first.source = second.source ++ ['-'] ∧
                second.relationship = '-' :: first.relationship)) ∧
      (∀ one other : Edge, one.predicate = first → other.predicate = second →
        (one.id = other.id ↔ first.key = second.key) ∧
          (one.same other = true ↔ first.key = second.key) ∧
          ∀ graph : Graph, other ∈ graph.edges →
            (other ∈ (graph.addEdge one).edges ↔ other = one ∨ first.key ≠ second.key)) ∧
      (∀ third : Predicate, third.WellFormed → first.key = second.key → second.key = third.key →
        first = second ∨ second = third ∨ first = third) ∧
      Set.InjOn key {predicate | predicate.WellFormed ∧ ¬ ['-'] <:+ predicate.source} := by
  refine ⟨?_, ?_, fun third third_formed => ?_, injOn_key⟩
  · rw [key_eq_iff first_formed second_formed, shifts_iff, shifts_iff]
    constructor
    · rintro (equal | ⟨source_eq, relationship_eq, target_eq⟩ |
        ⟨source_eq, relationship_eq, target_eq⟩)
      · exact .inl equal
      · exact .inr ⟨target_eq, .inr ⟨source_eq, relationship_eq⟩⟩
      · exact .inr ⟨target_eq.symm, .inl ⟨source_eq, relationship_eq⟩⟩
    · rintro (equal | ⟨target_eq, ⟨source_eq, relationship_eq⟩ | ⟨source_eq, relationship_eq⟩⟩)
      · exact .inl equal
      · exact .inr (.inr ⟨source_eq, relationship_eq, target_eq.symm⟩)
      · exact .inr (.inl ⟨source_eq, relationship_eq, target_eq⟩)
  · rintro one other rfl rfl
    have ids_iff : one.id = other.id ↔ one.predicate.key = other.predicate.key := Iff.rfl
    refine ⟨ids_iff, ?_, fun graph found => ?_⟩
    · rw [Edge.same, decide_eq_true_iff, ids_iff]
    · rw [Graph.mem_addEdge_iff, and_iff_right found, ne_comm, Ne, ids_iff]
  · exact eq_of_key_eq_of_key_eq first_formed second_formed third_formed

/-- A dash between two parts can be counted to either of them, but dashes on both sides make another
key. -/
theorem keys_collide_of_dash_between :
    let first : Predicate := ⟨"a-", "b", ">c"⟩
    let second : Predicate := ⟨"a", "-b", ">c"⟩
    let third : Predicate := ⟨"a-", "-b", ">c"⟩
    first.WellFormed ∧ second.WellFormed ∧ third.WellFormed ∧
      first.key = second.key ∧ first ≠ second ∧ second.key ≠ third.key := by
  intro first second third
  have first_formed : first.WellFormed := by decide
  have second_formed : second.WellFormed := by decide
  have third_formed : third.WellFormed := by decide
  refine ⟨first_formed, second_formed, third_formed, ?_, by decide, ?_⟩
  · exact (keys_collide_iff first_formed second_formed).1.2 (by decide)
  · exact mt (keys_collide_iff second_formed third_formed).1.1 (by decide)

end Predicate
end ConceptMap
