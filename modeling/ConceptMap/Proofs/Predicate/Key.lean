import ConceptMap.Proofs.Predicate
import Mathlib.Data.List.Nodup

/-!
# Keys of predicates

A key is glued together from the parts of a predicate.  The target can be told from it, but not
where the source ends: a dash at the end of the source is the same as one at the start of the
relationship.  Two predicates have the same key only because of such a dash.
-/

namespace ConceptMap
namespace Predicate

open Text

/-- The second predicate begins its relationship with the dash that ends the source of the
first. -/
inductive Shifts : Predicate → Predicate → Prop where
  | dash (source relationship target : Text) :
      Shifts ⟨source ++ ['-'], relationship, target⟩ ⟨source, '-' :: relationship, target⟩

variable {first second : Predicate}

theorem shifts_iff :
    first.Shifts second ↔
      first.source = second.source ++ ['-'] ∧ second.relationship = '-' :: first.relationship ∧
        first.target = second.target := by
  constructor
  · rintro ⟨source, relationship, target⟩
    exact ⟨rfl, rfl, rfl⟩
  · obtain ⟨source, relationship, target⟩ := first
    obtain ⟨otherSource, otherRelationship, otherTarget⟩ := second
    rintro ⟨source_eq, relationship_eq, target_eq⟩
    dsimp only at source_eq relationship_eq target_eq
    subst source_eq relationship_eq target_eq
    exact .dash _ _ _

instance (first second : Predicate) : Decidable (first.Shifts second) :=
  decidable_of_iff _ shifts_iff.symm

theorem Shifts.ne (shifts : Shifts first second) : first ≠ second := by
  cases shifts
  simp

theorem Shifts.key_eq (shifts : Shifts first second) : first.key = second.key := by
  cases shifts
  simp [key, linkId]

theorem key_eq (predicate : Predicate) :
    predicate.key =
      (predicate.source ++ dashes ++ predicate.relationship ++ ['-']) ++ arrow ++
        predicate.target := by
  simp [key, linkId, dashes, arrow]

/-- No end of a text without arrows reaches into an arrow in front of it. -/
theorem eq_nil_of_append_arrow {before earlier overlap : Text} (absent : ¬ arrow <:+: overlap)
    (glued : before ++ arrow = earlier ++ arrow ++ overlap) : overlap = [] := by
  have arrow_ends : arrow <:+ before ++ arrow := List.suffix_append before arrow
  have overlap_ends : overlap <:+ before ++ arrow := ⟨earlier ++ arrow, glued.symm⟩
  rcases List.suffix_or_suffix_of_suffix arrow_ends overlap_ends with inside | short
  · exact absurd inside.isInfix absent
  · rcases List.suffix_cons_iff.1 short with rfl | shorter
    · exact absurd List.infix_rfl absent
    · rcases List.suffix_cons_iff.1 shorter with rfl | none_left
      · -- the two characters at the end would be an arrow and also two times `>`
        have tails_eq : arrow = ['>', '>'] :=
          List.append_inj_right' (show before ++ arrow = (earlier ++ ['-']) ++ ['>', '>'] by
            simpa [arrow] using glued) rfl
        exact absurd tails_eq (by decide)
      · exact List.suffix_nil.1 none_left

/-- The text behind the last arrow is determined. -/
theorem eq_of_append_arrow {before otherBefore target otherTarget : Text}
    (absent : ¬ arrow <:+: target) (other_absent : ¬ arrow <:+: otherTarget)
    (glued : before ++ arrow ++ target = otherBefore ++ arrow ++ otherTarget) :
    before = otherBefore ∧ target = otherTarget := by
  have target_eq : target = otherTarget := by
    rcases List.append_eq_append_iff.1 glued with ⟨overlap, inside, rfl⟩ | ⟨overlap, inside, rfl⟩
    · rw [eq_nil_of_append_arrow (mt List.infix_append_of_infix_left absent) inside,
        List.nil_append]
    · rw [eq_nil_of_append_arrow (mt List.infix_append_of_infix_left other_absent) inside,
        List.nil_append]
  subst target_eq
  exact ⟨List.append_cancel_right (List.append_cancel_right glued), rfl⟩

/-- A source that is longer than another one is so by a dash. -/
theorem eq_or_dash_of_append_dashes {overlap relationship otherRelationship : Text}
    (absent : ¬ dashes <:+: overlap)
    (glued : dashes ++ relationship = overlap ++ (dashes ++ otherRelationship)) :
    (overlap = [] ∧ relationship = otherRelationship) ∨
      (overlap = ['-'] ∧ relationship = '-' :: otherRelationship) := by
  match overlap with
  | [] => exact .inl ⟨rfl, List.append_cancel_left glued⟩
  | [character] =>
      simp only [dashes, List.cons_append, List.nil_append, List.cons.injEq] at glued
      exact .inr ⟨by rw [glued.1], glued.2.2⟩
  | first :: second :: rest =>
      simp only [dashes, List.cons_append, List.nil_append, List.cons.injEq] at glued
      obtain ⟨rfl, rfl, _⟩ := glued
      exact absurd ⟨[], rest, rfl⟩ absent

/-- Only a dash can be counted to the source or to the relationship. -/
theorem eq_or_shifts_of_append_dashes {source relationship otherSource otherRelationship : Text}
    (absent : ¬ dashes <:+: source) (other_absent : ¬ dashes <:+: otherSource)
    (glued : source ++ dashes ++ relationship = otherSource ++ dashes ++ otherRelationship)
    (target : Text) :
    (⟨source, relationship, target⟩ : Predicate) = ⟨otherSource, otherRelationship, target⟩ ∨
      Shifts ⟨source, relationship, target⟩ ⟨otherSource, otherRelationship, target⟩ ∨
      Shifts ⟨otherSource, otherRelationship, target⟩ ⟨source, relationship, target⟩ := by
  rw [List.append_assoc, List.append_assoc] at glued
  rcases List.append_eq_append_iff.1 glued with ⟨overlap, rfl, rest⟩ | ⟨overlap, rfl, rest⟩
  · rcases eq_or_dash_of_append_dashes (mt List.infix_append_of_infix_right other_absent) rest with
      ⟨rfl, rfl⟩ | ⟨rfl, rfl⟩
    · exact .inl (by rw [List.append_nil])
    · exact .inr (.inr (.dash _ _ _))
  · rcases eq_or_dash_of_append_dashes (mt List.infix_append_of_infix_right absent) rest with
      ⟨rfl, rfl⟩ | ⟨rfl, rfl⟩
    · exact .inl (by rw [List.append_nil])
    · exact .inr (.inl (.dash _ _ _))

/-- Well-formed predicates with the same key are equal up to the place of a dash. -/
theorem key_eq_iff (first_formed : first.WellFormed) (second_formed : second.WellFormed) :
    first.key = second.key ↔ first = second ∨ first.Shifts second ∨ second.Shifts first := by
  constructor
  · intro same
    rw [key_eq, key_eq] at same
    obtain ⟨before_eq, target_eq⟩ := eq_of_append_arrow first_formed.target.tokenFree.2
      second_formed.target.tokenFree.2 same
    obtain ⟨source, relationship, target⟩ := first
    obtain ⟨otherSource, otherRelationship, otherTarget⟩ := second
    obtain rfl : target = otherTarget := target_eq
    exact eq_or_shifts_of_append_dashes first_formed.source.tokenFree.1
      second_formed.source.tokenFree.1 (List.append_cancel_right before_eq) target
  · rintro (rfl | shifts | shifts)
    · rfl
    · exact shifts.key_eq
    · exact shifts.key_eq.symm

/-- Distinct well-formed predicates have distinct keys unless a dash tells some two of them
apart. -/
theorem nodup_map_key_iff {predicates : List Predicate}
    (formed : ∀ predicate ∈ predicates, predicate.WellFormed) (distinct : predicates.Nodup) :
    (predicates.map key).Nodup ↔
      ∀ first ∈ predicates, ∀ second ∈ predicates, ¬ first.Shifts second := by
  rw [List.nodup_map_iff_inj_on distinct]
  constructor
  · intro injective first first_found second second_found shifts
    exact shifts.ne (injective first first_found second second_found shifts.key_eq)
  · intro apart first first_found second second_found same
    rcases (key_eq_iff (formed first first_found) (formed second second_found)).1 same with
      equal | shifts | shifts
    · exact equal
    · exact absurd shifts (apart first first_found second second_found)
    · exact absurd shifts (apart second second_found first first_found)

end Predicate
end ConceptMap
