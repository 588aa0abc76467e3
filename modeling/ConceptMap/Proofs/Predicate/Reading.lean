import ConceptMap.Proofs.Predicate

/-!
# How a line is read

To divide a line at its first `--` and at the first `->` behind that is to match it against the
pattern of a predicate with parts as short as possible, the source before the relationship.  Every
line is read in just one way: as a predicate, or with the fault that counts before the others.
-/

namespace ConceptMap
namespace Text

end Text

namespace Predicate

open Text

/-- The line is divided at its first `--` and at the first `->` behind that. -/
def Divided (line source relationship target : Text) : Prop :=
  ∃ rest, FirstCut dashes line source rest ∧ FirstCut arrow rest relationship target

/-- The line matches the pattern of a predicate, text around a `--` and a later `->`. -/
def Matches (line source relationship target : Text) : Prop :=
  line = source ++ dashes ++ (relationship ++ arrow ++ target)

variable {line source relationship target : Text}

theorem Divided.unique {other middle last : Text} (left : Divided line source relationship target)
    (right : Divided line other middle last) :
    source = other ∧ relationship = middle ∧ target = last := by
  obtain ⟨rest, left_dashes, left_arrow⟩ := left
  obtain ⟨more, right_dashes, right_arrow⟩ := right
  obtain ⟨rfl, rfl⟩ := left_dashes.unique right_dashes
  exact ⟨rfl, left_arrow.unique right_arrow⟩

/-- What a line is read as.  The cases exclude each other: a line feed counts before all else, then
come a line that does not match the pattern, an empty part, and a token in a part, of which the
first one counts. -/
inductive Reading (line : Text) : Except Fault Predicate → Prop where
  | lineFeed (broken : '\n' ∈ line) : Reading line (.error .lineFeed)
  | malformed (one_line : '\n' ∉ line)
      (unmatched : ∀ source relationship target, ¬Matches line source relationship target) :
      Reading line (.error (.malformed line))
  | emptyPart (one_line : '\n' ∉ line) {source relationship target : Text}
      (divided : Divided line source relationship target)
      (empty : ∃ part ∈ [source, relationship, target], trim part = []) :
      Reading line (.error .emptyPart)
  | tokenInPart (one_line : '\n' ∉ line) {source relationship target : Text}
      (divided : Divided line source relationship target)
      (filled : ∀ part ∈ [source, relationship, target], trim part ≠ [])
      {front back : List (Part × Text)} {part : Part} {value : Text}
      (parts_eq : [(Part.source, trim source), (.relationship, trim relationship),
        (.target, trim target)] = front ++ (part, value) :: back)
      (free : ∀ earlier ∈ front, TokenFree earlier.2) (token : ¬TokenFree value) :
      Reading line (.error (.tokenInPart part value))
  | states (one_line : '\n' ∉ line) {source relationship target : Text}
      (divided : Divided line source relationship target)
      (parts : ∀ part ∈ [source, relationship, target], trim part ≠ [] ∧ TokenFree (trim part)) :
      Reading line (.ok ⟨trim source, trim relationship, trim target⟩)

/-- A dash in front of an arrow belongs to the relationship. -/
example : parse "a--b-->c" = .ok ⟨"a", "b-", "c"⟩ := by decide

end Predicate
end ConceptMap
