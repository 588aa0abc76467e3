import ConceptMap.Text.Basic

/-!
# Numbers that are spelled

What digits spell, and how a number is read at the head of a text: as far as the digits go.
-/

namespace ConceptMap
namespace Text

/-- Decimal digits spell a number. -/
structure Spells (digits : Text) (number : Nat) : Prop where
  nonempty : digits ≠ []
  decimal : ∀ digit ∈ digits, digit.isDigit
  value : Nat.ofDigitChars 10 digits 0 = number

/-- A number is written with digits that spell it. -/
theorem spells_ofNat (number : Nat) : Spells (ofNat number) number where
  nonempty := Nat.toDigits_ne_nil
  decimal _ found := Nat.isDigit_of_mem_toDigits (by decide) (by decide) found
  value := Nat.ofDigitChars_toDigits (by decide) (by decide)

/-- A text does not go on with a digit. -/
def EndsDigits (rest : Text) : Prop := ∀ next ∈ rest.head?, next.isDigit = false

/-- The number at the head of a text, and what follows its digits. -/
def number? (text : Text) : Option (Nat × Text) :=
  match text.takeWhile Char.isDigit with
  | [] => none
  | digits => some (Nat.ofDigitChars 10 digits 0, text.dropWhile Char.isDigit)

theorem number?_append {digits rest : Text} {number : Nat} (spells : Spells digits number)
    (ends : EndsDigits rest) : number? (digits ++ rest) = some (number, rest) := by
  have nothing_taken : rest.takeWhile Char.isDigit = [] ∧ rest.dropWhile Char.isDigit = rest := by
    cases rest with
    | nil => exact ⟨rfl, rfl⟩
    | cons next rest =>
        have other : next.isDigit = false := ends next rfl
        simp [other]
  obtain ⟨taken, dropped⟩ := nothing_taken
  rw [number?, List.takeWhile_append_of_pos spells.decimal,
    List.dropWhile_append_of_pos spells.decimal, taken, dropped, List.append_nil]
  obtain ⟨first, later, rfl⟩ := List.exists_cons_of_ne_nil spells.nonempty
  simp only [spells.value]

end Text
end ConceptMap
