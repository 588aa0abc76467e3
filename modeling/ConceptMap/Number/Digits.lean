import ConceptMap.Text.Basic

/-!
# Decimal digits

Natural numbers written with a fixed number of decimal digits, leading zeros included, and the
numbers that digits spell.
-/

namespace ConceptMap
namespace Digits

/-- The last `width` decimal digits of a number. -/
def write : (width : Nat) → Nat → Text
  | 0, _ => []
  | width + 1, number => write width (number / 10) ++ [Nat.digitChar (number % 10)]

/-- The number that decimal digits spell. -/
def value (digits : Text) : Nat :=
  digits.foldl (fun number digit => number * 10 + (digit.toNat - '0'.toNat)) 0

@[simp]
theorem write_length (width number : Nat) : (write width number).length = width := by
  induction width generalizing number with
  | zero => rfl
  | succ width ih => simp [write, ih]

end Digits
end ConceptMap
