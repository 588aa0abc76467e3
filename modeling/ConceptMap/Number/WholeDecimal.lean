import ConceptMap.Number.Digits
import ConceptMap.Number.Numeral

/-!
# Whole decimals

Integers in ASCII digits that may be written like decimals, as in `12`, `+007`, `-1_000` or `2.00`:
a fraction may follow if it is made of zeros, and a single underscore may stand inside the numeral.
White space around it does not count.
-/

namespace ConceptMap
namespace WholeDecimal

/-- The zeros and underscores with which a numeral may be filled up in front. -/
def isFilling (character : Char) : Bool := character = '0' || character = '_'

/-- The numeral without the filling in front of its first digit above zero, or of a minus sign; if
none of these follows, the last character of the filling stays.  A numeral starts with a digit, and
only one that starts with a zero is filled up. -/
def withoutFilling (numeral : Text) : Option Text :=
  match numeral with
  | '0' :: _ =>
      let filling := numeral.takeWhile isFilling
      match numeral.drop filling.length with
      | [] => some (filling.drop (filling.length - 1))
      | character :: rest =>
          if character.isDigit || character = '-' then some (character :: rest)
          else if character = '.' then some (filling.drop (filling.length - 1) ++ character :: rest)
          else none
  | character :: _ => if character.isDigit then some numeral else none
  | [] => none

/-- The numeral without filling behind its sign, and without a plus sign. -/
def withoutFillingOrPlus : Text → Option Text
  | '+' :: numeral => withoutFilling numeral
  | '-' :: numeral => (withoutFilling numeral).map ('-' :: ·)
  | numeral => withoutFilling numeral

/-- The numeral without a fraction of zeros; any other fraction stays. -/
def withoutFraction (numeral : Text) : Text :=
  let whole := numeral.takeWhile (· ≠ '.')
  match numeral.drop whole.length with
  | _ :: zero :: zeros => if (zero :: zeros).all (· = '0') then whole else numeral
  | _ => numeral

/-- The numeral without underscores, of which none may be first or last, and no two may be
neighbours. -/
def withoutUnderscores (numeral : Text) : Option Text :=
  if numeral.head? = some '_' || numeral.getLast? = some '_' ||
      Text.mentions ['_', '_'] numeral then none
  else some (numeral.filter (· ≠ '_'))

/-- The natural number that digits spell, of which the first is zero only if it is alone. -/
def digits? (digits : Text) : Option Nat :=
  match digits with
  | [] | '0' :: _ :: _ => none
  | _ =>
      if digits.all Char.isDigit && !(Numeral.mostDigits < digits.length) then
        some (Digits.value digits)
      else none

/-- The integer that digits spell, after a minus sign if it is negative. -/
def signed? : Text → Option Int
  | '-' :: digits => (digits? digits).map fun number => -(number : Int)
  | digits => (digits? digits).map Int.ofNat

/-- The integer that a text spells. -/
def read (text : Text) : Option Int := do
  let numeral ← withoutFillingOrPlus (Numeral.bare text)
  signed? (← withoutUnderscores (withoutFraction numeral))

end WholeDecimal
end ConceptMap
