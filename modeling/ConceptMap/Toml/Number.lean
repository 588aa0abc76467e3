import ConceptMap.Setting
import ConceptMap.Toml.Basic

/-!
# Numbers in TOML documents

Integers in four bases, numbers with a fraction or an exponent, and truth values.  Single
underscores may stand between digits.
-/

namespace ConceptMap
namespace Toml

/-- The number that digits of a base spell, where single underscores may stand between digits. -/
def digitsFrom (base number : Nat) : (afterDigit : Bool) → Text → Option Nat
  | afterDigit, [] => if afterDigit then some number else none
  | afterDigit, '_' :: rest => if afterDigit then digitsFrom base number false rest else none
  | _, character :: rest =>
      (hexValue? character).bind fun value =>
        if value < base then digitsFrom base (number * base + value) true rest else none

/-- The number that all digits of a token spell. -/
def digits? (base : Nat) (token : Text) : Option Nat := digitsFrom base 0 false token

/-- A decimal number without leading zeros. -/
def whole? : Text → Option Nat
  | '0' :: _ :: _ => none
  | token => digits? 10 token

/-- The sign of a token and the rest of it. -/
def signed : Text → Bool × Text
  | '-' :: rest => (true, rest)
  | '+' :: rest => (false, rest)
  | token => (false, token)

/-- An integer: decimal with a sign, or hexadecimal, octal or binary without one.  The number of
decimal digits is limited. -/
def integer? : Text → Option Int
  | '0' :: 'x' :: rest => (digits? 16 rest).map Int.ofNat
  | '0' :: 'o' :: rest => (digits? 8 rest).map Int.ofNat
  | '0' :: 'b' :: rest => (digits? 2 rest).map Int.ofNat
  | token =>
      let (negative, rest) := signed token
      if Numeral.mostDigits < (rest.filter (· ≠ '_')).length then none
      else (whole? rest).map fun (number : Nat) => if negative then -(number : Int) else number

/-- An exponent: digits with a sign. -/
def exponent? (token : Text) : Option Int :=
  let (negative, rest) := signed token
  (digits? 10 rest).map fun (number : Nat) => if negative then -(number : Int) else number

/-- A number with a fraction, an exponent, or both. -/
def fraction? (negative : Bool) (token : Text) : Option Binary64 := do
  let mantissa := token.takeWhile fun character => character ≠ 'e' && character ≠ 'E'
  let power ←
    match token.drop mantissa.length with
    | [] => some 0
    | _ :: rest => exponent? rest
  let front := mantissa.takeWhile (· ≠ '.')
  let whole ← whole? front
  match mantissa.drop front.length with
  | [] => if mantissa.length = token.length then none else return .ofDecimal negative whole power
  | _ :: places =>
      let part ← digits? 10 places
      let count := (places.filter (· ≠ '_')).length
      return .ofDecimal negative (whole * Nat.pow 10 count + part) (power - count)

/-- A number, or one of the special values.  A minus sign is a subtraction from zero, so it leaves
zero as it is. -/
def number? (token : Text) : Option Binary64 :=
  let (negative, rest) := signed token
  if rest = ("inf" : Text) then some (.infinite negative)
  else if rest = ("nan" : Text) then some .undefined
  else
    (fraction? negative rest).map fun value =>
      if value.isZero then .ofDecimal false 0 0 else value

/-- A truth value or a number. -/
def plain? (token : Text) : Option Setting :=
  if token = ("true" : Text) then some (.bool true)
  else if token = ("false" : Text) then some (.bool false)
  else
    match integer? token with
    | some value => some (.integer value)
    | none => (number? token).map .number

end Toml
end ConceptMap
