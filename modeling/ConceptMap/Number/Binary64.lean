import ConceptMap.Text.Basic

/-!
# Double-precision numbers

A double is kept as an exact dyadic fraction, so that reading, truncating and comparing it are
arithmetic on integers.  Reading a decimal gives the nearest double, a tie going to the even
significand.
-/

namespace ConceptMap

/-- A double-precision number. -/
inductive Binary64 where
  /-- The number `± significand * 2 ^ exponent`, where the significand is below `2 ^ 53` and either
  at least `2 ^ 52` or the exponent is the least one, -1074. -/
  | finite (negative : Bool) (significand : Nat) (exponent : Int)
  /-- An infinity. -/
  | infinite (negative : Bool)
  /-- The value of an undefined operation. -/
  | undefined
deriving DecidableEq, Repr

namespace Binary64

/-- The least number that has more than 53 bits, and so is no significand. -/
def significandBound : Nat := Nat.pow 2 53

/-- The least significand of a double above the least exponent. -/
def leastNormal : Nat := Nat.pow 2 52

/-- The least exponent of a double. -/
def leastExponent : Int := -1074

/-- The greatest exponent of a double. -/
def greatestExponent : Int := 971

/-- The integer nearest to a fraction, a half going to the even neighbour. -/
def roundHalfEven (numerator denominator : Nat) : Nat :=
  let floor := numerator / denominator
  let rest := numerator % denominator
  if 2 * rest < denominator then floor
  else if denominator < 2 * rest then floor + 1
  else floor + floor % 2

/-- The integer is off by no more than a half. -/
theorem roundHalfEven_nearest {numerator denominator : Nat} (positive : 0 < denominator) :
    2 * ((roundHalfEven numerator denominator : Int) * denominator - numerator).natAbs ≤
      denominator := by
  have divided := Nat.div_add_mod' numerator denominator
  have rest_lt := Nat.mod_lt numerator positive
  simp only [roundHalfEven]
  generalize numerator / denominator = floor at *
  generalize numerator % denominator = rest at *
  subst divided
  split
  next => omega
  split
  next => grind
  next below above =>
    have half : 2 * rest = denominator := by omega
    rcases Nat.mod_two_eq_zero_or_one floor with even | odd
    · rw [even, Nat.add_zero]
      omega
    · rw [odd]
      grind

/-- A fraction divided by a power of a base. -/
def scaleDown (base : Nat) (power : Int) (numerator denominator : Nat) : Nat × Nat :=
  match power with
  | .ofNat power => (numerator, denominator * base.pow power)
  | .negSucc power => (numerator * base.pow (power + 1), denominator)

/-- The exponent with which a positive fraction has a significand of 53 bits, or the least one. -/
def exponentOf (numerator denominator : Nat) : Int :=
  let guess : Int := (numerator.log2 : Int) - denominator.log2 - 53
  let scaled := scaleDown 2 guess numerator denominator
  max leastExponent (if scaled.2 * significandBound ≤ scaled.1 then guess + 1 else guess)

/-- The double nearest to a fraction with a positive denominator. -/
def ofFraction (negative : Bool) (numerator denominator : Nat) : Binary64 :=
  if numerator = 0 then finite negative 0 leastExponent
  else
    let exponent := exponentOf numerator denominator
    let scaled := scaleDown 2 exponent numerator denominator
    let rounded := roundHalfEven scaled.1 scaled.2
    let carried :=
      if rounded = significandBound then (leastNormal, exponent + 1) else (rounded, exponent)
    if greatestExponent < carried.2 then infinite negative else finite negative carried.1 carried.2

/-- The double nearest to `± digits * 10 ^ exponent`.  Numbers far beyond the greatest or below the
least double are settled by their size alone. -/
def ofDecimal (negative : Bool) (digits : Nat) (exponent : Int) : Binary64 :=
  let size : Int := (Text.ofNat digits).length + exponent
  if digits = 0 ∨ size < -400 then finite negative 0 leastExponent
  else if 400 < size then infinite negative
  else
    let scaled := scaleDown 10 (-exponent) digits 1
    ofFraction negative scaled.1 scaled.2

/-- The number is zero, of either sign. -/
def isZero : Binary64 → Bool
  | finite _ significand _ => significand = 0
  | _ => false

/-- The integer part of a finite number, nearest to zero. -/
def truncate? : Binary64 → Option Int
  | finite negative significand exponent =>
      let scaled := scaleDown 2 (-exponent) significand 1
      let magnitude : Int := (scaled.1 / scaled.2 : Nat)
      some (if negative then -magnitude else magnitude)
  | _ => none

end Binary64
end ConceptMap
