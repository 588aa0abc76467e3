import ConceptMap.Number.Binary64

/-!
# Shortest decimals

A double is written with the fewest decimal digits that read back as the same double; of several
such decimals the nearest is taken.  The digits stand in positional notation for exponents from -4
to 15, and in exponent notation otherwise.
-/

namespace ConceptMap
namespace Binary64

/-- A decimal `digits * 10 ^ exponent`. -/
structure Decimal where
  /-- The digits, as a number. -/
  digits : Nat
  /-- The power of ten. -/
  exponent : Int
deriving DecidableEq, Repr

/-- The numbers that are read as one double, as fractions over a common denominator. -/
structure ReadingRange where
  /-- Numerator of the double. -/
  value : Nat
  /-- Numerator of the lower end. -/
  low : Nat
  /-- Numerator of the upper end. -/
  high : Nat
  /-- The denominator. -/
  denominator : Nat
  /-- The ends themselves are read as the double. -/
  closed : Bool
deriving DecidableEq, Repr

/-- The range of a positive double: half a unit to each side, but a quarter below a power of two,
where the doubles below lie closer together. -/
def readingRange (significand : Nat) (exponent : Int) : ReadingRange :=
  let below := if significand = leastNormal ∧ leastExponent < exponent then 1 else 2
  let unit := scaleDown 2 (-(exponent - 2)) 1 1
  { value := 4 * significand * unit.1
    low := (4 * significand - below) * unit.1
    high := (4 * significand + 2) * unit.1
    denominator := unit.2
    closed := significand % 2 = 0 }

/-- A decimal lies in the range. -/
def ReadingRange.covers (range : ReadingRange) (decimal : Decimal) : Bool :=
  let scaled := scaleDown 10 (-decimal.exponent) decimal.digits 1
  let place := scaled.1 * range.denominator
  if range.closed then range.low * scaled.2 ≤ place && place ≤ range.high * scaled.2
  else range.low * scaled.2 < place && place < range.high * scaled.2

/-- The power of ten of the first digit of a positive fraction. -/
def leadingExponent (numerator denominator : Nat) : Int :=
  if denominator ≤ numerator then ((Text.ofNat (numerator / denominator)).length : Int) - 1
  else
    let zeros := (Text.ofNat (denominator / numerator)).length - 1
    if denominator ≤ numerator * Nat.pow 10 zeros then -(zeros : Int) else -(zeros : Int) - 1

/-- The decimal of the grid `10 ^ exponent` that is nearest to the double among those in its range,
if any is; only the two neighbours of the double need to be tried. -/
def ReadingRange.nearestOn (range : ReadingRange) (exponent : Int) : Option Decimal :=
  let scaled := scaleDown 10 exponent range.value range.denominator
  let floor := scaled.1 / scaled.2
  let rest := scaled.1 % scaled.2
  let lower : Decimal := ⟨floor, exponent⟩
  let upper : Decimal := ⟨floor + 1, exponent⟩
  match range.covers lower, range.covers upper with
  | true, true =>
      let lowerIsNearer := 2 * rest < scaled.2 || (2 * rest = scaled.2 && floor % 2 = 0)
      some (if lowerIsNearer then lower else upper)
  | true, false => some lower
  | false, true => some upper
  | false, false => none

/-- A decimal whose last digit is not zero. -/
def Decimal.normalize (decimal : Decimal) : Decimal :=
  let zeros := ((Text.ofNat decimal.digits).reverse.takeWhile (· == '0')).length
  ⟨decimal.digits / Nat.pow 10 zeros, decimal.exponent + zeros⟩

/-- The shortest decimal that is read as the given positive double; seventeen digits always
suffice. -/
def shortest (significand : Nat) (exponent : Int) : Decimal :=
  let range := readingRange significand exponent
  let leading := leadingExponent range.value range.denominator
  let grids := (List.range 17).map fun later : Nat => leading - later
  let found := grids.findSome? range.nearestOn
  (found.getD ⟨range.value / range.denominator, 0⟩).normalize

/-- How the exponent of a number is written. -/
structure ExponentStyle where
  /-- The least number of digits of an exponent. -/
  width : Nat
deriving DecidableEq, Repr

/-- In messages an exponent has two digits or more. -/
def ExponentStyle.message : ExponentStyle := ⟨2⟩

/-- In documents an exponent has as many digits as it needs. -/
def ExponentStyle.document : ExponentStyle := ⟨1⟩

/-- An exponent with its sign. -/
def ExponentStyle.render (style : ExponentStyle) (exponent : Int) : Text :=
  let digits := Text.ofNat exponent.natAbs
  let sign := if exponent < 0 then '-' else '+'
  sign :: (List.replicate (style.width - digits.length) '0' ++ digits)

/-- A normalized positive decimal: positional from `0.0001` up to sixteen integer digits, with at
least one digit behind the point. -/
def Decimal.render (style : ExponentStyle) (decimal : Decimal) : Text :=
  let digits := Text.ofNat decimal.digits
  let leading : Int := digits.length - 1 + decimal.exponent
  if leading < -4 ∨ 16 ≤ leading then
    let fraction := digits.drop 1
    digits.take 1 ++ (if fraction.isEmpty then [] else '.' :: fraction) ++ 'e' ::
      style.render leading
  else if leading < 0 then
    "0." ++ List.replicate (-leading - 1).toNat '0' ++ digits
  else
    let whole := leading.toNat + 1
    let fraction := digits.drop whole
    digits.take whole ++ List.replicate (whole - digits.length) '0' ++ '.' ::
      (if fraction.isEmpty then ['0'] else fraction)

/-- The text of a double. -/
def render (style : ExponentStyle) : Binary64 → Text
  | finite negative significand exponent =>
      let magnitude : Text :=
        if significand = 0 then "0.0" else (shortest significand exponent).render style
      if negative then '-' :: magnitude else magnitude
  | infinite negative => if negative then "-inf" else "inf"
  | undefined => "nan"

end Binary64
end ConceptMap
