import ConceptMap.Text.Blank

/-!
# Numerals

Integers written in decimal digits of any script, as in `-12`, `+1_000` or `٣`.  An underscore may
stand between two digits, and white space around the numeral does not count.  An integer with too
many digits is neither read nor written.
-/

namespace ConceptMap
namespace Numeral

/-- The zeros of the decimal digit blocks of all scripts, as of Unicode 14: each is followed by the
digits one to nine of its block. -/
def zeros : List Nat := [
  0x30, 0x660, 0x6F0, 0x7C0, 0x966, 0x9E6, 0xA66, 0xAE6, 0xB66, 0xBE6, 0xC66, 0xCE6, 0xD66, 0xDE6,
  0xE50, 0xED0, 0xF20, 0x1040, 0x1090, 0x17E0, 0x1810, 0x1946, 0x19D0, 0x1A80, 0x1A90, 0x1B50,
  0x1BB0, 0x1C40, 0x1C50, 0xA620, 0xA8D0, 0xA900, 0xA9D0, 0xA9F0, 0xAA50, 0xABF0, 0xFF10, 0x104A0,
  0x10D30, 0x11066, 0x110F0, 0x11136, 0x111D0, 0x112F0, 0x11450, 0x114D0, 0x11650, 0x116C0,
  0x11730, 0x118E0, 0x11950, 0x11C50, 0x11D50, 0x11DA0, 0x16A60, 0x16AC0, 0x16B50, 0x1D7CE,
  0x1D7D8, 0x1D7E2, 0x1D7EC, 0x1D7F6, 0x1E140, 0x1E2F0, 0x1E950, 0x1FBF0]

/-- The value of a decimal digit of any script. -/
def digit? (character : Char) : Option Nat :=
  let code := character.toNat
  (zeros.find? fun start => start ≤ code && code < start + 10).map (code - ·)

/-- Why a text is not read as an integer. -/
inductive Fault where
  /-- The text is no numeral. -/
  | malformed
  /-- The numeral has too many digits. -/
  | tooLong (digits : Nat)
deriving DecidableEq, Repr

/-- The greatest number of digits of a numeral, whether it is read or written. -/
def mostDigits : Nat := 4300

/-- Why an integer is not written. -/
inductive WriteFault where
  /-- It has too many digits. -/
  | tooLong
deriving DecidableEq, Repr

/-- The report of an integer that is not written. -/
def WriteFault.message : WriteFault → Text
  | .tooLong =>
      "Exceeds the limit (" ++ Text.ofNat mostDigits ++
        " digits) for integer string conversion; " ++
        "use sys.set_int_max_str_digits() to increase the limit"

/-- The integer has few enough digits to be written; a sign does not count.  Numbers that count
something, such as lines or nodes, are never so long, and are written without asking. -/
def isWritable (number : Int) : Bool := (Text.ofNat number.natAbs).length ≤ mostDigits

/-- An integer that comes from outside as a text, unless it has too many digits. -/
def write (number : Int) : Except WriteFault Text :=
  if isWritable number then .ok (Text.ofInt number) else .error .tooLong

/-- A run of digits that has been read. -/
structure DigitRun where
  /-- The number that the digits spell. -/
  value : Nat
  /-- How many digits there are. -/
  count : Nat
  /-- What follows them. -/
  rest : Text
deriving DecidableEq, Repr

/-- Reads digits and underscores at the head of a text, going on from those before; `afterDigit`
says whether the last character was a digit.  An underscore must stand between two digits. -/
def readDigits (value count : Nat) : (afterDigit : Bool) → Text → Option DigitRun
  | afterDigit, [] => if afterDigit then some ⟨value, count, []⟩ else none
  | afterDigit, '_' :: rest => if afterDigit then readDigits value count false rest else none
  | afterDigit, character :: rest =>
      match digit? character with
      | some digit => readDigits (value * 10 + digit) (count + 1) true rest
      | none => if afterDigit then some ⟨value, count, character :: rest⟩ else none

/-- The natural number that digits and underscores spell. -/
def natural (text : Text) : Except Fault Nat :=
  match readDigits 0 0 false text with
  | none => .error .malformed
  | some run =>
      if mostDigits < run.count then .error (.tooLong run.count)
      else if run.rest.isEmpty then .ok run.value
      else .error .malformed

/-- White space around a numeral: every blank but the information separators. -/
def isSpace (character : Char) : Bool :=
  Text.isBlank character && !(28 ≤ character.toNat && character.toNat ≤ 31)

/-- The text without white space at its ends. -/
def bare (text : Text) : Text :=
  ((text.dropWhile isSpace).reverse.dropWhile isSpace).reverse

/-- The integer that a text spells: a sign, and digits with single underscores, in white space. -/
def integer (text : Text) : Except Fault Int :=
  match bare text with
  | '-' :: digits => (natural digits).map fun number => -(number : Int)
  | '+' :: digits => (natural digits).map Int.ofNat
  | digits => (natural digits).map Int.ofNat

end Numeral
end ConceptMap
