import ConceptMap.Moment
import ConceptMap.Toml.Basic

/-!
# Moments in TOML documents

Dates and times in TOML documents: `1979-05-27`, `07:32:00`, or both with a letter or a blank
between them, and then perhaps an offset from universal time.  Every place must have its digits.
-/

namespace ConceptMap
namespace Toml

/-- The number that exactly `count` digits spell. -/
def fixedDigits (count : Nat) : Reader Nat := fun text =>
  let digits := text.take count
  if digits.length = count && digits.all Char.isDigit then
    some (Digits.value digits, text.drop count)
  else none

/-- What follows a character. -/
def after (mark : Char) : Text → Option Text
  | [] => none
  | character :: rest => if character = mark then some rest else none

/-- A day of the calendar. -/
def date : Reader Date := fun text => do
  let (year, rest) ← fixedDigits 4 text
  let (month, rest) ← fixedDigits 2 (← after '-' rest)
  let (day, rest) ← fixedDigits 2 (← after '-' rest)
  return (← Date.of? year month day, rest)

/-- The millionths of a second that a fraction spells; digits behind them do not count. -/
def microseconds (text : Text) : Nat × Text :=
  match text with
  | '.' :: rest =>
      match rest.takeWhile Char.isDigit with
      | [] => (0, text)
      | digits =>
          (Digits.value ((digits ++ List.replicate 6 '0').take 6), rest.drop digits.length)
  | _ => (0, text)

/-- A time of day. -/
def timeOfDay : Reader TimeOfDay := fun text => do
  let (hour, rest) ← fixedDigits 2 text
  let (minute, rest) ← fixedDigits 2 (← after ':' rest)
  let (second, rest) ← fixedDigits 2 (← after ':' rest)
  let (microsecond, rest) := microseconds rest
  return (← TimeOfDay.of? hour minute second microsecond, rest)

/-- The minutes of an offset behind its sign. -/
def offsetMinutes : Reader Nat := fun text => do
  let (hours, rest) ← fixedDigits 2 text
  let (minutes, rest) ← fixedDigits 2 (← after ':' rest)
  if hours < 24 ∧ minutes < 60 then return (hours * 60 + minutes, rest) else none

/-- An offset from universal time, if there is one. -/
def offset (text : Text) : Option Int × Text :=
  match text with
  | [] => (none, text)
  | sign :: rest =>
      if sign = 'Z' || sign = 'z' then (some 0, rest)
      else if sign = '+' || sign = '-' then
        match offsetMinutes rest with
        | none => (none, text)
        | some (minutes, rest) => (some (if sign = '-' then -(minutes : Int) else minutes), rest)
      else (none, text)

/-- The time behind a day, which a letter or a blank must set off. -/
def timeBehind : Reader TimeOfDay
  | [] => none
  | mark :: rest => if mark = 'T' || mark = 't' || mark = ' ' then timeOfDay rest else none

/-- A date, a time, or both. -/
def moment : Reader Moment := fun text =>
  match date text with
  | none => (timeOfDay text).map fun (time, rest) => (.time time, rest)
  | some (date, rest) =>
      match timeBehind rest with
      | none => some (.date date, rest)
      | some (time, rest) =>
          let (offset, rest) := offset rest
          some (.dateTime date time offset, rest)

end Toml
end ConceptMap
