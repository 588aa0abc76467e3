import ConceptMap.Number.Digits

/-!
# Moments

Days of the calendar, times of day, and both together, with or without an offset from universal
time.  A moment is written with all its places, as in `1979-05-27 07:32:00`; a fraction of a second
is written only if there is one.
-/

namespace ConceptMap

/-- A day of the calendar. -/
structure Date where
  /-- The year. -/
  year : Nat
  /-- The month, from 1. -/
  month : Nat
  /-- The day of the month, from 1. -/
  day : Nat
deriving DecidableEq, Repr

namespace Date

/-- A year has a leap day: every fourth one, but of the full centuries only every fourth. -/
def isLeapYear (year : Nat) : Bool :=
  year % 4 = 0 && (year % 100 ≠ 0 || year % 400 = 0)

/-- The number of days of a month. -/
def daysInMonth (year month : Nat) : Nat :=
  if month = 2 then (if isLeapYear year then 29 else 28)
  else if month = 4 ∨ month = 6 ∨ month = 9 ∨ month = 11 then 30
  else 31

/-- The day of a year and a month, if there is one. -/
def of? (year month day : Nat) : Option Date :=
  if 0 < year ∧ 0 < month ∧ month < 13 ∧ 0 < day ∧ day < daysInMonth year month + 1 then
    some ⟨year, month, day⟩
  else none

/-- A day as a text. -/
def render (date : Date) : Text :=
  Digits.write 4 date.year ++ '-' :: Digits.write 2 date.month ++
    '-' :: Digits.write 2 date.day

/-- The numbers that make up a day. -/
def parts (date : Date) : List Nat := [date.year, date.month, date.day]

end Date

/-- A time of day. -/
structure TimeOfDay where
  /-- The hour, below 24. -/
  hour : Nat
  /-- The minute, below 60. -/
  minute : Nat
  /-- The second, below 60. -/
  second : Nat
  /-- The millionths of a second. -/
  microsecond : Nat := 0
deriving DecidableEq, Repr

namespace TimeOfDay

/-- The time of an hour, a minute and a second, if there is one. -/
def of? (hour minute second microsecond : Nat) : Option TimeOfDay :=
  if hour < 24 ∧ minute < 60 ∧ second < 60 ∧ microsecond < 1000000 then
    some ⟨hour, minute, second, microsecond⟩
  else none

/-- A time as a text. -/
def render (time : TimeOfDay) : Text :=
  Digits.write 2 time.hour ++ ':' :: Digits.write 2 time.minute ++
    ':' :: Digits.write 2 time.second ++
    (if time.microsecond = 0 then [] else '.' :: Digits.write 6 time.microsecond)

/-- The numbers that make up a time; seconds and their fraction only if they are needed. -/
def parts (time : TimeOfDay) : List Nat :=
  [time.hour, time.minute] ++
    (if time.microsecond ≠ 0 then [time.second, time.microsecond]
    else if time.second ≠ 0 then [time.second]
    else [])

end TimeOfDay

/-- A day, a time, or a time on a day. -/
inductive Moment where
  /-- A day. -/
  | date (day : Date)
  /-- A time on any day. -/
  | time (clock : TimeOfDay)
  /-- A time on a day, with its offset from universal time in minutes if it has one. -/
  | dateTime (day : Date) (clock : TimeOfDay) (offset : Option Int)
deriving DecidableEq, Repr

namespace Moment

/-- How a time on a day is written. -/
structure Format where
  /-- What stands between the day and the time. -/
  separator : Char
  /-- Universal time itself. -/
  universal : Text
deriving DecidableEq, Repr

/-- In messages a blank follows the day, and universal time is an offset like any other. -/
def Format.message : Format := ⟨' ', "+00:00"⟩

/-- In documents a letter follows the day, and another one stands for universal time. -/
def Format.document : Format := ⟨'T', "Z"⟩

/-- An offset from universal time, in minutes, as hours and minutes with a sign. -/
def renderOffset (offset : Int) : Text :=
  (if offset < 0 then '-' else '+') :: Digits.write 2 (offset.natAbs / 60) ++
    ':' :: Digits.write 2 (offset.natAbs % 60)

/-- A moment as a text. -/
def render (format : Format) : Moment → Text
  | .date day => day.render
  | .time clock => clock.render
  | .dateTime day clock offset =>
      day.render ++ format.separator :: clock.render ++
        (match offset with
        | none => []
        | some offset => if offset = 0 then format.universal else renderOffset offset)

/-- The kind of a moment, as messages name it. -/
def kind : Moment → Text
  | .date _ => "datetime.date"
  | .time _ => "datetime.time"
  | .dateTime _ _ _ => "datetime.datetime"

/-- The numbers that make up a moment, and its offset. -/
def parts : Moment → List Text
  | .date day => day.parts.map Text.ofNat
  | .time clock => clock.parts.map Text.ofNat
  | .dateTime day clock offset =>
      (day.parts ++ clock.parts).map Text.ofNat ++
        (offset.map fun offset => "tzinfo=" ++ renderOffset offset).toList

/-- A moment as it is shown inside a list, a table, or a message about it. -/
def quoted (moment : Moment) : Text :=
  moment.kind ++ '(' :: (Text.join ", " moment.parts ++ [')'])

end Moment

end ConceptMap
