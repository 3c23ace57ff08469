import Scaffold.Text

/-!
Dates and times of day, and how they are written.
-/

namespace Scaffold

/-- A day of the calendar. -/
structure Date where
  /-- The year, from 1 to 9999. -/
  year : Nat
  /-- The month, from 1 to 12. -/
  month : Nat
  /-- The day of the month, from 1. -/
  day : Nat
  deriving DecidableEq

/-- A time of day. -/
structure TimeOfDay where
  /-- The hour, from 0 to 23. -/
  hour : Nat
  /-- The minute, from 0 to 59. -/
  minute : Nat
  /-- The second, from 0 to 59. -/
  second : Nat
  /-- The millionths of a second. -/
  microsecond : Nat
  deriving DecidableEq

/-- A day and a time of day, with the offset from universal time in minutes if it is known. -/
structure DateTime where
  /-- The day. -/
  date : Date
  /-- The time of that day. -/
  time : TimeOfDay
  /-- The offset in minutes. -/
  offset : Option Int
  deriving DecidableEq

namespace Text

/-- The decimal digits of a natural number, with leading zeros up to `width` of them. -/
def padded (width n : Nat) : Text :=
  List.replicate (width - (ofNat n).length) (Letter.char '0') ++ ofNat n

end Text

namespace Date

/-- Whether a year has a twenty-ninth of February. -/
def isLeap (year : Nat) : Bool := year % 4 == 0 && (year % 100 != 0 || year % 400 == 0)

/-- The number of days of a month. -/
def monthLength (year month : Nat) : Nat :=
  if month = 2 then if isLeap year then 29 else 28
  else if month = 4 ∨ month = 6 ∨ month = 9 ∨ month = 11 then 30
  else 31

/-- Whether the day exists. -/
def isValid (d : Date) : Bool :=
  1 ≤ d.year && 1 ≤ d.month && d.month ≤ 12 && 1 ≤ d.day && d.day ≤ monthLength d.year d.month

/-- Year, month and day between hyphens. -/
def toText (d : Date) : Text :=
  Text.padded 4 d.year ++ [.char '-'] ++ Text.padded 2 d.month ++ [.char '-'] ++ Text.padded 2 d.day

end Date

namespace TimeOfDay

/-- Hour, minute and second between colons, and the fraction if there is one. -/
def toText (t : TimeOfDay) : Text :=
  Text.padded 2 t.hour ++ [.char ':'] ++ Text.padded 2 t.minute ++ [.char ':']
    ++ Text.padded 2 t.second
    ++ (if t.microsecond = 0 then [] else .char '.' :: Text.padded 6 t.microsecond)

end TimeOfDay

namespace DateTime

/-- An offset as sign, hours and minutes. -/
def offsetText (minutes : Int) : Text :=
  [.char (if minutes < 0 then '-' else '+')]
    ++ Text.padded 2 (minutes.natAbs / 60) ++ [.char ':'] ++ Text.padded 2 (minutes.natAbs % 60)

/-- Day and time with `T` between them, then the offset. -/
def toText (d : DateTime) : Text :=
  d.date.toText ++ [.char 'T'] ++ d.time.toText
    ++ (match d.offset with
      | none => []
      | some minutes => offsetText minutes)

end DateTime

end Scaffold
