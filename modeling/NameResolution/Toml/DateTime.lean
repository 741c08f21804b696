import NameResolution.Toml.Digits

/-!
# Dates and times

A date, a time of day, or both with an optional offset. Dates have to be in
the calendar, and times on the clock, which may show a leap second. Nothing
reads the values, so only their form is checked.
-/

namespace NameResolution.Toml

/-- Whether a year has a leap day. -/
def isLeapYear (year : Nat) : Bool :=
  year % 4 == 0 && (year % 100 != 0 || year % 400 == 0)

/-- How many days a month has. -/
def daysInMonth (year month : Nat) : Nat :=
  match month with
  | 2 => if isLeapYear year then 29 else 28
  | 4 | 6 | 9 | 11 => 30
  | _ => 31

namespace Reader

/-- A number of two digits within limits. -/
def twoDigits (least greatest : Nat) : Reader Nat := do
  let value ← fixedNumber 2
  require (least ≤ value && value ≤ greatest)
  return value

/-- A date: year, month and day. -/
def date : Reader Unit := do
  let year ← fixedNumber 4
  char '-'
  let month ← twoDigits 1 12
  char '-'
  let _ ← twoDigits 1 (daysInMonth year month)

/-- A time of day, with any part of a second. -/
def timeOfDay : Reader Unit := do
  let _ ← twoDigits 0 23
  char ':'
  let _ ← twoDigits 0 59
  char ':'
  let _ ← twoDigits 0 60
  let _ ← optional do
    char '.'
    let places ← charsWhile isDecimalDigit
    require !places.isEmpty

/-- How far a clock is from universal time. -/
def clockOffset : Reader Unit := do
  match ← charWhere fun _ => true with
  | 'Z' | 'z' => return
  | '+' | '-' =>
    let _ ← twoDigits 0 23
    char ':'
    let _ ← twoDigits 0 59
  | _ => failure

/-- A date, a time, or a date with a time on that day. -/
def dateTime : Reader Unit :=
  (do
    date
    let _ ← optional do
      let _ ← charWhere fun char => char == 'T' || char == 't' || char == ' '
      timeOfDay
      let _ ← optional clockOffset) <|>
  timeOfDay

end Reader

end NameResolution.Toml
