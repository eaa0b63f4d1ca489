import TileRealm.Text.Digit
import TileRealm.Toml
import TileRealm.Toml.Line

/-!
# Dates and times

A date, a time of day, or a date with a time, which may say how far it is off.  Dates have to exist
in the calendar; the second 60 is let through for the sake of leap seconds.

* `moment`: any of these forms.
-/

set_option autoImplicit false

namespace TileRealm.Toml

open Text

/-- What is wrong with a number that is too small or too large for its place. -/
def outOfRange : String :=
  "value is out of range"

/-- A number of just so many decimal digits within bounds. -/
def fixedNumber (width low high : Nat) : Reading Nat :=
  (Reading.takeExactly width (isDigitOf 10)).checked fun digits =>
    let n := numberOf 10 digits
    if low ≤ n ∧ n ≤ high then .ok n else .error outOfRange

/-- Whether a year has a 29th of February. -/
def isLeap (year : Nat) : Bool :=
  year % 4 = 0 && (year % 100 != 0 || year % 400 = 0)

/-- The number of days of a month. -/
def daysOf (year month : Nat) : Nat :=
  if month = 2 then if isLeap year then 29 else 28
  else if month = 4 ∨ month = 6 ∨ month = 9 ∨ month = 11 then 30
  else 31

/-- A date. -/
def date : Reading Unit := do
  let year ← fixedNumber 4 0 9999
  Reading.char '-'
  Reading.final do
    let month ← fixedNumber 2 1 12
    Reading.char '-'
    let _ ← fixedNumber 2 1 (daysOf year month)

/-- An hour and a colon. -/
def hour : Reading Unit := do
  let _ ← fixedNumber 2 0 23
  Reading.char ':'

/-- A minute. -/
def minute : Reading Unit := do
  let _ ← fixedNumber 2 0 59

/-- A time of day, with a fraction of a second or without. -/
def time : Reading Unit := do
  hour
  Reading.final do
    minute
    Reading.char ':'
    let _ ← fixedNumber 2 0 60
    let _ ← Reading.optional do
      Reading.char '.'
      Reading.takeWhile1 (isDigitOf 10)

/-- How far a time is off. -/
def timeOffset : Reading Unit :=
  Reading.named "time offset"
    ((do let _ ← Reading.satisfy fun c => c = 'Z' || c = 'z')
      <|> (do
        let _ ← Reading.satisfy fun c => c = '+' || c = '-'
        Reading.final do
          hour
          minute))

/-- A date, with a time behind it or without. -/
def dateAndTime : Reading Unit := do
  date
  let _ ← Reading.optional do
    let _ ← Reading.satisfy fun c => c = 'T' || c = 't' || c = ' '
    time
    let _ ← Reading.optional timeOffset

/-- A date, a time or both, kept as written. -/
def moment : Reading Value := do
  let (text, _) ← Reading.withText (dateAndTime.named "date-time" <|> time.named "time")
  return .datetime (String.ofList text)

end TileRealm.Toml
