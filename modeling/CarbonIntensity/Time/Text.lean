import CarbonIntensity.Time.Instant

/-!
# Civil dates and written instants

Dates of the proleptic Gregorian calendar and the number of days from 1970-01-01. A year is taken
to start in March, so that the leap day is the last of its year; four hundred years, an era, have
`146097` days, and within an era

`dayOfEra = 365 · y + y / 4 - y / 100 + dayOfYear`.

An instant is written in UTC as date and time of day. The fraction of the second is left out if it
is zero and has otherwise the least of three, six or nine digits that is exact; a leap second has
the number 60. Years from 0 to 9999 have four digits, all others a sign and at least four digits.

* `Instant.text` is the wire form `2024-05-01T12:00:00.500Z`;
* `Instant.wholeSecondText` is the wire form without its fraction;
* `Instant.display` is the form of messages, `2024-05-01 12:00:00.500 UTC`.
-/

namespace CarbonIntensity

structure CivilDate where
  year : Int
  month : Nat
  day : Nat
deriving DecidableEq

namespace CivilDate

def isLeapYear (y : Int) : Bool := y % 4 == 0 && (y % 100 != 0 || y % 400 == 0)

def daysInMonth (y : Int) (m : Nat) : Nat :=
  if m == 2 then (if isLeapYear y then 29 else 28)
  else if m == 4 || m == 6 || m == 9 || m == 11 then 30
  else 31

/-- The month exists and has that day. -/
def isValid (d : CivilDate) : Bool :=
  1 ≤ d.month && d.month ≤ 12 && 1 ≤ d.day && d.day ≤ daysInMonth d.year d.month

/-- Days from 1970-01-01 to the date. -/
def dayNumber (d : CivilDate) : Int :=
  let y := if d.month ≤ 2 then d.year - 1 else d.year
  let yearOfEra := (y % 400).toNat
  let monthFromMarch := (d.month + 9) % 12
  let dayOfYear := (153 * monthFromMarch + 2) / 5 + d.day - 1
  let dayOfEra := 365 * yearOfEra + yearOfEra / 4 - yearOfEra / 100 + dayOfYear
  y / 400 * 146097 + dayOfEra - 719468

/-- The date that lies so many days after 1970-01-01. -/
def ofDayNumber (n : Int) : CivilDate :=
  let z := n + 719468
  let dayOfEra := (z % 146097).toNat
  let yearOfEra := (dayOfEra - dayOfEra / 1460 + dayOfEra / 36524 - dayOfEra / 146096) / 365
  let dayOfYear := dayOfEra - (365 * yearOfEra + yearOfEra / 4 - yearOfEra / 100)
  let monthFromMarch := (5 * dayOfYear + 2) / 153
  let day := dayOfYear - (153 * monthFromMarch + 2) / 5 + 1
  let month := if monthFromMarch < 10 then monthFromMarch + 3 else monthFromMarch - 9
  let y := z / 146097 * 400 + yearOfEra
  ⟨if month ≤ 2 then y + 1 else y, month, day⟩

end CivilDate

/-! ## Written instants -/

/-- Date and time of day of an instant in UTC; `second` is 60 in a leap second. -/
structure CivilTime where
  date : CivilDate
  hour : Nat
  minute : Nat
  second : Nat
  nano : Nat

namespace Instant

def civil (t : Instant) : CivilTime :=
  let secondOfDay := (t.second % 86400).toNat
  { date := CivilDate.ofDayNumber (t.second / 86400)
    hour := secondOfDay / 3600
    minute := secondOfDay / 60 % 60
    second := secondOfDay % 60 + t.nano / giga
    nano := t.nano % giga }

end Instant

namespace CivilTime

def yearText (y : Int) : List Char :=
  if 0 ≤ y ∧ y ≤ 9999 then Text.padded 4 y.natAbs
  else (if y < 0 then '-' else '+') :: Text.padded 4 y.natAbs

def dateText (t : CivilTime) : List Char :=
  yearText t.date.year ++ '-' :: Text.padded 2 t.date.month ++ '-' :: Text.padded 2 t.date.day

def clockText (t : CivilTime) : List Char :=
  Text.padded 2 t.hour ++ ':' :: Text.padded 2 t.minute ++ ':' :: Text.padded 2 t.second

/-- No digits, or a point and the least of three, six or nine digits that is exact. -/
def fractionText (t : CivilTime) : List Char :=
  if t.nano = 0 then []
  else if t.nano % 1000000 = 0 then '.' :: Text.padded 3 (t.nano / 1000000)
  else if t.nano % 1000 = 0 then '.' :: Text.padded 6 (t.nano / 1000)
  else '.' :: Text.padded 9 t.nano

end CivilTime

namespace Instant

def text (t : Instant) : String :=
  let c := t.civil
  String.ofList (c.dateText ++ 'T' :: c.clockText ++ c.fractionText ++ ['Z'])

def wholeSecondText (t : Instant) : String :=
  let c := t.civil
  String.ofList (c.dateText ++ 'T' :: c.clockText ++ ['Z'])

def display (t : Instant) : String :=
  let c := t.civil
  String.ofList (c.dateText ++ ' ' :: c.clockText ++ c.fractionText) ++ " UTC"

end Instant

end CarbonIntensity
