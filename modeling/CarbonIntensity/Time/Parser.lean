import CarbonIntensity.Text.Basic
import CarbonIntensity.Time.Instant
import CarbonIntensity.Time.Text

/-!
# Reading instants

The relaxed grammar of date, time of day and offset:

`year - month - day (T | t | space) hour : minute : second [. digits] zone`

* blanks may stand before every number, before each `-` and `:` and before the zone, and at the end;
* the year is one to four digits, or a sign and any number of digits; all other numbers have one or
  two digits;
* digits of the fraction after the ninth are dropped; second 60 is a leap second;
* the zone is `Z`, `z`, `UTC` in any case, or a sign (`+`, `-` or U+2212), two digits of hours,
  any colons and blanks, and two digits of minutes.

The date must exist and be in range, and so must the instant in UTC.
-/

namespace CarbonIntensity.Time

/-- A reader takes a value off the front of the text. -/
abbrev Reader (α : Type) := List Char → Option (α × List Char)

/-- Up to `width` digits, at least one. -/
def digitsUpTo (width : Nat) : Reader Nat := fun cs =>
  match (cs.take width).takeWhile Char.isDigit with
  | [] => none
  | ds => some (Text.natOfDigits ds, cs.drop ds.length)

/-- Blanks and a number of one or two digits. -/
def twoDigits : Reader Nat := fun cs => digitsUpTo 2 (Text.dropBlanks cs)

/-- At least one digit. -/
def anyDigits : Reader Nat := fun cs =>
  match Text.spanDigits cs with
  | ([], _) => none
  | (ds, rest) => some (Text.natOfDigits ds, rest)

def year : Reader Int := fun cs =>
  match Text.dropBlanks cs with
  | '-' :: r => (anyDigits r).map fun (n, rest) => (-(n : Int), rest)
  | '+' :: r => (anyDigits r).map fun (n, rest) => ((n : Int), rest)
  | r => (digitsUpTo 4 r).map fun (n, rest) => ((n : Int), rest)

/-- Blanks and one given character. -/
def mark (c : Char) (cs : List Char) : Option (List Char) :=
  match Text.dropBlanks cs with
  | d :: rest => if d = c then some rest else none
  | [] => none

/-- The fraction of a second in nanoseconds, or zero where no point follows. -/
def fraction : Reader Nat
  | '.' :: cs =>
    match Text.spanDigits cs with
    | ([], _) => none
    | (ds, rest) =>
      let kept := ds.take 9
      some (Text.natOfDigits kept * tenTo (9 - kept.length), rest)
  | cs => some (0, cs)

/-- Seconds east of Greenwich of an offset given by sign, hours and minutes. -/
def signedOffset (negative : Bool) : Reader Int
  | h :: h' :: cs =>
    if h.isDigit && h'.isDigit then
      match cs.dropWhile (fun c => c == ':' || Text.isBlank c) with
      | m :: m' :: rest =>
        if m.isDigit && m'.isDigit then
          let hours := Text.natOfDigits [h, h']
          let minutes := Text.natOfDigits [m, m']
          if hours < 24 && minutes < 60 then
            let seconds : Int := hours * 3600 + minutes * 60
            some (if negative then -seconds else seconds, rest)
          else none
        else none
      | _ => none
    else none
  | _ => none

/-- The zone as seconds east of Greenwich. -/
def zone (cs : List Char) : Option (Int × List Char) :=
  match Text.dropBlanks cs with
  | [] => none
  | c :: rest =>
    if Text.sameIgnoringCase ((c :: rest).take 3) ['u', 't', 'c'] then some (0, rest.drop 2)
    else if c = 'Z' || c = 'z' then some (0, rest)
    else if c = '+' then signedOffset false rest
    else if c = '-' || c.toNat = 0x2212 then signedOffset true rest
    else none

/-- The instant of a local date and time of day, if both exist and it is in range. -/
def assemble (date : CivilDate) (hour minute second nano : Nat) (offset : Int) : Option Instant :=
  let firstDay := Instant.firstSecond / 86400
  let lastDay := Instant.lastSecond / 86400
  let leap := second = 60
  let s := (if leap then 59 else second)
  let n := (if leap then nano + Instant.giga else nano)
  let day := date.dayNumber
  let utc : Int := day * 86400 + hour * 3600 + minute * 60 + s - offset
  if date.isValid ∧ firstDay ≤ day ∧ day ≤ lastDay ∧ hour < 24 ∧ minute < 60 ∧ second ≤ 60 then
    if h : (Instant.firstSecond ≤ utc ∧ utc ≤ Instant.lastSecond) ∧ n < 2 * Instant.giga ∧
        (Instant.giga ≤ n → utc % 60 = 59) then
      some ⟨utc, n, h.1, h.2.1, h.2.2⟩
    else none
  else none

/-- Date, time of day and zone, with nothing but blanks after them. -/
def instant (cs : List Char) : Option Instant := do
  let (y, cs) ← year cs
  let cs ← mark '-' cs
  let (m, cs) ← twoDigits cs
  let cs ← mark '-' cs
  let (d, cs) ← twoDigits cs
  let cs ← match cs with
    | c :: rest => if c = 'T' || c = 't' || c = ' ' then some rest else none
    | [] => none
  let (hour, cs) ← twoDigits cs
  let cs ← mark ':' cs
  let (minute, cs) ← twoDigits cs
  let cs ← mark ':' cs
  let (second, cs) ← twoDigits cs
  let (nano, cs) ← fraction cs
  let (offset, cs) ← zone cs
  if cs.all Text.isBlank then assemble ⟨y, m, d⟩ hour minute second nano offset else none

end CarbonIntensity.Time

/-- The instant a text denotes. -/
def CarbonIntensity.Instant.parse? (s : String) : Option CarbonIntensity.Instant :=
  CarbonIntensity.Time.instant s.toList
