import CarbonIntensity.Number.Basic
import CarbonIntensity.Text.Basic

/-!
# Decimal numerals

A numeral is a sign, digits before and after the point, and an exponent. Two readings to a float are
given:

* `Numeral.nearest` is the float nearest to the exact value, infinite where that is too large;
* `Numeral.accumulated?` reads the digits into a 64-bit significand `n`, drops the digits that do not
  fit, and multiplies or divides by a power of ten: `n · 10^e` or `n / 10^-e` in floats. It differs
  from the nearest float by a few units in the last place, and fails where the result is infinite.

`Numeral.int64?` reads numerals without point and exponent.
-/

namespace CarbonIntensity

structure Numeral where
  negative : Bool
  whole : List Char
  /-- The digits after the point, if there is a point. -/
  fraction : Option (List Char)
  /-- Sign and digits of the exponent, if there is one. -/
  exponent : Option (Bool × List Char)
deriving DecidableEq, Inhabited

namespace Numeral

def isWhole (n : Numeral) : Bool := n.fraction.isNone && n.exponent.isNone

def applySign (n : Numeral) (x : Float) : Float := if n.negative then -x else x

/-- The value of the exponent; zero if there is none. -/
def exponentValue (n : Numeral) : Int :=
  match n.exponent with
  | none => 0
  | some (negative, ds) => if negative then -(Text.natOfDigits ds : Int) else Text.natOfDigits ds

/-! ## Nearest float -/

/-- The power of ten `10^k` for `k ≤ 308`. -/
def powerOfTen (k : Nat) : Float := Float.ofScientific 1 false k

def infinity : Float := 1.0 / 0.0

/-- The float nearest to `m · 10^e`. Values of more than 310 digits before the point are infinite and
those below `10^-330` are zero, whatever their digits. -/
def nearestScaled (m : Nat) (e : Int) : Float :=
  let size := (Text.digits m).length + e
  if m = 0 then 0.0
  else if 310 < size then infinity
  else if size < -330 then 0.0
  else Float.ofScientific m (decide (e < 0)) e.natAbs

def nearest (n : Numeral) : Float :=
  let part := n.fraction.getD []
  n.applySign (nearestScaled (Text.natOfDigits (n.whole ++ part)) (n.exponentValue - part.length))

/-! ## Accumulated float -/

/-- The largest significand. -/
def significandLimit : Nat := twoTo 64 - 1

/-- Takes in digits while the significand fits; gives the significand and the digits left over. -/
def accumulate (acc : Nat) : List Char → Nat × List Char
  | [] => (acc, [])
  | d :: ds =>
    let next := 10 * acc + Text.digitValue d
    if significandLimit < next then (acc, d :: ds) else accumulate next ds

/-- `f · 10^e` by one multiplication or division, after steps of `10^308` for exponents below
`-308`; none if the result is infinite. -/
def scale? (f : Float) (e : Int) : Option Float :=
  if 308 < e then (if f == 0.0 then some f else none)
  else if 0 ≤ e then
    let r := f * powerOfTen e.toNat
    if r.isInf then none else some r
  else if -308 ≤ e then some (f / powerOfTen (-e).toNat)
  else if f == 0.0 then some f
  else scale? (f / powerOfTen 308) (e + 308)
termination_by (-e).toNat

/-- The largest exponent that is read digit by digit. -/
def exponentLimit : Nat := twoTo 31 - 1

/-- The nearest exponent in the range of a signed 32-bit number. -/
def clampExponent (e : Int) : Int :=
  if e < -(twoTo 31 : Int) then -(twoTo 31 : Int)
  else if (exponentLimit : Int) < e then exponentLimit
  else e

def accumulated? (n : Numeral) : Option Float :=
  let (significand, left) := accumulate 0 n.whole
  let (significand, taken) :=
    match n.fraction with
    | none => (significand, 0)
    | some ds =>
      let (s, rest) := accumulate significand ds
      (s, ds.length - rest.length)
  let start : Int := left.length - taken
  let magnitude? :=
    match n.exponent with
    | none => scale? significand.toUInt64.toFloat start
    | some (negative, ds) =>
      let e := Text.natOfDigits ds
      if exponentLimit < e then
        if significand ≠ 0 ∧ !negative then none else some 0.0
      else
        scale? significand.toUInt64.toFloat
          (clampExponent (if negative then start - e else start + e))
  magnitude?.map n.applySign

/-! ## Whole numbers -/

/-- The signed 64-bit number a whole numeral denotes; `-0` is not one. -/
def int64? (n : Numeral) : Option Int :=
  if n.isWhole then
    let v := Text.natOfDigits n.whole
    if n.negative then (if v ≠ 0 ∧ v ≤ twoTo 63 then some (-v) else none)
    else if v < twoTo 63 then some v else none
  else none

/-- The unsigned 64-bit number a whole numeral denotes; `-0` is not one. -/
def uint64? (n : Numeral) : Option Nat :=
  if n.isWhole ∧ !n.negative then
    let v := Text.natOfDigits n.whole
    if v < twoTo 64 then some v else none
  else none

/-! ## Text -/

/-- An exponent mark, an optional sign and at least one digit, or nothing; `none` if malformed. -/
def exponentOfText? : List Char → Option (Option (Bool × List Char))
  | [] => some none
  | c :: cs =>
    if c = 'e' || c = 'E' then
      let (negative, ds) := match cs with
        | '-' :: r => (true, r)
        | '+' :: r => (false, r)
        | r => (false, r)
      if !ds.isEmpty && ds.all Char.isDigit then some (some (negative, ds)) else none
    else none

/-- The float a text denotes: a sign or none, then `inf`, `infinity` or `nan` in any case, or digits
with an optional point somewhere among them and an optional exponent. -/
def floatOfText? (s : String) : Option Float :=
  let (negative, cs) := match s.toList with
    | '-' :: r => (true, r)
    | '+' :: r => (false, r)
    | r => (false, r)
  let signed (x : Float) := if negative then -x else x
  let word := cs.map Char.toLower
  if word = "inf".toList ∨ word = "infinity".toList then some (signed infinity)
  else if word = "nan".toList then some (signed (0.0 / 0.0))
  else
    let (whole, rest) := Text.spanDigits cs
    let (fraction, rest) := match rest with
      | '.' :: r => let (ds, r) := Text.spanDigits r; (some ds, r)
      | r => (none, r)
    if whole.isEmpty && (fraction.getD []).isEmpty then none
    else (exponentOfText? rest).map fun e => nearest ⟨negative, whole, fraction, e⟩

end Numeral

end CarbonIntensity
