import CarbonIntensity.Number.Basic

/-!
# The value of a float

A finite binary64 number is `± m · 2^q` with natural `m < 2⁵³` and integer `q`, which is read off its
64 bits: sign, eleven bits of exponent and fifty-two of fraction. Rounding to whole numbers is done
on `m` and `q`, so that it is exact: halves go away from zero,

`roundHalfAway m q = m · 2^q` for `q ≥ 0`, and `⌊m / 2^(-q) + 1/2⌋` otherwise.
-/

namespace CarbonIntensity

/-- What the bits of a float denote. -/
inductive Dyadic where
  | nan
  | infinite (negative : Bool)
  | finite (negative : Bool) (m : Nat) (q : Int)
deriving DecidableEq, Inhabited

namespace Dyadic

def ofBits (b : Nat) : Dyadic :=
  let negative := decide (twoTo 63 ≤ b)
  let exponent : Nat := b / twoTo 52 % 2048
  let fraction : Nat := b % twoTo 52
  if exponent = 2047 then
    if fraction = 0 then infinite negative else nan
  else if exponent = 0 then finite negative fraction (-1074)
  else finite negative (twoTo 52 + fraction) ((exponent : Int) - 1075)

def ofFloat (x : Float) : Dyadic := ofBits x.toBits.toNat

/-- `m · 2^q` to the nearest natural number, a half upwards. -/
def roundHalfAway (m : Nat) (q : Int) : Nat :=
  if 0 ≤ q then m * twoTo q.toNat
  else (m + twoTo ((-q).toNat - 1)) / twoTo (-q).toNat

/-- The nearest whole number, halves away from zero; none for infinities and for no number. -/
def nearestInt? : Dyadic → Option Int
  | finite negative m q =>
    let n : Int := roundHalfAway m q
    some (if negative then -n else n)
  | _ => none

/-- The nearest signed 64-bit number, at the nearer end for a value outside; no number counts as
zero. -/
def nearestInt64 : Dyadic → Int
  | nan => 0
  | infinite negative => if negative then -(twoTo 63 : Int) else (twoTo 63 : Int) - 1
  | finite negative m q =>
    let n := roundHalfAway m q
    if negative then (if twoTo 63 ≤ n then -(twoTo 63 : Int) else -(n : Int))
    else if twoTo 63 ≤ n then (twoTo 63 : Int) - 1 else n

end Dyadic

end CarbonIntensity
