import CarbonIntensity.Number.Dyadic
import CarbonIntensity.Text.Basic

/-!
# Written floats

The decimal `c · 10^s` written for `m · 2^q` is the one with the largest `s`, hence the fewest
digits, that lies in the interval of reals which round to that float. Its ends are halfway to the
two neighbouring floats and belong to it exactly if `m` is even. Of two such decimals the nearer one
is taken, and a choice of two equally near ones is left to the caller.

These digits are laid out by a `Layout`: between which decimal exponents the notation is positional,
whether a whole number keeps a point and a zero, what a half-way choice of digits does, and how values
that are no finite numbers are written.

* `Layout.plain` is the form of messages, keys and queries: always positional, `37`, `-0`, `inf`.
* `Layout.wire` is the form of JSON: `37.0`, `1e+16`, `1.5e-7`; infinities and no number are `null`.

## Algorithm

All quantities are multiplied by a common denominator, so that only natural numbers are compared.
For a grid of step `10^s` the two grid points next to the value are tested, since if any grid point
lies in the interval then so does one of these; `s` goes down from an estimate above the value.
-/

namespace CarbonIntensity

/-! ## Shortest digits -/

namespace Shortest

/-- The interval `(low, high)` around `value`, all three over the same denominator. -/
structure Neighbourhood where
  low : Nat
  value : Nat
  high : Nat
  denominator : Nat
  closed : Bool

/-- The reals that round to `m · 2^q`. Below a power of two the floats lie twice as dense. -/
def neighbourhood (m : Nat) (q : Int) : Neighbourhood :=
  let below := if m = twoTo 52 ∧ -1074 < q then 1 else 2
  let scale := if 2 ≤ q then twoTo (q - 2).toNat else 1
  { low := (4 * m - below) * scale
    value := 4 * m * scale
    high := (4 * m + 2) * scale
    denominator := if 2 ≤ q then 1 else twoTo (2 - q).toNat
    closed := m % 2 == 0 }

/-- The multiple `c` of the step `10^s` in the interval that is nearest to the value, if any. -/
def onGrid (n : Neighbourhood) (s : Int) (tieToEven : Bool) : Option Nat :=
  let up := if s < 0 then tenTo (-s).toNat else 1
  let unit := n.denominator * (if s < 0 then 1 else tenTo s.toNat)
  let value := n.value * up
  let inside (c : Nat) : Bool :=
    let x := c * unit
    if n.closed then n.low * up ≤ x && x ≤ n.high * up else n.low * up < x && x < n.high * up
  let c := value / unit
  if inside c then
    if inside (c + 1) then
      let down := value - c * unit
      let rest := (c + 1) * unit - value
      if down < rest then some c
      else if rest < down then some (c + 1)
      else if tieToEven && c % 2 == 0 then some c
      else some (c + 1)
    else some c
  else if inside (c + 1) then some (c + 1)
  else none

/-- The first grid with a hit, from the step `10^s` downwards. -/
def search (n : Neighbourhood) (tieToEven : Bool) : Nat → Int → Nat × Int
  | 0, s => (n.value, s)
  | fuel + 1, s =>
    match onGrid n s tieToEven with
    | some c => (c, s)
    | none => search n tieToEven fuel (s - 1)

/-- An exponent `s` with `m · 2^q ≤ 10^s`, at most two too large. -/
def estimate (m : Nat) (q : Int) : Int := ((q + Nat.log2 m + 1) * 30103).fdiv 100000 + 1

/-- `(c, s)` with `c · 10^s` the shortest decimal of the positive float `m · 2^q`. Seventeen digits
always suffice, so twenty steps below the estimate do. -/
def decimal (m : Nat) (q : Int) (tieToEven : Bool) : Nat × Int :=
  search (neighbourhood m q) tieToEven 20 (estimate m q)

end Shortest

/-! ## Layouts -/

structure Layout where
  /-- Decimal exponents written positionally; none if all are. -/
  positional : Option (Int × Int)
  pointZero : Bool
  tieToEven : Bool
  nan : String
  infinity : String
  negativeInfinity : String

namespace Layout

def plain : Layout := ⟨none, false, false, "NaN", "inf", "-inf"⟩

def wire : Layout := ⟨some (-5, 15), true, true, "null", "null", "null"⟩

/-- Digits `ds` with the point after the first `point` of them, zeros filled in on either side. -/
def positionalText (l : Layout) (ds : List Char) (point : Int) : List Char :=
  if point ≤ 0 then '0' :: '.' :: List.replicate (-point).toNat '0' ++ ds
  else if ds.length ≤ point.toNat then
    ds ++ List.replicate (point.toNat - ds.length) '0' ++ (if l.pointZero then ['.', '0'] else [])
  else ds.take point.toNat ++ '.' :: ds.drop point.toNat

/-- One digit, the others after a point, and a signed exponent. -/
def scientificText (ds : List Char) (exponent : Int) : List Char :=
  let mantissa := match ds with
    | d :: d' :: rest => d :: '.' :: d' :: rest
    | ds => ds
  mantissa ++ 'e' :: (if exponent < 0 then '-' else '+') :: Text.digits exponent.natAbs

/-- The digits of `c · 10^s`. -/
def magnitudeText (l : Layout) (c : Nat) (s : Int) : List Char :=
  let ds := Text.digits c
  let point := ds.length + s
  match l.positional with
  | none => positionalText l ds point
  | some (low, high) =>
    if low ≤ point - 1 ∧ point - 1 ≤ high then positionalText l ds point
    else scientificText ds (point - 1)

def text (l : Layout) (x : Float) : String :=
  match Dyadic.ofFloat x with
  | .nan => l.nan
  | .infinite true => l.negativeInfinity
  | .infinite false => l.infinity
  | .finite negative m q =>
    let sign := if negative then "-" else ""
    if m = 0 then sign ++ (if l.pointZero then "0.0" else "0")
    else
      let (c, s) := Shortest.decimal m q l.tieToEven
      sign ++ String.ofList (magnitudeText l c s)

end Layout

/-- A float as messages, keys and queries show it. -/
def displayFloat (x : Float) : String := Layout.plain.text x

/-- A float as JSON texts hold it. -/
def wireFloat (x : Float) : String := Layout.wire.text x

end CarbonIntensity
