import CarbonIntensity.Number.Dyadic
import CarbonIntensity.Text.Basic

/-!
# Spans of time

A span is a signed length of time, exact to the nanosecond, with
`|nanos| ≤ (2⁶³ - 1) · 10⁶`, that is `2⁶³ - 1` milliseconds. Whole seconds, milliseconds and
minutes are taken towards zero.
-/

namespace CarbonIntensity

/-- The longest span in nanoseconds. -/
def Span.limit : Int := 9223372036854775807000000

structure Span where
  nanos : Int
  inRange : -Span.limit ≤ nanos ∧ nanos ≤ Span.limit
deriving DecidableEq

namespace Span

/-- The span of so many nanoseconds, if it is not too long. -/
def ofNanos? (n : Int) : Option Span :=
  if h : -limit ≤ n ∧ n ≤ limit then some ⟨n, h⟩ else none

def ofMillis? (n : Int) : Option Span := ofNanos? (n * 1000000)

def ofSeconds? (n : Int) : Option Span := ofNanos? (n * 1000000000)

def ofMinutes? (n : Int) : Option Span := ofSeconds? (n * 60)

def zero : Span := ⟨0, by decide⟩

/-- The longest span. -/
def longest : Span := ⟨limit, by decide⟩

/-- So many minutes, or the longest span. -/
def minutes (n : Nat) : Span := (ofMinutes? n).getD longest

def neg (d : Span) : Span := ⟨-d.nanos, by have := d.inRange; unfold limit at *; omega⟩

def abs (d : Span) : Span := if d.nanos < 0 then d.neg else d

instance : Inhabited Span := ⟨zero⟩
instance : LE Span := ⟨fun a b => a.nanos ≤ b.nanos⟩
instance : LT Span := ⟨fun a b => a.nanos < b.nanos⟩
instance (a b : Span) : Decidable (a ≤ b) := inferInstanceAs (Decidable (a.nanos ≤ b.nanos))
instance (a b : Span) : Decidable (a < b) := inferInstanceAs (Decidable (a.nanos < b.nanos))

def wholeMillis (d : Span) : Int := d.nanos.tdiv 1000000

def wholeSeconds (d : Span) : Int := d.nanos.tdiv 1000000000

def wholeMinutes (d : Span) : Int := d.nanos.tdiv 60000000000

/-! ## Written form -/

/-- Nine digits of a fraction of a second without the zeros at the end. -/
def fractionDigits (nanos : Nat) : List Char :=
  ((Text.padded 9 nanos).reverse.dropWhile (· == '0')).reverse

/-- Seconds with as many fraction digits as needed, such as `300s` or `-0.5s`. -/
def text (d : Span) : String :=
  let whole := d.nanos.natAbs / 1000000000
  let part := d.nanos.natAbs % 1000000000
  let sign := if d.nanos < 0 then "-" else ""
  let fraction := if part = 0 then "" else "." ++ String.ofList (fractionDigits part)
  sign ++ Text.ofNat whole ++ fraction ++ "s"

/-- Reads seconds with up to nine fraction digits and a final `s`. -/
def parse? (s : String) : Option Span :=
  let (negative, cs) := match s.toList with
    | '-' :: r => (true, r)
    | cs => (false, cs)
  let (whole, rest) := Text.spanDigits cs
  let signed (n : Nat) : Int := if negative then -(n : Int) else n
  match whole, rest with
  | [], _ => none
  | _, ['s'] => ofSeconds? (signed (Text.natOfDigits whole))
  | _, '.' :: rest =>
    match Text.spanDigits rest with
    | ([], _) => none
    | (part, ['s']) =>
      if part.length ≤ 9 then
        ofNanos? (signed (Text.natOfDigits whole * 1000000000 +
          Text.natOfDigits part * tenTo (9 - part.length)))
      else none
    | _ => none
  | _, _ => none

/-- The whole milliseconds over 60000, the wire form of a span. -/
def toMinutes (d : Span) : Float := Float.ofInt d.wholeMillis / 60000.0

/-- The span of a number of minutes, to the nearest millisecond, halves away from zero; none for numbers
that are not finite. -/
def ofFloatMinutes? (minutes : Float) : Option Span :=
  match (Dyadic.ofFloat (minutes * 60000.0)).nearestInt? with
  | some millis => ofMillis? millis
  | none => none

/-! ## Lemmas -/

theorem le_def {a b : Span} : a ≤ b ↔ a.nanos ≤ b.nanos := Iff.rfl

theorem lt_def {a b : Span} : a < b ↔ a.nanos < b.nanos := Iff.rfl

@[simp] theorem nanos_zero : zero.nanos = 0 := rfl

@[simp] theorem nanos_neg (d : Span) : d.neg.nanos = -d.nanos := rfl

theorem ofNanos?_eq_some {n : Int} {d : Span} (h : ofNanos? n = some d) : d.nanos = n := by
  unfold ofNanos? at h
  split at h
  · cases h; rfl
  · cases h

theorem ofNanos?_nanos (d : Span) : ofNanos? d.nanos = some d := by
  simp [ofNanos?, d.inRange]

end Span

end CarbonIntensity
