import CarbonIntensity.Number.Basic
import CarbonIntensity.Sample
import CarbonIntensity.Time.Text

/-!
# Series of samples

Averages need samples of positive length that follow each other without gap or overlap, and a period
inside the data; windows need a positive distance and a first window in range. What else can be is a
`SeriesFault`.

A weight is a rating and how many whole milliseconds it counts for. Sums of floats depend on their
order, so each mean says in which order it adds:

* `windowMean? ws = (0 + r₁·m₁ + … + rₙ·mₙ) / (m₁ + … + mₙ)`
* `periodMean total ws = r₁·m₁/total + … + rₙ·mₙ/total`

The milliseconds of a window are added up in 64 bits. Where they do not fit there is no mean, not even a
wrong one.

`clip` keeps the samples that have a part in a period and `optimum` those whose rating equals the least
one, in their order and unchanged. Ratings that are no numbers are not compared; if there are no others,
nothing is best.
-/

namespace CarbonIntensity

/-! ## Faults -/

inductive SeriesFault where
  | invalid (reason : String)
  /-- Two neighbouring samples that do not touch, in the order of the series. -/
  | gap (previous current : Period)
  | outsideData (asked data : Period)
  /-- Milliseconds that do not fit into 64 bits. Nobody reports this, the program stops at it. -/
  | overflow
deriving DecidableEq

namespace SeriesFault

/-- A sample that does not last gives no distance between windows. -/
def noTick (s : Sample) : SeriesFault :=
  invalid ("cannot derive a tick size from a sample of duration " ++
    Text.ofInt s.duration.wholeSeconds ++ "s at " ++ s.start.display)

def windowOutOfRange (size : Span) (start : Instant) : SeriesFault :=
  invalid ("a window of " ++ Text.ofInt size.wholeSeconds ++ "s starting at " ++ start.display ++
    " ends past the supported time range")

def emptySample (s : Sample) : SeriesFault :=
  invalid ("sample at " ++ s.start.display ++ " has a non-positive duration")

def message : SeriesFault → String
  | invalid reason => "Invalid series: " ++ reason
  | gap previous current =>
    "Data is not continuous: [" ++ previous.start.display ++ ", " ++ previous.stop.display ++
      ") does not abut [" ++ current.start.display ++ ", " ++ current.stop.display ++ ")"
  | outsideData asked data =>
    "Period [" ++ asked.start.display ++ ", " ++ asked.stop.display ++
      "] is outside the data range [" ++ data.start.display ++ ", " ++ data.stop.display ++ "]"
  | overflow => "attempt to add with overflow"

end SeriesFault

/-! ## Weights -/

structure Weight where
  rating : Float
  millis : Int

namespace Weight

/-- The rating of a sample for the time it has in a period. -/
def ofSample (p : Period) (s : Sample) : Weight := ⟨s.rating, (s.overlap p).wholeMillis⟩

def product (w : Weight) : Float := w.rating * Float.ofInt w.millis

/-- The sum of the milliseconds, if no sum on the way to it leaves 64 bits. -/
def totalMillis? (ws : List Weight) : Option Int :=
  ws.foldlM (fun total w => Integer.inWord? (total + w.millis)) 0

def windowMean? (ws : List Weight) : Option Float :=
  (totalMillis? ws).map fun total => ws.foldl (fun sum w => sum + w.product) 0.0 / Float.ofInt total

/-- The sum starts at minus zero, which leaves every first summand as it is. -/
def periodMean (total : Float) (ws : List Weight) : Float :=
  ws.foldl (fun sum w => sum + w.product / total) (-0.0)

end Weight

/-! ## Clipping -/

namespace Series

def clip (p : Period) (series : List Sample) : List Sample := series.filter (·.meets p)

theorem mem_clip {p : Period} {series : List Sample} {s : Sample} :
    s ∈ clip p series ↔ s ∈ series ∧ s.meets p = true := List.mem_filter

/-! ## The best samples -/

/-- The lesser of two floats, of which one that is no number does not count. -/
def lesser (a b : Float) : Float :=
  if a.isNaN then b
  else if b.isNaN then a
  else if b < a then b
  else a

def leastRating? : List Sample → Option Float
  | [] => none
  | first :: rest => some (rest.foldl (fun least s => lesser least s.rating) first.rating)

def optimum (series : List Sample) : List Sample :=
  match leastRating? series with
  | none => []
  | some least => series.filter (·.rating == least)

end Series

end CarbonIntensity
