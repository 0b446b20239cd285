import CarbonIntensity.Series.Basic

/-!
# The mean over a period

The samples have to form a chain: each one starts where the one before it ends, forwards or backwards
in time. The direction is that of the first two samples. The mean adds in the order of time whatever
the direction, so that a series and its reverse have the same mean. The period must lie inside the
data; a period of one instant has the rating of the sample there, and no samples have the mean zero.
-/

namespace CarbonIntensity.Series

/-- The series runs backwards in time, by its first two samples. -/
def runsBackwards : List Sample → Bool
  | a :: b :: _ => b.start < a.start
  | _ => false

/-- The first two neighbours that do not touch. -/
def firstGap? (backwards : Bool) : List Sample → Option (Sample × Sample)
  | a :: b :: rest =>
    let touch := if backwards then b.finish = a.start else b.start = a.finish
    if touch then firstGap? backwards (b :: rest) else some (a, b)
  | _ => none

/-- From the start of a chain to its end, the chain given in the order of time. -/
def extent (first : Sample) (rest : List Sample) : Period :=
  ⟨first.start, ((first :: rest).getLast (List.cons_ne_nil _ _)).finish⟩

/-- The period has a part or an instant in the data and does not reach out of it. -/
def isInside (p data : Period) : Bool :=
  data.start ≤ p.start && p.stop ≤ data.stop && p.start ≤ p.stop && p.start < data.stop

/-- The mean over a period of a chain that is given in the order of time. -/
def chainMean (p : Period) : List Sample → Except SeriesFault Float
  | [] => .ok 0.0
  | first :: rest =>
    let data := extent first rest
    if isInside p data then
      if p.start = p.stop then
        match (first :: rest).find? (·.covers p.start) with
        | some s => .ok s.rating
        | none => .ok 0.0
      else
        .ok (Weight.periodMean (Float.ofInt p.length.wholeMillis)
          ((first :: rest).map (Weight.ofSample p)))
    else .error (.outsideData p data)

def mean (p : Period) (series : List Sample) : Except SeriesFault Float :=
  if series.isEmpty then .ok 0.0
  else
    match series.find? (·.duration ≤ Span.zero) with
    | some s => .error (.emptySample s)
    | none =>
      let backwards := runsBackwards series
      match firstGap? backwards series with
      | some (a, b) => .error (.gap ⟨a.start, a.finish⟩ ⟨b.start, b.finish⟩)
      | none => chainMean p (if backwards then series.reverse else series)

end CarbonIntensity.Series
