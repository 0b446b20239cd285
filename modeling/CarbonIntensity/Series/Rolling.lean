import CarbonIntensity.Series.Basic

/-!
# Rolling windows

A series is resampled into windows of one size that start at `t`, `t + tick`, `t + 2·tick`, …, where
`t` is the asked start but not before the first sample. A window is kept while it stops neither after
the asked end nor after the end of the data, and left out if no sample has a whole millisecond in it.
Its rating is the mean of the ratings weighted by the time they have in the window. Milliseconds that do
not fit into 64 bits end the whole of it, whatever the other windows are.

## Algorithm

Samples are put in the order of time first, those of equal time as they come. The grid of windows is
a list of its own; a positive tick moves the start forward in the order of instants, so that the grid
is finite.
-/

namespace CarbonIntensity.Series

/-- The windows of the grid that start at `start` or later and stop by `limit`. -/
def grid (size tick : Span) (forward : Span.zero < tick) (limit start : Instant) : List Period :=
  match start.add? size with
  | none => []
  | some stop =>
    if stop ≤ limit then
      match _h : start.add? tick with
      | none => [⟨start, stop⟩]
      | some next => ⟨start, stop⟩ :: grid size tick forward limit next
    else []
termination_by (Instant.latest.rank + 2 * (Instant.giga : Int) - start.rank).toNat
decreasing_by
  have hlt := Instant.rank_lt_of_add? forward _h
  have := start.inRange
  have := start.nano_lt
  unfold Instant.rank Instant.latest Instant.lastSecond Instant.giga at *
  simp only at *
  omega

/-- The samples with a whole millisecond in the window. -/
def inside (ordered : List Sample) (p : Period) : List Sample :=
  ordered.filter fun s => 0 < (s.overlap p).wholeMillis

/-- The mean of the samples inside the window, placed where the last of them is; none if there is none
of them. -/
def window (ordered : List Sample) (p : Period) : Except SeriesFault (Option Sample) :=
  match (inside ordered p).getLast? with
  | none => .ok none
  | some last =>
    match Weight.windowMean? ((inside ordered p).map (Weight.ofSample p)) with
    | none => .error .overflow
    | some rating => .ok (some ⟨last.location, p.start, p.length, rating⟩)

/-- The order of time. -/
def chronological (series : List Sample) : List Sample :=
  series.mergeSort fun a b => a.start ≤ b.start

/-- Where and how far apart windows are wanted. -/
structure Windows where
  size : Span
  start : Option Instant
  stop : Option Instant
  tick : Option Span

namespace Windows

/-- The distance between windows, by default the length of the first sample. -/
def stride (w : Windows) (first : Sample) : Span :=
  match w.tick with
  | some tick => if Span.zero < tick then tick else first.duration
  | none => first.duration

/-- The start of the first window. -/
def origin (w : Windows) (first : Sample) : Instant :=
  match w.start with
  | some start => max start first.start
  | none => first.start

/-- The instant after which no window stops. -/
def limit (w : Windows) (first : Sample) (rest : List Sample) : Instant :=
  let dataStop := rest.foldl (fun t s => max t s.finish) first.finish
  match w.stop with
  | some stop => min stop dataStop
  | none => dataStop

end Windows

/-- The series in windows; a size that is not positive leaves it as it is. -/
def rolling (w : Windows) (series : List Sample) : Except SeriesFault (List Sample) :=
  if w.size ≤ Span.zero then .ok series
  else
    match chronological series with
    | [] => .ok []
    | first :: rest =>
      if forward : Span.zero < w.stride first then
        match (w.origin first).add? w.size with
        | none => .error (.windowOutOfRange w.size (w.origin first))
        | some _ =>
          (grid w.size (w.stride first) forward (w.limit first rest) (w.origin first)).filterMapM
            (window (first :: rest))
      else .error (.noTick first)

end CarbonIntensity.Series
