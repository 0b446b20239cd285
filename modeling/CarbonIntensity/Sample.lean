import CarbonIntensity.Json.Document
import CarbonIntensity.Time.Instant
import CarbonIntensity.Time.Span

/-!
# Samples and forecasts

A sample says how carbon-intensive electricity was at a location during the half-open interval
`[start, start + duration)`; its rating is in grams of carbon dioxide per kilowatt hour. Where the
end of the interval is out of range it stands at the first or the last instant.

A forecast holds the samples a provider foresees for a location, with what is known of their making: when
they were generated, for which instant they were asked, and, once they have been put into windows, the
part of the time they cover, the size of the windows and the best of them.

In JSON spans are numbers of minutes, zero if they are left out, and times that are not known are left
out.
-/

namespace CarbonIntensity

structure Sample where
  location : String
  start : Instant
  duration : Span
  rating : Float
deriving Inhabited

namespace Sample

/-- The end of the interval, if it is in range. -/
def finish? (s : Sample) : Option Instant := s.start.add? s.duration

def finish (s : Sample) : Instant :=
  s.finish?.getD (if s.duration < Span.zero then Instant.earliest else Instant.latest)

/-- The interval contains the instant. -/
def covers (s : Sample) (t : Instant) : Bool := s.start ≤ t && t < s.finish

/-- The interval has a part in the period; a period of one instant has to be contained. -/
def meets (s : Sample) (p : Period) : Bool :=
  if p.start = p.stop then s.covers p.start else s.start < p.stop && p.start < s.finish

/-- How long the interval and the period last together. -/
def overlap (s : Sample) (p : Period) : Span :=
  let start := max s.start p.start
  let stop := min s.finish p.stop
  if start < stop then stop.since start else Span.zero

end Sample

/-! ## Forecasts -/

structure Forecast where
  location : String
  generatedAt : Instant
  requestedAt : Option Instant := none
  dataStart : Option Instant := none
  dataStop : Option Instant := none
  windowSize : Span := Span.zero
  data : List Sample
  optimal : List Sample := []
deriving Inhabited

/-! ## JSON -/

/-- A number of minutes. -/
def Span.ofJson? (j : Json) : Option Span := j.float?.bind Span.ofFloatMinutes?

namespace Sample

def document (s : Sample) : Document :=
  .object
    [("location", .string s.location), ("time", .instant s.start),
      ("duration", .float s.duration.toMinutes), ("rating", .float s.rating)]

def ofJson? (j : Json) : Option Sample := do
  match ← j.record? [["location"], ["time"], ["duration"], ["rating"]] with
  | [location, time, duration, rating] =>
    return {
      location := ← Json.required Json.text? location
      start := ← Json.required Json.instant? time
      duration := ← Json.withDefault Span.zero Span.ofJson? duration
      rating := ← Json.required Json.float? rating }
  | _ => none

end Sample

namespace Forecast

def document (f : Forecast) : Document :=
  let time (name : String) (t : Option Instant) : List (String × Document) :=
    t.toList.map fun t => (name, .instant t)
  .object
    ([("location", .string f.location), ("generatedAt", .instant f.generatedAt)] ++
      time "requestedAt" f.requestedAt ++ time "dataStartAt" f.dataStart ++
      time "dataEndAt" f.dataStop ++
      [("windowSize", .float f.windowSize.toMinutes),
        ("forecastData", .array (f.data.map Sample.document)),
        ("optimalDataPoints", .array (f.optimal.map Sample.document))])

def fieldNames : List (List String) :=
  [["location"], ["generatedAt"], ["requestedAt"], ["dataStartAt"], ["dataEndAt"], ["windowSize"],
    ["forecastData"], ["optimalDataPoints"]]

def ofJson? (j : Json) : Option Forecast := do
  match ← j.record? fieldNames with
  | [location, generatedAt, requestedAt, dataStart, dataStop, windowSize, data, optimal] =>
    return {
      location := ← Json.required Json.text? location
      generatedAt := ← Json.required Json.instant? generatedAt
      requestedAt := ← Json.optional Json.instant? requestedAt
      dataStart := ← Json.optional Json.instant? dataStart
      dataStop := ← Json.optional Json.instant? dataStop
      windowSize := ← Json.withDefault Span.zero Span.ofJson? windowSize
      data := ← Json.withDefault [] (Json.list? Sample.ofJson?) data
      optimal := ← Json.withDefault [] (Json.list? Sample.ofJson?) optimal }
  | _ => none

end Forecast

end CarbonIntensity
