import CarbonIntensity.Failure
import CarbonIntensity.Json.Basic
import CarbonIntensity.Sample
import CarbonIntensity.Settings.Services

/-!
# WattTime payloads

Points give marginal emissions in pounds per megawatt hour. The samples of a history last as long as
their own frequency says; those of a forecast, and those without a frequency, last as long as the first
two points lie apart.
-/

namespace CarbonIntensity.WattTime

/-- Pounds per megawatt hour in grams per kilowatt hour. -/
def gramsPerKilowattHour (poundsPerMegawattHour : Float) : Float :=
  poundsPerMegawattHour * 453.59237 / 1000.0

structure DataPoint where
  time : Instant
  value : Float
  /-- Seconds that the point stands for. -/
  frequency : Option Int
deriving DecidableEq, Inhabited

def DataPoint.sample (location : String) (duration : Span) (p : DataPoint) : Sample :=
  ⟨location, p.time, duration, gramsPerKilowattHour p.value⟩

structure Meta where
  region : String := ""
  signalType : Option String := none
  generatedAt : Option Instant := none
deriving DecidableEq, Inhabited

structure GridData where
  points : List DataPoint
  info : Meta
deriving DecidableEq, Inhabited

structure Snapshot where
  generatedAt : Instant
  points : List DataPoint
deriving DecidableEq, Inhabited

structure Snapshots where
  list : List Snapshot
  info : Meta
deriving DecidableEq, Inhabited

structure Region where
  region : String
  fullName : String
deriving DecidableEq, Inhabited

/-! ## JSON -/

/-- The token of an answer to a login. -/
def loginToken? (j : Json) : Option (Option String) := do
  match ← j.record? [["token"]] with
  | [token] => Json.optional Json.text? token
  | _ => none

def DataPoint.ofJson? (j : Json) : Option DataPoint := do
  match ← j.record? [["point_time"], ["value"], ["frequency"]] with
  | [time, value, frequency] =>
    return {
      time := ← Json.required Json.instant? time
      value := ← Json.required Json.float? value
      frequency := ← Json.optional Json.int64? frequency }
  | _ => none

def Meta.ofJson? (j : Json) : Option Meta := do
  match ← j.record? [["region"], ["signal_type"], ["generated_at"]] with
  | [region, signalType, generatedAt] =>
    return {
      region := ← Json.withDefault "" Json.text? region
      signalType := ← Json.optional Json.text? signalType
      generatedAt := ← Json.optional Json.instant? generatedAt }
  | _ => none

def GridData.ofJson? (j : Json) : Option GridData := do
  match ← j.record? [["data"], ["meta"]] with
  | [points, info] =>
    return {
      points := ← Json.withDefault [] (Json.list? DataPoint.ofJson?) points
      info := ← Json.withDefault {} Meta.ofJson? info }
  | _ => none

def Snapshot.ofJson? (j : Json) : Option Snapshot := do
  match ← j.record? [["generated_at"], ["forecast"]] with
  | [generatedAt, points] =>
    return {
      generatedAt := ← Json.required Json.instant? generatedAt
      points := ← Json.withDefault [] (Json.list? DataPoint.ofJson?) points }
  | _ => none

def Snapshots.ofJson? (j : Json) : Option Snapshots := do
  match ← j.record? [["data"], ["meta"]] with
  | [list, info] =>
    return {
      list := ← Json.withDefault [] (Json.list? Snapshot.ofJson?) list
      info := ← Json.withDefault {} Meta.ofJson? info }
  | _ => none

def Region.ofJson? (j : Json) : Option Region := do
  match ← j.record? [["region"], ["region_full_name"]] with
  | [region, fullName] =>
    return {
      region := ← Json.required Json.text? region
      fullName := ← Json.withDefault "" Json.text? fullName }
  | _ => none

/-! ## Samples -/

/-- How far the first two points lie apart. -/
def spacing? : List DataPoint → Option Span
  | first :: second :: _ => some (first.time.since second.time).abs
  | _ => none

/-- The length of a point that says its own frequency, if that is a span. -/
def DataPoint.ownDuration? (p : DataPoint) : Option Span := p.frequency.bind Span.ofSeconds?

def GridData.history (d : GridData) (location : String) : List Sample :=
  let fallback := (spacing? d.points).getD Span.zero
  d.points.map fun p => p.sample location (p.ownDuration?.getD fallback)

/-- The samples of a forecast, which needs two points at least. -/
def forecastSamples (points : List DataPoint) (location : String) : Except Failure (List Sample) :=
  match spacing? points with
  | some duration => .ok (points.map (DataPoint.sample location duration))
  | none =>
    .error (.malformedResponse providerName
      ("forecast has " ++ Text.ofNat points.length ++ " point(s), at least 2 are required"))

def GridData.forecast (d : GridData) (location : String) : Except Failure Forecast :=
  match d.info.generatedAt with
  | none => .error (.malformedResponse providerName "forecast is missing meta.generated_at")
  | some generatedAt => do
    return { location, generatedAt, data := ← forecastSamples d.points location }

def Snapshot.forecast (s : Snapshot) (location : String) : Except Failure Forecast := do
  return { location, generatedAt := s.generatedAt, data := ← forecastSamples s.points location }

end CarbonIntensity.WattTime
