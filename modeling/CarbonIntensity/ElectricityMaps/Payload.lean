import CarbonIntensity.Json.Basic
import CarbonIntensity.Sample

/-!
# Electricity Maps payloads

Points give grams per kilowatt hour. They all last as long as the first two lie apart, or an hour if
there are fewer.
-/

namespace CarbonIntensity.ElectricityMaps

structure HistoryPoint where
  intensity : Float
  time : Instant
  updatedAt : Option Instant
  isEstimated : Option Bool
  factor : Option String
deriving DecidableEq, Inhabited

structure History where
  zone : String
  points : List HistoryPoint
deriving DecidableEq, Inhabited

structure ForecastPoint where
  intensity : Float
  time : Instant
deriving DecidableEq, Inhabited

structure ForecastAnswer where
  zone : String
  points : List ForecastPoint
  updatedAt : Instant
deriving DecidableEq, Inhabited

/-! ## JSON -/

def HistoryPoint.ofJson? (j : Json) : Option HistoryPoint := do
  match ← j.record?
      [["carbonIntensity"], ["datetime"], ["updatedAt"], ["isEstimated"],
        ["emissionFactorType"]] with
  | [intensity, time, updatedAt, isEstimated, factor] =>
    return {
      intensity := ← Json.required Json.float? intensity
      time := ← Json.required Json.instant? time
      updatedAt := ← Json.optional Json.instant? updatedAt
      isEstimated := ← Json.optional Json.bool? isEstimated
      factor := ← Json.optional Json.text? factor }
  | _ => none

/-- A zone and its points, which stand in the field `field`. -/
def History.ofJson? (field : String) (j : Json) : Option History := do
  match ← j.record? [["zone"], [field]] with
  | [zone, points] =>
    return {
      zone := ← Json.withDefault "" Json.text? zone
      points := ← Json.withDefault [] (Json.list? HistoryPoint.ofJson?) points }
  | _ => none

/-- The answer about the last day. -/
def History.ofRecent? : Json → Option History := History.ofJson? "history"

/-- The answer about a period in the past. -/
def History.ofPastRange? : Json → Option History := History.ofJson? "data"

def ForecastPoint.ofJson? (j : Json) : Option ForecastPoint := do
  match ← j.record? [["carbonIntensity"], ["datetime"]] with
  | [intensity, time] =>
    return {
      intensity := ← Json.required Json.float? intensity
      time := ← Json.required Json.instant? time }
  | _ => none

def ForecastAnswer.ofJson? (j : Json) : Option ForecastAnswer := do
  match ← j.record? [["zone"], ["forecast"], ["updatedAt"]] with
  | [zone, points, updatedAt] =>
    return {
      zone := ← Json.withDefault "" Json.text? zone
      points := ← Json.withDefault [] (Json.list? ForecastPoint.ofJson?) points
      updatedAt := ← Json.required Json.instant? updatedAt }
  | _ => none

/-! ## Samples -/

/-- How far the first two instants lie apart, or an hour. -/
def spacing : List Instant → Span
  | first :: second :: _ => (first.since second).abs
  | _ => Span.minutes 60

def History.samples (h : History) (location : String) : List Sample :=
  let duration := spacing (h.points.map (·.time))
  h.points.map fun p => ⟨location, p.time, duration, p.intensity⟩

def ForecastAnswer.forecast (a : ForecastAnswer) (location : String) : Forecast :=
  let duration := spacing (a.points.map (·.time))
  { location
    generatedAt := a.updatedAt
    data := a.points.map fun p => ⟨location, p.time, duration, p.intensity⟩ }

end CarbonIntensity.ElectricityMaps
