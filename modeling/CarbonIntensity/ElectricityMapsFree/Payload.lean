import CarbonIntensity.Json.Basic
import CarbonIntensity.Sample

/-!
# Payloads of the Electricity Maps free tier

The service reports the latest reading of a zone, which counts as a forecast of one sample that lasts
two hours.
-/

namespace CarbonIntensity.ElectricityMapsFree

structure Reading where
  time : Instant
  intensity : Float
  fossilPercentage : Option Float
deriving Inhabited

structure Latest where
  disclaimer : Option String
  status : Option String
  countryCode : String
  reading : Reading
  /-- The unit of the intensity; missing if no units were given. -/
  unit : Option String
deriving Inhabited

/-! ## JSON -/

def Reading.ofJson? (j : Json) : Option Reading := do
  match ← j.record? [["datetime"], ["carbonIntensity"], ["fossilFuelPercentage"]] with
  | [time, intensity, fossil] =>
    return {
      time := ← Json.required Json.instant? time
      intensity := ← Json.required Json.float? intensity
      fossilPercentage := ← Json.optional Json.float? fossil }
  | _ => none

def unitOfJson? (j : Json) : Option (Option String) := do
  match ← j.record? [["carbonIntensity"]] with
  | [unit] => Json.optional Json.text? unit
  | _ => none

def Latest.ofJson? (j : Json) : Option Latest := do
  match ← j.record? [["_disclaimer"], ["status"], ["countryCode"], ["data"], ["units"]] with
  | [disclaimer, status, countryCode, reading, units] =>
    return {
      disclaimer := ← Json.optional Json.text? disclaimer
      status := ← Json.optional Json.text? status
      countryCode := ← Json.withDefault "" Json.text? countryCode
      reading := ← Json.required Reading.ofJson? reading
      unit := (← Json.optional unitOfJson? units).join }
  | _ => none

/-! ## Forecast -/

/-- The sample stands at the reported zone, or at the location if none is reported. -/
def Latest.forecast (l : Latest) (location : String) : Forecast :=
  let zone := if l.countryCode.isEmpty then location else l.countryCode
  { location
    generatedAt := l.reading.time
    dataStart := some l.reading.time
    data := [⟨zone, l.reading.time, Span.minutes 120, l.reading.intensity⟩] }

end CarbonIntensity.ElectricityMapsFree
