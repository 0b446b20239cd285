import CarbonIntensity.Files
import CarbonIntensity.Json.Parser
import CarbonIntensity.Provider.Basic
import CarbonIntensity.Sample
import CarbonIntensity.Series.Basic

/-!
# The provider over a data file

Samples and forecasts that stand in a JSON file. A history is taken from the samples of the location
that start within a day of the period.
-/

namespace CarbonIntensity

structure DataFile where
  emissions : List Sample
  forecasts : List Forecast
deriving Inhabited

namespace DataFile

def providerName : String := "JsonDataSource"

def ofJson? (j : Json) : Option DataFile := do
  match ← j.record? [["emissions"], ["forecasts"]] with
  | [emissions, forecasts] =>
    return {
      emissions := ← Json.withDefault [] (Json.list? Sample.ofJson?) emissions
      forecasts := ← Json.withDefault [] (Json.list? Forecast.ofJson?) forecasts }
  | _ => none

def parse (text : String) : Except Failure DataFile :=
  match Json.decode ofJson? text with
  | .ok file => .ok file
  | .error trouble =>
    .error (.malformedResponse providerName ("invalid data file: " ++ trouble.message))

def load (files : Files) (path : String) : Except Failure DataFile :=
  match files path with
  | .error trouble =>
    .error (.configuration providerName ("cannot read " ++ path ++ ": " ++ trouble.message))
  | .ok text => parse text

def history (d : DataFile) (location : String) (p : Period) : List Sample :=
  let wide := p.widen (Span.minutes 1440)
  Series.clip p (d.emissions.filter fun s => s.location == location && wide.holds s.start)

def forecast? (d : DataFile) (location : String) : Option Forecast :=
  d.forecasts.find? (·.location == location)

def provider {σ : Type} (d : DataFile) : Provider σ where
  name := providerName
  history location p := pure (d.history location p)
  currentForecast location :=
    match d.forecast? location with
    | some f => pure f
    | none => Work.fail (.nullPayload providerName ("forecast for " ++ location))
  forecastAsOf _ _ := Work.fail (.unsupported providerName "historical forecasts")
  region place := pure place.text

end DataFile

end CarbonIntensity
