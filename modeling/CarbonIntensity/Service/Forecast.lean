import CarbonIntensity.Series.Basic
import CarbonIntensity.Series.Rolling
import CarbonIntensity.Service.Emissions

/-!
# Queries for forecasts

A forecast is clipped to the asked period, put into windows of the asked size, and the best windows are
picked. The period must lie inside the horizon of the forecast, which runs from the start of its first
sample to the end of its last one; a forecast without samples has no horizon and is only annotated.
-/

namespace CarbonIntensity

structure ForecastService (σ : Type) where
  provider : Provider σ
  names : DisplayNames

namespace ForecastService

variable {σ : Type}

def currentValidator (s : ForecastService σ) : Validator :=
  (Validator.usual.require [.locations]).withNames s.names

def pastValidator (s : ForecastService σ) : Validator :=
  (Validator.usual.require [.location, .requested]).withNames s.names

/-- From the start of the first sample to the end of the last one. -/
def horizon? (data : List Sample) : Option Period :=
  match data.head?, data.getLast? with
  | some first, some last => some ⟨first.start, last.finish⟩
  | _, _ => none

/-- What is reported about a period that is not in order or not inside the horizon. -/
def rangeFindings (names : DisplayNames) (asked horizon : Period) : List (String × String) :=
  let start := names.name .start
  let stop := names.name .stop
  let outside (name : String) : String × String :=
    (name, name ++ " must be within the forecast data range " ++ horizon.start.display ++ " to " ++
      horizon.stop.display)
  (if asked.stop ≤ asked.start then [(start, start ++ " must be before " ++ stop)] else []) ++
    (if horizon.holds asked.start then [] else [outside start]) ++
    (if horizon.holds asked.stop then [] else [outside stop])

/-- The forecast clipped, in windows, and with its best windows. -/
def process (names : DisplayNames) (p : Parameters) (f : Forecast) : Except Fault Forecast :=
  match horizon? f.data with
  | none =>
    .ok { f with dataStart := p.start, dataStop := p.stop, windowSize := Span.zero, optimal := [] }
  | some horizon =>
    let asked : Period := ⟨p.startOr horizon.start, p.stopOr horizon.stop⟩
    let findings := rangeFindings names asked horizon
    if findings.isEmpty then
      let windows : Series.Windows := ⟨p.windowSize, some asked.start, some asked.stop, none⟩
      match Series.rolling windows (Series.clip asked f.data) with
      | .error fault => .error (.series fault)
      | .ok data =>
        .ok { f with
          dataStart := some asked.start
          dataStop := some asked.stop
          windowSize := (data.head?.map (·.duration)).getD Span.zero
          data := data
          optimal := Series.optimum data }
    else .error (.validation (Validator.report findings))

/-- Processes a forecast under its location. -/
def processAt (s : ForecastService σ) (p : Parameters) (location : String) (f : Forecast) :
    Work Fault σ Forecast :=
  Work.ofExcept ((process s.names p f).mapError (.atLocation location))

/-- The current forecast of every location. -/
def current (s : ForecastService σ) (q : ForecastQuery) : Work Fault σ (List Forecast) := do
  let p ← EmissionsService.validated s.currentValidator q.parameters
  p.locations.mapM fun location => do
    let f ← (s.provider.currentForecast location).atLocation location
    s.processAt p location f

/-- The forecast of a location as it stood at the requested instant, if there was one. -/
def past (s : ForecastService σ) (q : PastForecastQuery) : Work Fault σ (Option Forecast) := do
  let p ← EmissionsService.validated s.pastValidator q.parameters
  match p.location, p.requested with
  | some location, some requested =>
    match ← (s.provider.forecastAsOf location requested).atLocation location with
    | none => return none
    | some f => return some (← s.processAt p location f)
  | _, _ => return none

end ForecastService

end CarbonIntensity
