import CarbonIntensity.CommandLine.Arguments
import CarbonIntensity.Provider.Sources
import CarbonIntensity.Sample
import CarbonIntensity.Service.Forecast
import CarbonIntensity.Settings.Environment

/-!
# Running a command

A command is answered with a JSON text of sorted fields, or given up with a report: exit code 0 or 1.
Arguments that are not understood give exit code 2, a question for help gives 0. Where the program stops
in the middle of a command there is no report, and the exit code is 101.
-/

namespace CarbonIntensity.CommandLine

structure Outcome where
  exitCode : Nat
  output : String
  /-- Why the command was given up. -/
  report : Option Report := none
deriving Inhabited

/-- What a command is run in. -/
structure Surroundings where
  environment : Environment
  files : Files
  line : Line

/-- The size of windows in minutes, which has to be a span. -/
def windowOf (duration : Option Int) : Except Report (Option Span) :=
  match duration with
  | none => .ok none
  | some minutes =>
    match Span.ofMinutes? minutes with
    | some d => .ok (some d)
    | none =>
      .error ⟨"--duration of " ++ Text.ofInt minutes ++ " minutes is out of range", []⟩

/-- The first location, or a blank one, which validation reports as missing. -/
def Arguments.location (a : Arguments) : String := a.locations.head?.getD ""

def meanDocument (a : Arguments) (mean : Float) : Document :=
  .object
    [("location", .string a.location), ("startTime", Document.option .instant a.start),
      ("endTime", Document.option .instant a.stop), ("carbonIntensity", .float mean)]

/-- The answer to a command, or the report with which it is given up, if there is one. -/
def answer {σ : Type} (sources : Sources σ) (now : σ → Instant) (s : σ) (a : Arguments) :
    Except (Option Report) Document :=
  let emissions : EmissionsService σ := ⟨sources.emissions, now, DisplayNames.usual⟩
  let forecasts : ForecastService σ := ⟨sources.forecast, DisplayNames.usual⟩
  let run {α : Type} (w : Work Fault σ α) : Except (Option Report) α :=
    (w.start s).1.mapError fun f => if f.stops then none else some (Report.ofFault f)
  match a.command with
  | .emissions => do
    let samples ← run (emissions.emissions ⟨a.locations, a.start, a.stop⟩)
    return .array (samples.map Sample.document)
  | .best => do
    let samples ← run (emissions.best ⟨a.locations, a.start, a.stop⟩)
    return .array (samples.map Sample.document)
  | .average => do
    return meanDocument a (← run (emissions.mean ⟨a.location, a.start, a.stop⟩))
  | .forecast => do
    let window ← (windowOf a.duration).mapError some
    let list ← run (forecasts.current ⟨a.locations, a.start, a.stop, window⟩)
    return .array (list.map Forecast.document)
  | .forecastAsOf => do
    let window ← (windowOf a.duration).mapError some
    let forecast ← run (forecasts.past ⟨a.location, a.requested, a.start, a.stop, window⟩)
    return Document.option Forecast.document forecast

/-- Reads the settings, builds the sources and answers the command. -/
def execute (w : Surroundings) (a : Arguments) : Except (Option Report) Document := do
  let settings ← w.environment.settings.mapError some
  let (sources, desk) ← (Sources.ofSettings settings w.files w.line).mapError some
  answer sources Desk.now desk a

def run (w : Surroundings) (arguments : List String) : Outcome :=
  match parse false arguments with
  | .error .help => ⟨0, "", none⟩
  | .error .usage => ⟨2, "", none⟩
  | .ok a =>
    match execute w a with
    | .ok document => ⟨0, document.sorted.pretty ++ "\n", none⟩
    | .error (some report) => ⟨1, "", some report⟩
    | .error none => ⟨101, "", none⟩

end CarbonIntensity.CommandLine
