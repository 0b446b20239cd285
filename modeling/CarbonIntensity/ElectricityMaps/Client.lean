import CarbonIntensity.ElectricityMaps.Payload
import CarbonIntensity.Http.Message
import CarbonIntensity.Location.Registry
import CarbonIntensity.Provider.Basic
import CarbonIntensity.Provider.Session
import CarbonIntensity.Series.Basic
import CarbonIntensity.Settings.Services
import CarbonIntensity.Text.Basic
import CarbonIntensity.Time.Text

/-!
# The Electricity Maps client

A location is addressed by its coordinates or else by its name as a zone. Before a zone is asked about,
the table of zones says whether the token covers it. A history inside the last twenty-four hours is
asked for as recent, any other one by its period. The clock must be twenty-four hours past the first
instant, or the question ends the program.
-/

namespace CarbonIntensity.ElectricityMaps

/-- How a location is addressed. -/
inductive Target where
  | coordinates (place : Coordinates)
  | zone (name : String)
deriving DecidableEq

namespace Target

def query : Target → List (String × String)
  | coordinates place => [("lat", place.latitudeText), ("lon", place.longitudeText)]
  | zone name => [("zone", name)]

end Target

structure Client where
  settings : Settings
  baseUrl : Url
  locations : Registry

/-- The failure that an answer without success stands for. -/
def httpFailure (path : String) (a : Answer) : Failure :=
  let message :=
    if Text.hasPart "Token unauthorized for zoneKey".toList a.body.toList then
      "token is not authorized for this zone: " ++ a.body
    else if Text.hasPart "Endpoint not available".toList a.body.toList then
      "token is not authorized for this endpoint: " ++ a.body
    else a.body
  .http providerName path a.status message

namespace Client

/-- The client for settings that are valid. -/
def create (settings : Settings) (locations : Registry) : Except Failure Client := do
  settings.validate
  return {
    settings
    baseUrl := ← BaseUrl.parse providerName "base_url" settings.baseUrl
    locations }

def target (c : Client) (location : String) : Except Failure Target :=
  match c.locations.resolve location with
  | .error e => .error e
  | .ok position =>
    match position.coordinates?, position.name with
    | some place, _ => .ok (.coordinates place)
    | none, some name => .ok (.zone name)
    | none, none =>
      .error (.locationConversion location "Electricity Maps needs coordinates or a zone name")

/-- The settings that go with every question for a history. -/
def options (c : Client) : List (String × String) :=
  (c.settings.factor.toList.map fun f => ("emissionFactorType", f.name)) ++
    (c.settings.disableEstimations.toList.map fun b =>
      ("disableEstimations", if b then "true" else "false"))

/-- Sends a request for a path and reads the answer. -/
def request {α : Type} (c : Client) (path : String) (query : List (String × String))
    (resource : String) (read : Json → Option α) : Work Failure Session α := do
  let url ← Work.ofExcept (BaseUrl.endpoint providerName c.baseUrl path)
  let answer ← Session.send providerName (Request.get url query c.settings.header?.toList)
  if Status.isSuccess answer.status then
    Work.ofExcept (Payload.read providerName resource read answer.body)
  else Work.fail (httpFailure path answer)

def zones (c : Client) : Work Failure Session ZoneTable := c.request "zones" [] "zones" ZoneTable.ofJson?

/-- Sends a request about a target that the token covers. -/
def ask {α : Type} (c : Client) (path : String) (t : Target) (extra : List (String × String))
    (resource : String) (read : Json → Option α) : Work Failure Session α := do
  match t with
  | .zone name =>
    Entitlements.check Session.entitlementSlot providerName name path c.zones
  | .coordinates _ => pure ()
  c.request path (t.query ++ extra) resource read

/-- Twenty-four hours before now, if there is such an instant. -/
def horizon? (now : Instant) : Option Instant := now.sub? (Span.minutes 1440)

/-- The instant lies in the twenty-four hours up to now. -/
def isRecent (now t : Instant) : Bool := (horizon? now).any fun horizon => horizon < t && t ≤ now

def history (c : Client) (location : String) (p : Period) : Work Failure Session (List Sample) := do
  let t ← Work.ofExcept (c.target location)
  let now := (← Work.read Session.lineSlot).now
  let answer ←
    if (horizon? now).isNone then Work.fail .overflow
    else if isRecent now p.start && isRecent now p.stop then
      c.ask "carbon-intensity/history" t c.options "carbon intensity history" History.ofRecent?
    else
      c.ask "carbon-intensity/past-range" t
        ([("start", p.start.wholeSecondText), ("end", p.stop.wholeSecondText)] ++ c.options)
        "carbon intensity past range" History.ofPastRange?
  return Series.clip p (answer.samples location)

def currentForecast (c : Client) (location : String) : Work Failure Session Forecast := do
  let t ← Work.ofExcept (c.target location)
  let answer ← c.ask "carbon-intensity/forecast" t [] "carbon intensity forecast"
    ForecastAnswer.ofJson?
  let now := (← Work.read Session.lineSlot).now
  return { answer.forecast location with requestedAt := some now }

/-- The zone of a place, remembered or asked for. -/
def region (c : Client) (place : Coordinates) : Work Failure Session String :=
  RegionCache.readThrough Session.regionSlot Session.now place do
    let answer ← c.ask "carbon-intensity/history" (.coordinates place) [] "zone lookup"
      History.ofRecent?
    if answer.zone.isEmpty then
      Work.fail (.malformedResponse providerName ("no zone reported for " ++ place.text))
    else return answer.zone

def provider (c : Client) : Provider Session where
  name := providerName
  history := c.history
  currentForecast := c.currentForecast
  forecastAsOf _ _ := Work.fail (.unsupported providerName "historical forecasts")
  region := c.region

end Client

end CarbonIntensity.ElectricityMaps
