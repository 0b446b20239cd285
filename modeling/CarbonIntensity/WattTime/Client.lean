import CarbonIntensity.Location.Registry
import CarbonIntensity.Provider.Basic
import CarbonIntensity.Provider.Session
import CarbonIntensity.Series.Basic
import CarbonIntensity.Time.Text
import CarbonIntensity.WattTime.Payload

/-!
# The WattTime client

A location has to have coordinates; the service names the region of a place, which is remembered, and
all other questions are about regions. Histories are asked for two hours more on either side and
clipped. A past forecast is asked for by the start of its step of five minutes.
-/

namespace CarbonIntensity.WattTime

structure Client where
  settings : Settings
  baseUrl : Url
  authBaseUrl : Url
  locations : Registry

/-- How the service is reached: where the regions are remembered, which clock is read, and how a URL is
asked for with a query. -/
structure Link (σ : Type) where
  regions : Slot σ RegionCache
  now : σ → Instant
  request : Url → List (String × String) → Work Failure σ Answer

def signal : String × String := ("signal_type", "co2_moer")

namespace Client

/-- The client for settings that are valid. -/
def create (settings : Settings) (locations : Registry) : Except Failure Client := do
  settings.validate
  return {
    settings
    baseUrl := ← BaseUrl.parse providerName "base_url" settings.baseUrl
    authBaseUrl := ← BaseUrl.parse providerName "auth_base_url" settings.authBaseUrl
    locations }

def authenticationFault (reason : String) : Failure := .authentication providerName reason

/-- The token in an answer to a login. -/
def tokenOfAnswer (c : Client) (a : Answer) : Except Failure String :=
  if !Status.isSuccess a.status then
    .error (authenticationFault
      ("login for '" ++ c.settings.username ++ "' returned status " ++ Status.text a.status))
  else
    match Json.decode loginToken? a.body with
    | .error _ =>
      .error (authenticationFault "unreadable login response: error decoding response body")
    | .ok (some token) =>
      if token.isEmpty then
        .error (authenticationFault "login response did not contain a token")
      else .ok token
    | .ok none => .error (authenticationFault "login response did not contain a token")

def login (c : Client) : Work Failure Session String := do
  let url ← Work.ofExcept (BaseUrl.endpoint providerName c.authBaseUrl "login")
  let request := Request.get url [] [Header.basic c.settings.username c.settings.password]
  let answer ← Session.send providerName request
  Work.ofExcept (c.tokenOfAnswer answer)

/-- The link over a session. -/
def link (c : Client) : Link Session where
  regions := Session.regionSlot
  now := Session.now
  request := Credential.request Session.tokenSlot c.login (Session.send providerName)

def coordinates (c : Client) (location : String) : Except Failure Coordinates :=
  match c.locations.resolve location with
  | .error e => .error e
  | .ok position =>
    match position.coordinates? with
    | some place => .ok place
    | none =>
      .error (.locationConversion location "WattTime requires a latitude and longitude")

section Questions

variable {σ : Type} (c : Client) (l : Link σ)

/-- Asks a path of the service and reads the answer. -/
def ask {α : Type} (path : String) (query : List (String × String)) (resource : String)
    (read : Json → Option α) : Work Failure σ α := do
  let url ← Work.ofExcept (BaseUrl.endpoint providerName c.baseUrl path)
  let answer ← l.request url query
  if Status.isSuccess answer.status then
    Work.ofExcept (Payload.read providerName resource read answer.body)
  else Work.fail (.http providerName path answer.status answer.body)

/-- The region of a place, remembered or asked for. -/
def region (place : Coordinates) : Work Failure σ String :=
  RegionCache.readThrough l.regions l.now place do
    let answer ← c.ask l "region-from-loc"
      [("latitude", place.latitudeText), ("longitude", place.longitudeText), signal]
      ("region for " ++ place.text) Region.ofJson?
    return answer.region

def regionOf (location : String) : Work Failure σ String := do
  let place ← Work.ofExcept (c.coordinates location)
  c.region l place

def history (location : String) (p : Period) : Work Failure σ (List Sample) := do
  let region ← c.regionOf l location
  let wide := p.widen (Span.minutes 120)
  let data ← c.ask l "historical"
    [("region", region), ("start", wide.start.wholeSecondText), ("end", wide.stop.wholeSecondText),
      signal]
    ("history for region " ++ region) GridData.ofJson?
  return Series.clip p (data.history location)

def currentForecast (location : String) : Work Failure σ Forecast := do
  let region ← c.regionOf l location
  let data ← c.ask l "forecast" [("region", region), signal] ("forecast for region " ++ region)
    GridData.ofJson?
  Work.ofExcept (data.forecast location)

def forecastAsOf (location : String) (requested : Instant) :
    Work Failure σ (Option Forecast) := do
  let region ← c.regionOf l location
  let step := (requested.truncate (Span.minutes 5)).wholeSecondText
  let snapshots ← c.ask l "forecast/historical"
    [("region", region), ("start", step), ("end", step), signal]
    ("historical forecast for region " ++ region) Snapshots.ofJson?
  match snapshots.list with
  | [] => return none
  | first :: _ =>
    let forecast ← Work.ofExcept (first.forecast location)
    return some { forecast with requestedAt := some requested }

/-- The client over a link. -/
def providerOver : Provider σ where
  name := providerName
  history := c.history l
  currentForecast := c.currentForecast l
  forecastAsOf := c.forecastAsOf l
  region := c.region l

end Questions

def provider (c : Client) : Provider Session := c.providerOver c.link

end Client

end CarbonIntensity.WattTime
