import CarbonIntensity.ElectricityMapsFree.Payload
import CarbonIntensity.Http.Message
import CarbonIntensity.Location.Registry
import CarbonIntensity.Provider.Basic
import CarbonIntensity.Provider.Session
import CarbonIntensity.Settings.Services

/-!
# The client of the Electricity Maps free tier

Only the latest reading can be asked for, by coordinates or by country code. The token is a setting, so
that a login always succeeds with it.
-/

namespace CarbonIntensity.ElectricityMapsFree

structure Client where
  token : String
  latestUrl : Url
  locations : Registry

namespace Client

/-- The client for settings that are valid. -/
def create (settings : Settings) (locations : Registry) : Except Failure Client := do
  settings.validate
  match settings.token? with
  | none => throw Settings.tokenMissing
  | some token =>
    let base ← BaseUrl.parse providerName "base_url" settings.baseUrl
    return { token, latestUrl := ← BaseUrl.endpoint providerName base "latest", locations }

def placeQuery (place : Coordinates) : List (String × String) :=
  [("lat", place.latitudeText), ("lon", place.longitudeText)]

def query (c : Client) (location : String) : Except Failure (List (String × String)) :=
  match c.locations.resolve location with
  | .error e => .error e
  | .ok position =>
    match position.coordinates?, position.name with
    | some place, _ => .ok (placeQuery place)
    | none, some code => .ok [("countryCode", code)]
    | none, none =>
      .error (.locationConversion location
        "Electricity Maps free tier needs coordinates or a country code")

def latest (c : Client) (query : List (String × String)) : Work Failure Session Latest := do
  let answer ← Credential.send Session.tokenSlot (pure c.token) fun token =>
    Session.send providerName (Request.get c.latestUrl query [⟨"auth-token", token⟩])
  if Status.isSuccess answer.status then
    Work.ofExcept (Payload.read providerName "latest carbon intensity" Latest.ofJson? answer.body)
  else Work.fail (.http providerName "latest" answer.status answer.body)

def currentForecast (c : Client) (location : String) : Work Failure Session Forecast := do
  let query ← Work.ofExcept (c.query location)
  let answer ← c.latest query
  let now := (← Work.read Session.lineSlot).now
  return { answer.forecast location with requestedAt := some now }

/-- The country code of a place, remembered or asked for. -/
def region (c : Client) (place : Coordinates) : Work Failure Session String :=
  RegionCache.readThrough Session.regionSlot Session.now place do
    let answer ← c.latest (placeQuery place)
    if answer.countryCode.isEmpty then
      Work.fail (.malformedResponse providerName
        ("no country code reported for " ++ place.text))
    else return answer.countryCode

def provider (c : Client) : Provider Session where
  name := providerName
  history _ _ := Work.fail (.unsupported providerName "historical emissions")
  currentForecast := c.currentForecast
  forecastAsOf _ _ := Work.fail (.unsupported providerName "historical forecasts")
  region := c.region

end Client

end CarbonIntensity.ElectricityMapsFree
