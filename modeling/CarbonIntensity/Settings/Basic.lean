import CarbonIntensity.Fault
import CarbonIntensity.Http.Settings
import CarbonIntensity.Location.Registry
import CarbonIntensity.Provider.HistoryCache
import CarbonIntensity.Settings.Services
import CarbonIntensity.Text.Basic

/-!
# Settings

Everything that is configured: the sources of samples and forecasts, what each of them needs, the cache,
the files of locations and the settings of requests. Settings are valid if the chosen sources have what
they need; the summary leaves all secrets out.
-/

namespace CarbonIntensity

/-! ## Data sources -/

inductive DataSource where
  | wattTime
  | electricityMaps
  | electricityMapsFree
  | json
deriving DecidableEq, Inhabited

namespace DataSource

def name : DataSource → String
  | wattTime => "watttime"
  | electricityMaps => "electricitymaps"
  | electricityMapsFree => "electricitymapsfree"
  | json => "json"

/-- All spellings of the sources. -/
def spellings : List (String × DataSource) :=
  [("watttime", wattTime), ("electricitymaps", electricityMaps),
    ("electricity-maps", electricityMaps), ("electricity_maps", electricityMaps),
    ("electricitymapsfree", electricityMapsFree), ("electricity-maps-free", electricityMapsFree),
    ("electricity_maps_free", electricityMapsFree), ("json", json)]

/-- The source of a name, without regard to case and to blanks around it; or what is wrong. -/
def parse (s : String) : Except String DataSource :=
  let lowered := Text.lowerAscii (Text.trim s)
  match spellings.lookup lowered with
  | some source => .ok source
  | none =>
    .error ("unknown data source '" ++ lowered ++
      "', expected watttime, electricitymaps, electricitymapsfree or json")

end DataSource

/-! ## Settings -/

structure Settings where
  emissionsSource : DataSource
  forecastSource : DataSource
  wattTime : Option WattTime.Settings
  electricityMaps : ElectricityMaps.Settings
  electricityMapsFree : ElectricityMapsFree.Settings
  cache : CacheSettings
  dataFile : Option String
  locationFiles : List LocationFile
  locationDelimiter : String
  http : HttpSettings
deriving Inhabited

namespace Settings

/-- The chosen sources, each once. -/
def selected (s : Settings) : List DataSource :=
  if s.emissionsSource = s.forecastSource then [s.emissionsSource]
  else [s.emissionsSource, s.forecastSource]

/-- The files that the settings name. -/
def paths (s : Settings) : List String := s.dataFile.toList ++ s.locationFiles.map (·.path)

/-- What a chosen source needs. -/
def validateSource (s : Settings) : DataSource → Except Report Unit
  | .wattTime =>
    match s.wattTime with
    | none =>
      .error ⟨"WATTTIME_USERNAME and WATTTIME_PASSWORD are required when WattTime is selected", []⟩
    | some w => w.validate.mapError Report.ofFailure
  | .electricityMaps => s.electricityMaps.validate.mapError Report.ofFailure
  | .electricityMapsFree =>
    s.electricityMapsFree.validate.mapError fun f =>
      (Report.ofFailure f).under ("invalid Electricity Maps free tier settings, check " ++
        "ELECTRICITYMAPSFREE_API_TOKEN and ELECTRICITYMAPSFREE_BASE_URL")
  | .json =>
    if s.dataFile.isNone then
      .error ⟨"CARBON_JSON_DATA_FILE is required when the JSON data source is selected", []⟩
    else .ok ()

def validate (s : Settings) : Except Report Unit := do
  if s.emissionsSource = .electricityMapsFree then
    throw ⟨"the Electricity Maps free tier only serves forecasts and cannot be the " ++
      "CARBON_EMISSIONS_DATA_SOURCE source", []⟩
  s.selected.forM s.validateSource
  s.cache.validate.mapError fun f =>
    (Report.ofFailure f).under "invalid CARBON_EMISSIONS_CACHE_EXPIRATION_MIN"
  if s.http.timeout = 0 ∨ s.http.connectTimeout = 0 then
    throw ⟨"HTTP client timeouts must be greater than zero", []⟩

def configured (b : Bool) : String := if b then "Configured" else "Not configured"

def summary (s : Settings) : String :=
  let cache :=
    if s.cache.enabled then "Enabled (" ++ Text.ofInt s.cache.minutes ++ " min)" else "Disabled"
  String.intercalate "\n- "
    ["Carbon Aware Configuration:",
      "Emissions Source: " ++ s.emissionsSource.name,
      "Forecast Source: " ++ s.forecastSource.name,
      "WattTime: " ++ configured s.wattTime.isSome,
      "Electricity Maps Token: " ++ configured s.electricityMaps.header?.isSome,
      "Electricity Maps Free Token: " ++ configured s.electricityMapsFree.token?.isSome,
      "Emissions Cache: " ++ cache,
      "JSON Data File: " ++ s.dataFile.getD "None",
      "Location Files: " ++ Text.ofNat s.locationFiles.length,
      "HTTP Timeout: " ++ Text.ofNat s.http.timeout ++ "s (connect " ++
        Text.ofNat s.http.connectTimeout ++ "s)",
      "Proxy: " ++ (if s.http.proxy.isSome then "Enabled" else "Disabled")]

end Settings

end CarbonIntensity
