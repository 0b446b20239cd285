import CarbonIntensity.Number.Basic
import CarbonIntensity.Settings.Basic

/-!
# Settings from the environment

Each setting is a variable; blanks around its value are dropped, and a blank value counts as missing.
The variables are read in a fixed order, and the first one that cannot be read is reported.

How much is logged and in which form are settings of their own. These variables are taken as they are;
for some it only matters whether they are set.
-/

namespace CarbonIntensity

abbrev Environment := String → Option String

namespace Environment

/-- The value of a variable that is not blank. -/
def value? (env : Environment) (name : String) : Option String :=
  match env name with
  | none => none
  | some v => if Text.isBlankText v then none else some (Text.trim v)

def invalid (name value reason : String) : Report :=
  ⟨"invalid " ++ name ++ " value '" ++ value ++ "': " ++ reason, []⟩

/-- A variable read by `parse`, or a default where it is missing. -/
def parsed {α : Type} (env : Environment) (name : String) (default : α)
    (parse : String → Except String α) : Except Report α :=
  match env.value? name with
  | none => .ok default
  | some v => (parse v).mapError (invalid name v)

def source (env : Environment) (name : String) : Except Report DataSource :=
  env.parsed name .json DataSource.parse

def natural (env : Environment) (name : String) (default : Nat) : Except Report Nat :=
  env.parsed name default fun v => (Integer.natural v).mapError IntegerFault.message

def signed (env : Environment) (name : String) (default : Int) : Except Report Int :=
  env.parsed name default fun v => (Integer.signed v).mapError IntegerFault.message

def flag (name value : String) : Except Report Bool :=
  let lowered := Text.lowerAscii value
  if ["true", "1", "yes"].contains lowered then .ok true
  else if ["false", "0", "no"].contains lowered then .ok false
  else .error ⟨"invalid " ++ name ++ " value '" ++ value ++ "', expected true or false", []⟩

def flag? (env : Environment) (name : String) : Except Report (Option Bool) :=
  match env.value? name with
  | none => .ok none
  | some v => (flag name v).map some

/-- User and password have to be given both; one alone counts as none. -/
def wattTime (env : Environment) : Except Report (Option WattTime.Settings) :=
  match env.value? "WATTTIME_USERNAME", env.value? "WATTTIME_PASSWORD" with
  | some username, some password => do
    let usual : WattTime.Settings := { username, password }
    return some {
      username
      password
      baseUrl := (env.value? "WATTTIME_BASE_URL").getD usual.baseUrl
      authBaseUrl := (env.value? "WATTTIME_AUTH_BASE_URL").getD usual.authBaseUrl
      regionSeconds := ← env.natural "WATTTIME_REGION_CACHE_TTL_SECS" usual.regionSeconds }
  | _, _ => .ok none

def factor (env : Environment) : Except Report (Option ElectricityMaps.EmissionFactor) :=
  let name := "ELECTRICITYMAPS_EMISSION_FACTOR_TYPE"
  match env.value? name with
  | none => .ok none
  | some v =>
    match ElectricityMaps.EmissionFactor.parse v with
    | .ok f => .ok (some f)
    | .error f => .error ((Report.ofFailure f).under ("invalid " ++ name))

def electricityMaps (env : Environment) : Except Report ElectricityMaps.Settings := do
  let usual : ElectricityMaps.Settings := {}
  return {
    tokenHeader := env.value? "ELECTRICITYMAPS_API_TOKEN_HEADER"
    token := env.value? "ELECTRICITYMAPS_API_TOKEN"
    baseUrl := (env.value? "ELECTRICITYMAPS_BASE_URL").getD usual.baseUrl
    factor := ← env.factor
    disableEstimations := ← env.flag? "ELECTRICITYMAPS_DISABLE_ESTIMATIONS" }

def electricityMapsFree (env : Environment) : ElectricityMapsFree.Settings :=
  let usual : ElectricityMapsFree.Settings := {}
  { token := env.value? "ELECTRICITYMAPSFREE_API_TOKEN"
    baseUrl := (env.value? "ELECTRICITYMAPSFREE_BASE_URL").getD usual.baseUrl }

def cache (env : Environment) : Except Report CacheSettings := do
  return {
    enabled := (← env.flag? "CARBON_EMISSIONS_CACHE_ENABLED").getD false
    minutes := ← env.signed "CARBON_EMISSIONS_CACHE_EXPIRATION_MIN" 10 }

/-- Location files between commas; blank entries are left out. -/
def locationFiles (env : Environment) : Except Report (List LocationFile) :=
  let name := "CARBON_LOCATION_FILES"
  let entries := ((env.value? name).getD "").toList.splitOn ','
  let entries := (entries.map Text.trimChars).filter fun e => !e.isEmpty
  entries.mapM fun e =>
    let entry := String.ofList e
    (LocationFile.parse entry).mapError fun f =>
      (Report.ofFailure f).under ("invalid " ++ name ++ " entry '" ++ entry ++ "'")

def http (env : Environment) : Except Report HttpSettings := do
  let usual : HttpSettings := {}
  return {
    timeout := ← env.natural "HTTP_CLIENT_TIMEOUT_SECS" usual.timeout
    connectTimeout := ← env.natural "HTTP_CLIENT_CONNECT_TIMEOUT_SECS" usual.connectTimeout
    proxy := (env.value? "CARBON_PROXY_URL").map fun url =>
      { url
        username := env.value? "CARBON_PROXY_USERNAME"
        password := env.value? "CARBON_PROXY_PASSWORD" } }

/-- The settings of an environment, which have to be valid. -/
def settings (env : Environment) : Except Report Settings := do
  let emissionsSource ← env.source "CARBON_EMISSIONS_DATA_SOURCE"
  let forecastSource ← env.source "CARBON_FORECAST_DATA_SOURCE"
  let wattTime ← env.wattTime
  let electricityMaps ← env.electricityMaps
  let cache ← env.cache
  let locationFiles ← env.locationFiles
  let http ← env.http
  let settings : Settings :=
    { emissionsSource
      forecastSource
      wattTime
      electricityMaps
      electricityMapsFree := env.electricityMapsFree
      cache
      dataFile := env.value? "CARBON_JSON_DATA_FILE"
      locationFiles
      locationDelimiter := (env.value? "CARBON_LOCATION_DELIMITER").getD "-"
      http }
  settings.validate
  return settings

end Environment

/-! ## The log -/

inductive LogFormat where
  | json
  | pretty
  | compact
deriving DecidableEq, Inhabited

/-- The format of a name; names that are not known mean the pretty one. -/
def LogFormat.ofName (s : String) : LogFormat :=
  let lowered := Text.lowerAscii (Text.trim s)
  if lowered = "json" then json else if lowered = "compact" then compact else pretty

structure LogSettings where
  level : String
  format : LogFormat
  withPlace : Bool
  withThread : Bool
  withSpans : Bool
  service : String
  version : String
  environment : String
deriving DecidableEq, Inhabited

namespace LogSettings

/-- In production the place and the thread are always logged. -/
def ofEnvironment (env : Environment) : LogSettings :=
  let environment := (env "ENVIRONMENT").getD "development"
  let production := environment == "production"
  { level := (env "RUST_LOG").getD "info"
    format := ((env "LOG_FORMAT").map LogFormat.ofName).getD .pretty
    withPlace := production || (env "LOG_INCLUDE_LOCATION").isSome
    withThread := production || (env "LOG_INCLUDE_THREAD").isSome
    withSpans := (env "LOG_INCLUDE_SPANS").isSome
    service := (env "SERVICE_NAME").getD "carbon-aware"
    version := "0.1.0"
    environment }

end LogSettings

end CarbonIntensity
