import CarbonIntensity.CommandLine.Run
import Std.Time.DateTime.Timestamp

/-!
# The program

Collects what a command is run in, runs it, and prints its outcome. Everything is decided by
`CommandLine.run`; this module only reads the variables that settings may be in, the files that they
name and the clock of the system. The program has no network: requests are never answered.
-/

namespace CarbonIntensity.CommandLine

/-- The variables that settings are read from. -/
def variableNames : List String :=
  ["CARBON_EMISSIONS_DATA_SOURCE", "CARBON_FORECAST_DATA_SOURCE", "CARBON_JSON_DATA_FILE",
    "CARBON_LOCATION_FILES", "CARBON_LOCATION_DELIMITER", "CARBON_EMISSIONS_CACHE_ENABLED",
    "CARBON_EMISSIONS_CACHE_EXPIRATION_MIN", "CARBON_PROXY_URL", "CARBON_PROXY_USERNAME",
    "CARBON_PROXY_PASSWORD", "HTTP_CLIENT_TIMEOUT_SECS", "HTTP_CLIENT_CONNECT_TIMEOUT_SECS",
    "WATTTIME_USERNAME", "WATTTIME_PASSWORD", "WATTTIME_BASE_URL", "WATTTIME_AUTH_BASE_URL",
    "WATTTIME_REGION_CACHE_TTL_SECS", "ELECTRICITYMAPS_API_TOKEN_HEADER",
    "ELECTRICITYMAPS_API_TOKEN", "ELECTRICITYMAPS_BASE_URL",
    "ELECTRICITYMAPS_EMISSION_FACTOR_TYPE", "ELECTRICITYMAPS_DISABLE_ESTIMATIONS",
    "ELECTRICITYMAPSFREE_API_TOKEN", "ELECTRICITYMAPSFREE_BASE_URL"]

def readEnvironment : IO Environment := do
  let entries ← variableNames.filterMapM fun name => do
    return (← IO.getEnv name).map fun value => (name, value)
  return fun name => entries.lookup name

def readFile (path : String) : IO (Except FileTrouble String) := do
  try
    let bytes ← IO.FS.readBinFile path
    return match String.fromUTF8? bytes with
      | some text => .ok text
      | none => .error .notText
  catch
    | .noFileOrDirectory .. => return .error .missing
    | .inappropriateType .. => return .error .directory
    | e => return .error (.other (toString e))

/-- The files that the settings of an environment name. -/
def readFiles (env : Environment) : IO Files := do
  let paths := (env.settings.map Settings.paths).toOption.getD []
  let entries ← paths.mapM fun path => do return (path, ← readFile path)
  return fun path => (entries.lookup path).getD (.error .missing)

def systemClock : IO Clock := do
  let now ← Std.Time.Timestamp.now
  return ⟨now.toMillisecondsSinceUnixEpoch.val⟩

end CarbonIntensity.CommandLine

open CarbonIntensity CommandLine in
def main (arguments : List String) : IO UInt32 := do
  let environment ← readEnvironment
  let surroundings : Surroundings :=
    { environment
      files := ← readFiles environment
      line := ⟨← systemClock, .unreachable, []⟩ }
  let outcome := run surroundings arguments
  IO.print outcome.output
  if let some report := outcome.report then IO.eprintln report.text
  return outcome.exitCode.toUInt32
