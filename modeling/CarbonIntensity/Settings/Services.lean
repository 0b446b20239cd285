import CarbonIntensity.Http.Message
import CarbonIntensity.Http.Settings
import CarbonIntensity.Text.Basic
import CarbonIntensity.Text.Quoted

/-!
# Settings of the services

What each service is asked with: its base URL, the credential, and how long a region is remembered.
Electricity Maps takes the token in a header whose name is a setting too; either both or none have to be
given. A description of settings leaves the credential out.
-/

namespace CarbonIntensity

/-! ## WattTime -/

namespace WattTime

def providerName : String := "WattTime"

structure Settings where
  username : String
  password : String
  baseUrl : String := "https://api.watttime.org/v3/"
  authBaseUrl : String := "https://api.watttime.org/"
  /-- How many seconds a region is remembered. -/
  regionSeconds : Nat := 86400
deriving DecidableEq, Inhabited

namespace Settings

def validate (s : Settings) : Except Failure Unit := do
  if Text.isBlankText s.username then
    throw (.configuration providerName "username is required")
  if s.password.isEmpty then throw (.configuration providerName "password is required")
  discard (BaseUrl.parse providerName "base_url" s.baseUrl)
  discard (BaseUrl.parse providerName "auth_base_url" s.authBaseUrl)

/-- The settings without the password. -/
def describe (s : Settings) : String :=
  "WattTimeConfig \x7b username: " ++ Text.quoted s.username ++ ", password: \"[REDACTED]\"" ++
    ", base_url: " ++ Text.quoted s.baseUrl ++ ", auth_base_url: " ++ Text.quoted s.authBaseUrl ++
    ", region_cache_ttl_secs: " ++ Text.ofNat s.regionSeconds ++ " \x7d"

end Settings

end WattTime

/-! ## Electricity Maps -/

namespace ElectricityMaps

def providerName : String := "ElectricityMaps"

/-- Which emissions an intensity counts. -/
inductive EmissionFactor where
  | lifecycle
  | direct
deriving DecidableEq, Inhabited

namespace EmissionFactor

def name : EmissionFactor → String
  | lifecycle => "lifecycle"
  | direct => "direct"

def parse (s : String) : Except Failure EmissionFactor :=
  let lowered := Text.lowerAscii (Text.trim s)
  if lowered = "lifecycle" then .ok lifecycle
  else if lowered = "direct" then .ok direct
  else
    .error (.configuration providerName
      ("unknown emission factor type '" ++ lowered ++ "', expected 'lifecycle' or 'direct'"))

def describe : EmissionFactor → String
  | lifecycle => "Lifecycle"
  | direct => "Direct"

end EmissionFactor

structure Settings where
  tokenHeader : Option String := none
  token : Option String := none
  baseUrl : String := "https://api.electricitymap.org/v3/"
  factor : Option EmissionFactor := none
  disableEstimations : Option Bool := none
  /-- How many seconds a region is remembered. -/
  regionSeconds : Nat := 86400
deriving DecidableEq, Inhabited

namespace Settings

def hasHeader (s : Settings) : Bool := s.tokenHeader.any fun h => !Text.isBlankText h

def hasToken (s : Settings) : Bool := s.token.any fun t => !t.isEmpty

/-- The header with the token, if both are given and the name is not blank. -/
def header? (s : Settings) : Option Header :=
  match s.tokenHeader, s.token with
  | some name, some token => if Text.isBlankText name then none else some ⟨name, token⟩
  | _, _ => none

def validate (s : Settings) : Except Failure Unit := do
  if s.hasHeader && !s.hasToken then
    throw (.configuration providerName "api_token is required when api_token_header is set")
  if s.hasToken && !s.hasHeader then
    throw (.configuration providerName "api_token_header is required when api_token is set")
  discard (BaseUrl.parse providerName "base_url" s.baseUrl)

/-- A value that may be missing. -/
def describeOption {α : Type} (f : α → String) : Option α → String
  | none => "None"
  | some a => "Some(" ++ f a ++ ")"

/-- The settings without the token. -/
def describe (s : Settings) : String :=
  "ElectricityMapsConfig \x7b api_token_header: " ++ describeOption Text.quoted s.tokenHeader ++
    ", api_token: " ++ describeOption (fun _ => "\"[REDACTED]\"") s.token ++
    ", base_url: " ++ Text.quoted s.baseUrl ++
    ", emission_factor_type: " ++ describeOption EmissionFactor.describe s.factor ++
    ", disable_estimations: " ++
      describeOption (fun b => if b then "true" else "false") s.disableEstimations ++
    ", region_cache_ttl_secs: " ++ Text.ofNat s.regionSeconds ++ " \x7d"

end Settings

end ElectricityMaps

/-! ## The Electricity Maps free tier -/

namespace ElectricityMapsFree

def providerName : String := "ElectricityMapsFree"

structure Settings where
  token : Option String := none
  baseUrl : String := "https://api.co2signal.com/v1/"
  /-- How many seconds a region is remembered. -/
  regionSeconds : Nat := 86400
deriving DecidableEq, Inhabited

namespace Settings

/-- The token, if it is not blank. -/
def token? (s : Settings) : Option String := s.token.filter fun t => !Text.isBlankText t

def tokenMissing : Failure := .configuration providerName "api_token is required"

def validate (s : Settings) : Except Failure Unit := do
  if s.token?.isNone then throw tokenMissing
  discard (BaseUrl.parse providerName "base_url" s.baseUrl)

/-- The settings without the token. -/
def describe (s : Settings) : String :=
  "ElectricityMapsFreeConfig \x7b api_token: " ++
    ElectricityMaps.Settings.describeOption (fun _ => "\"[REDACTED]\"") s.token ++
    ", base_url: " ++ Text.quoted s.baseUrl ++
    ", region_cache_ttl_secs: " ++ Text.ofNat s.regionSeconds ++ " \x7d"

end Settings

end ElectricityMapsFree

end CarbonIntensity
