import CarbonIntensity.Proofs.Outcome
import CarbonIntensity.Proofs.Text.Trim
import CarbonIntensity.Settings.Environment

/-!
# Secrets

The passwords and tokens of an environment are kept out of all that is written about its settings. Whether
a secret is there matters, and what it is does not: loading goes the same way with the secrets blotted out,
and what is written of the settings is the same, too,

    env.redacted.settings = env.settings.map Settings.redacted        (settings_redacted)
    s.redacted.summary = s.summary                                     (Guarded.summary_redacted)

so that environments that differ in secrets alone cannot be told apart by it.
-/

namespace CarbonIntensity

/-- What stands in the place of a secret. -/
def blot : String := "[REDACTED]"

theorem isBlankText_blot : Text.isBlankText blot = false := by decide

theorem trim_blot : Text.trim blot = blot := by decide

/-! ## Settings -/

namespace WattTime.Settings

def redacted (s : Settings) : Settings := { s with password := blot }

theorem describe_redacted (s : Settings) : s.redacted.describe = s.describe := rfl

theorem validate_redacted {s : Settings} (h : s.password.isEmpty = false) :
    s.redacted.validate = s.validate := by
  have hblot : blot.isEmpty = false := by decide
  unfold validate redacted
  simp only [h, hblot]

end WattTime.Settings

namespace ElectricityMaps.Settings

def redacted (s : Settings) : Settings := { s with token := s.token.map fun _ => blot }

theorem describe_redacted (s : Settings) : s.redacted.describe = s.describe := by
  unfold describe redacted
  cases s.token <;> rfl

variable {s : Settings} (h : ∀ t, s.token = some t → t.isEmpty = false)

include h in
theorem hasToken_redacted : s.redacted.hasToken = s.hasToken := by
  unfold hasToken redacted
  cases htoken : s.token with
  | none => rfl
  | some t =>
    show (!blot.isEmpty) = !t.isEmpty
    rw [h t htoken]
    rfl

include h in
theorem validate_redacted : s.redacted.validate = s.validate := by
  unfold validate
  rw [hasToken_redacted h]
  rfl

theorem header?_redacted (s : Settings) : s.redacted.header?.isSome = s.header?.isSome := by
  unfold header? redacted
  cases s.tokenHeader with
  | none => rfl
  | some name =>
    cases s.token with
    | none => rfl
    | some token =>
      simp only [Option.map_some]
      cases Text.isBlankText name <;> rfl

end ElectricityMaps.Settings

namespace ElectricityMapsFree.Settings

def redacted (s : Settings) : Settings := { s with token := s.token.map fun _ => blot }

theorem describe_redacted (s : Settings) : s.redacted.describe = s.describe := by
  unfold describe redacted
  cases s.token <;> rfl

variable {s : Settings} (h : ∀ t, s.token = some t → Text.isBlankText t = false)

include h in
theorem token?_redacted : s.redacted.token?.isSome = s.token?.isSome := by
  unfold token? redacted
  cases htoken : s.token with
  | none => rfl
  | some t =>
    simp [h t htoken, isBlankText_blot]

include h in
theorem validate_redacted : s.redacted.validate = s.validate := by
  unfold validate
  rw [← Option.not_isSome, ← Option.not_isSome, token?_redacted h]
  rfl

end ElectricityMapsFree.Settings

def ProxySettings.redacted (s : ProxySettings) : ProxySettings :=
  { s with password := s.password.map fun _ => blot }

def HttpSettings.redacted (s : HttpSettings) : HttpSettings :=
  { s with proxy := s.proxy.map ProxySettings.redacted }

namespace Settings

/-- The settings with all secrets blotted out. -/
def redacted (s : Settings) : Settings :=
  { s with
    wattTime := s.wattTime.map WattTime.Settings.redacted
    electricityMaps := s.electricityMaps.redacted
    electricityMapsFree := s.electricityMapsFree.redacted
    http := s.http.redacted }

/-- Secrets that are there are not blank. -/
structure Guarded (s : Settings) : Prop where
  wattTime : ∀ w, s.wattTime = some w → w.password.isEmpty = false
  electricityMaps : ∀ t, s.electricityMaps.token = some t → t.isEmpty = false
  electricityMapsFree : ∀ t, s.electricityMapsFree.token = some t → Text.isBlankText t = false

variable {s : Settings}

theorem Guarded.validateSource_redacted (h : s.Guarded) (source : DataSource) :
    s.redacted.validateSource source = s.validateSource source := by
  cases source with
  | wattTime =>
    unfold validateSource redacted
    cases hw : s.wattTime with
    | none => rfl
    | some w =>
      show w.redacted.validate.mapError Report.ofFailure = w.validate.mapError Report.ofFailure
      rw [WattTime.Settings.validate_redacted (h.wattTime w hw)]
  | electricityMaps =>
    show s.electricityMaps.redacted.validate.mapError _ = s.electricityMaps.validate.mapError _
    rw [ElectricityMaps.Settings.validate_redacted h.electricityMaps]
  | electricityMapsFree =>
    show s.electricityMapsFree.redacted.validate.mapError _ = s.electricityMapsFree.validate.mapError _
    rw [ElectricityMapsFree.Settings.validate_redacted h.electricityMapsFree]
  | json => rfl

theorem Guarded.validate_redacted (h : s.Guarded) : s.redacted.validate = s.validate := by
  have hsources : s.redacted.validateSource = s.validateSource := funext h.validateSource_redacted
  unfold validate
  rw [hsources]
  rfl

theorem Guarded.summary_redacted (h : s.Guarded) : s.redacted.summary = s.summary := by
  have hheader : s.redacted.electricityMaps.header?.isSome = s.electricityMaps.header?.isSome :=
    s.electricityMaps.header?_redacted
  have htoken : s.redacted.electricityMapsFree.token?.isSome = s.electricityMapsFree.token?.isSome :=
    ElectricityMapsFree.Settings.token?_redacted h.electricityMapsFree
  have hwattTime : s.redacted.wattTime.isSome = s.wattTime.isSome := Option.isSome_map
  have hproxy : s.redacted.http.proxy.isSome = s.http.proxy.isSome := Option.isSome_map
  unfold summary
  rw [hheader, htoken, hwattTime, hproxy]
  rfl

theorem describe_wattTime_redacted (s : Settings) :
    s.redacted.wattTime.map WattTime.Settings.describe = s.wattTime.map WattTime.Settings.describe := by
  show (s.wattTime.map WattTime.Settings.redacted).map WattTime.Settings.describe = _
  rw [Option.map_map]
  rfl

end Settings

/-! ## Environments -/

namespace Environment

/-- The variables that hold secrets. -/
def secrets : List String :=
  ["WATTTIME_PASSWORD", "ELECTRICITYMAPS_API_TOKEN", "ELECTRICITYMAPSFREE_API_TOKEN",
    "CARBON_PROXY_PASSWORD"]

/-- All variables but secrets have the same values; a secret has the same value, too, or one in each
environment that is not blank. -/
structure DifferInSecrets (env env' : Environment) : Prop where
  others : ∀ name, name ∉ secrets → env name = env' name
  secrets : ∀ name ∈ secrets, env name = env' name ∨
    ∃ v v', env name = some v ∧ env' name = some v' ∧ Text.isBlankText v = false ∧
      Text.isBlankText v' = false

/-- The environment with its secrets blotted out. -/
def redacted (env : Environment) : Environment := fun name =>
  if name ∈ secrets then (env.value? name).map fun _ => blot else env name

variable {env : Environment}

theorem isBlankText_of_value? {name v : String} (h : env.value? name = some v) :
    Text.isBlankText v = false := by
  unfold value? at h
  split at h
  · cases h
  · next w hw =>
    split at h
    · cases h
    · next hblank =>
      obtain rfl := Option.some.inj h
      exact Text.isBlankText_trim (Bool.eq_false_iff.mpr hblank)

theorem value?_of_not_blank {name v : String} (h : env name = some v) (hv : Text.isBlankText v = false) :
    env.value? name = some (Text.trim v) := by
  unfold value?
  rw [h]
  simp only
  rw [hv, if_neg Bool.false_ne_true]

theorem redacted_eq {env' : Environment} (h : env.DifferInSecrets env') : env.redacted = env'.redacted := by
  funext name
  unfold redacted
  by_cases hsecret : name ∈ secrets
  · rw [if_pos hsecret, if_pos hsecret]
    rcases h.secrets name hsecret with hsame | ⟨v, v', hv, hv', hblank, hblank'⟩
    · unfold value?
      rw [hsame]
    · rw [value?_of_not_blank hv hblank, value?_of_not_blank hv' hblank']
      rfl
  · rw [if_neg hsecret, if_neg hsecret]
    exact h.others name hsecret

theorem value?_redacted {name : String} (h : name ∉ secrets) :
    env.redacted.value? name = env.value? name := by
  unfold value? redacted
  rw [if_neg h]

theorem value?_redacted_secret {name : String} (h : name ∈ secrets) :
    env.redacted.value? name = (env.value? name).map fun _ => blot := by
  have hname : env.redacted name = (env.value? name).map fun _ => blot := if_pos h
  cases hvalue : env.value? name with
  | none =>
    rw [hvalue] at hname
    unfold value?
    rw [hname]
    rfl
  | some v =>
    rw [hvalue] at hname
    rw [value?_of_not_blank hname isBlankText_blot, trim_blot]
    rfl

/-! ## Loading -/

/-- A variable that is no secret is read as before. -/
theorem parsed_redacted {α : Type} {name : String} (h : name ∉ secrets) (default : α)
    (parse : String → Except String α) :
    env.redacted.parsed name default parse = env.parsed name default parse := by
  unfold parsed
  rw [value?_redacted h]

theorem flag?_redacted {name : String} (h : name ∉ secrets) : env.redacted.flag? name = env.flag? name := by
  unfold flag?
  rw [value?_redacted h]

theorem natural_redacted {name : String} (h : name ∉ secrets) (default : Nat) :
    env.redacted.natural name default = env.natural name default := parsed_redacted h default _

theorem cache_redacted : env.redacted.cache = env.cache := by
  unfold cache signed
  rw [flag?_redacted (by decide), parsed_redacted (by decide)]

theorem factor_redacted : env.redacted.factor = env.factor := by
  have hvalue : env.redacted.value? "ELECTRICITYMAPS_EMISSION_FACTOR_TYPE" =
    env.value? "ELECTRICITYMAPS_EMISSION_FACTOR_TYPE" := value?_redacted (by decide)
  unfold factor
  simp only [hvalue]

theorem locationFiles_redacted : env.redacted.locationFiles = env.locationFiles := by
  have hvalue : env.redacted.value? "CARBON_LOCATION_FILES" = env.value? "CARBON_LOCATION_FILES" :=
    value?_redacted (by decide)
  unfold locationFiles
  simp only [hvalue]

theorem wattTime_redacted :
    env.redacted.wattTime = env.wattTime.map (Option.map WattTime.Settings.redacted) := by
  unfold wattTime
  rw [value?_redacted (by decide), value?_redacted_secret (by decide), value?_redacted (by decide),
    value?_redacted (by decide)]
  cases env.value? "WATTTIME_USERNAME" with
  | none => rfl
  | some username =>
    cases env.value? "WATTTIME_PASSWORD" with
    | none => rfl
    | some password =>
      simp only [Option.map_some]
      rw [natural_redacted (by decide)]
      cases env.natural "WATTTIME_REGION_CACHE_TTL_SECS" _ with
      | error report => rfl
      | ok seconds => rfl

theorem electricityMaps_redacted :
    env.redacted.electricityMaps = env.electricityMaps.map ElectricityMaps.Settings.redacted := by
  unfold electricityMaps
  rw [value?_redacted (by decide), value?_redacted_secret (by decide), value?_redacted (by decide),
    factor_redacted, flag?_redacted (by decide)]
  cases env.factor with
  | error report => rfl
  | ok factor =>
    cases env.flag? "ELECTRICITYMAPS_DISABLE_ESTIMATIONS" with
    | error report => rfl
    | ok disable => rfl

theorem electricityMapsFree_redacted :
    env.redacted.electricityMapsFree = env.electricityMapsFree.redacted := by
  unfold electricityMapsFree
  rw [value?_redacted_secret (by decide), value?_redacted (by decide)]
  rfl

theorem http_redacted : env.redacted.http = env.http.map HttpSettings.redacted := by
  unfold http
  dsimp only
  rw [natural_redacted (by decide), natural_redacted (by decide), value?_redacted (by decide),
    value?_redacted_secret (by decide), value?_redacted (by decide)]
  cases env.natural "HTTP_CLIENT_TIMEOUT_SECS" _ with
  | error report => rfl
  | ok timeout =>
    cases env.natural "HTTP_CLIENT_CONNECT_TIMEOUT_SECS" _ with
    | error report => rfl
    | ok connectTimeout =>
      cases env.value? "CARBON_PROXY_URL" with
      | none => rfl
      | some url => rfl

/-- The settings of an environment before they are checked. -/
def unchecked (env : Environment) : Except Report Settings := do
  let emissionsSource ← env.source "CARBON_EMISSIONS_DATA_SOURCE"
  let forecastSource ← env.source "CARBON_FORECAST_DATA_SOURCE"
  let wattTime ← env.wattTime
  let electricityMaps ← env.electricityMaps
  let cache ← env.cache
  let locationFiles ← env.locationFiles
  let http ← env.http
  return {
    emissionsSource
    forecastSource
    wattTime
    electricityMaps
    electricityMapsFree := env.electricityMapsFree
    cache
    dataFile := env.value? "CARBON_JSON_DATA_FILE"
    locationFiles
    locationDelimiter := (env.value? "CARBON_LOCATION_DELIMITER").getD "-"
    http }

theorem settings_eq (env : Environment) :
    env.settings = env.unchecked >>= fun s => s.validate >>= fun _ => .ok s := by
  unfold settings unchecked
  simp only [bind_assoc, pure_bind]
  rfl

theorem unchecked_redacted : env.redacted.unchecked = env.unchecked.map Settings.redacted := by
  unfold unchecked source
  rw [parsed_redacted (by decide), parsed_redacted (by decide), wattTime_redacted, electricityMaps_redacted,
    cache_redacted, locationFiles_redacted, http_redacted, electricityMapsFree_redacted,
    value?_redacted (by decide), value?_redacted (by decide)]
  cases env.parsed "CARBON_EMISSIONS_DATA_SOURCE" _ _ with
  | error report => rfl
  | ok emissionsSource =>
  cases env.parsed "CARBON_FORECAST_DATA_SOURCE" _ _ with
  | error report => rfl
  | ok forecastSource =>
  cases env.wattTime with
  | error report => rfl
  | ok wattTime =>
  cases env.electricityMaps with
  | error report => rfl
  | ok electricityMaps =>
  cases env.cache with
  | error report => rfl
  | ok cache =>
  cases env.locationFiles with
  | error report => rfl
  | ok locationFiles =>
  cases env.http with
  | error report => rfl
  | ok http => rfl

theorem guarded_of_unchecked {s : Settings} (h : env.unchecked = .ok s) : s.Guarded := by
  unfold unchecked at h
  obtain ⟨emissionsSource, -, h⟩ := bind_ok h
  obtain ⟨forecastSource, -, h⟩ := bind_ok h
  obtain ⟨wattTime, hwattTime, h⟩ := bind_ok h
  obtain ⟨electricityMaps, helectricityMaps, h⟩ := bind_ok h
  obtain ⟨cache, -, h⟩ := bind_ok h
  obtain ⟨locationFiles, -, h⟩ := bind_ok h
  obtain ⟨http, -, h⟩ := bind_ok h
  obtain rfl := Except.ok.inj h
  constructor
  case wattTime =>
    intro w hw
    obtain rfl : wattTime = some w := hw
    unfold Environment.wattTime at hwattTime
    split at hwattTime
    · next username password husername hpassword =>
      obtain ⟨seconds, -, hwattTime⟩ := bind_ok hwattTime
      obtain rfl := Option.some.inj (Except.ok.inj hwattTime)
      exact Text.isEmpty_of_not_blank (isBlankText_of_value? hpassword)
    · cases hwattTime
  case electricityMaps =>
    intro t ht
    unfold Environment.electricityMaps at helectricityMaps
    obtain ⟨factor, -, helectricityMaps⟩ := bind_ok helectricityMaps
    obtain ⟨disable, -, helectricityMaps⟩ := bind_ok helectricityMaps
    obtain rfl := Except.ok.inj helectricityMaps
    exact Text.isEmpty_of_not_blank (isBlankText_of_value? ht)
  case electricityMapsFree =>
    intro t ht
    exact isBlankText_of_value? ht

/-- Loading goes the same way with the secrets blotted out. -/
theorem settings_redacted (env : Environment) : env.redacted.settings = env.settings.map Settings.redacted := by
  rw [settings_eq, settings_eq, unchecked_redacted]
  cases hs : env.unchecked with
  | error report => rfl
  | ok s =>
    show (s.redacted.validate >>= fun _ => .ok s.redacted) = (s.validate >>= fun _ => .ok s).map _
    rw [(guarded_of_unchecked hs).validate_redacted]
    cases s.validate with
    | error report => rfl
    | ok u => rfl

theorem guarded_of_settings {s : Settings} (h : env.settings = .ok s) : s.Guarded := by
  rw [settings_eq] at h
  obtain ⟨t, ht, h⟩ := bind_ok h
  obtain ⟨_, -, h⟩ := bind_ok h
  obtain rfl := Except.ok.inj h
  exact guarded_of_unchecked ht

/-- **Secrets stay secret.** Of two environments that differ in nothing but the values of their secrets, both
are refused with the same report, or both are loaded: then the settings differ in nothing but the secrets,
and the summaries and descriptions of them are the same. -/
theorem settings_of_differInSecrets {env env' : Environment} (h : env.DifferInSecrets env') :
    (∃ report, env.settings = .error report ∧ env'.settings = .error report) ∨
      ∃ s s', env.settings = .ok s ∧ env'.settings = .ok s' ∧ s.redacted = s'.redacted ∧
        s.summary = s'.summary ∧
        s.wattTime.map WattTime.Settings.describe = s'.wattTime.map WattTime.Settings.describe ∧
        s.electricityMaps.describe = s'.electricityMaps.describe ∧
        s.electricityMapsFree.describe = s'.electricityMapsFree.describe := by
  have hsame : env.settings.map Settings.redacted = env'.settings.map Settings.redacted := by
    rw [← settings_redacted, ← settings_redacted, redacted_eq h]
  cases hs : env.settings with
  | error report =>
    cases hs' : env'.settings with
    | error report' =>
      rw [hs, hs'] at hsame
      obtain rfl : report = report' := Except.error.inj hsame
      exact .inl ⟨report, rfl, rfl⟩
    | ok s' =>
      rw [hs, hs'] at hsame
      cases hsame
  | ok s =>
    cases hs' : env'.settings with
    | error report' =>
      rw [hs, hs'] at hsame
      cases hsame
    | ok s' =>
      rw [hs, hs'] at hsame
      have hredacted : s.redacted = s'.redacted := Except.ok.inj hsame
      refine .inr ⟨s, s', rfl, rfl, hredacted, ?_, ?_, ?_, ?_⟩
      · rw [← (guarded_of_settings hs).summary_redacted, ← (guarded_of_settings hs').summary_redacted,
          hredacted]
      · rw [← s.describe_wattTime_redacted, ← s'.describe_wattTime_redacted, hredacted]
      · rw [← s.electricityMaps.describe_redacted, ← s'.electricityMaps.describe_redacted]
        exact congrArg (·.electricityMaps.describe) hredacted
      · rw [← s.electricityMapsFree.describe_redacted, ← s'.electricityMapsFree.describe_redacted]
        exact congrArg (·.electricityMapsFree.describe) hredacted

/-- Samples from WattTime and forecasts from the free tier, behind a proxy; all secrets are the same text. -/
def withSecret (secret : String) : Environment := fun name =>
  if name ∈ secrets then some secret
  else
    [("CARBON_EMISSIONS_DATA_SOURCE", "watttime"), ("CARBON_FORECAST_DATA_SOURCE", "electricity-maps-free"),
      ("WATTTIME_USERNAME", "user"), ("WATTTIME_BASE_URL", "http://[::1]/v3"),
      ("WATTTIME_AUTH_BASE_URL", "http://[::1]"), ("ELECTRICITYMAPSFREE_BASE_URL", "http://[::1]/v1"),
      ("ELECTRICITYMAPS_API_TOKEN_HEADER", "auth-token"), ("CARBON_PROXY_URL", "[::1]:3128"),
      ("CARBON_PROXY_USERNAME", "user")].lookup name

theorem withSecret_differInSecrets {v w : String} (hv : Text.isBlankText v = false)
    (hw : Text.isBlankText w = false) : (withSecret v).DifferInSecrets (withSecret w) where
  others name h := by
    unfold withSecret
    rw [if_neg h, if_neg h]
  secrets name h := .inr ⟨v, w, if_pos h, if_pos h, hv, hw⟩

theorem settings_of_differInSecrets_four :
    (withSecret "hunter2").DifferInSecrets (withSecret " correct horse ") ∧
      ∃ s s', (withSecret "hunter2").settings = .ok s ∧ (withSecret " correct horse ").settings = .ok s' ∧
        s.electricityMaps.token = some "hunter2" ∧ s'.electricityMaps.token = some "correct horse" ∧
        s.summary = s'.summary := by
  have hdiffer : (withSecret "hunter2").DifferInSecrets (withSecret " correct horse ") :=
    withSecret_differInSecrets (by decide) (by decide)
  have htoken : ((withSecret "hunter2").settings.toOption.map (·.electricityMaps.token)) =
      some (some "hunter2") := by decide +kernel
  have htoken' : ((withSecret " correct horse ").settings.toOption.map (·.electricityMaps.token)) =
      some (some "correct horse") := by decide +kernel
  obtain ⟨s, hs, hone⟩ := ok_of_toOption_map htoken
  obtain ⟨s', hs', hother⟩ := ok_of_toOption_map htoken'
  refine ⟨hdiffer, s, s', hs, hs', hone, hother, ?_⟩
  rcases settings_of_differInSecrets hdiffer with ⟨report, herror, -⟩ | ⟨t, t', ht, ht', -, hsummary, -⟩
  · rw [hs] at herror
    cases herror
  · obtain rfl := Except.ok.inj (hs.symm.trans ht)
    obtain rfl := Except.ok.inj (hs'.symm.trans ht')
    exact hsummary

end Environment

end CarbonIntensity
