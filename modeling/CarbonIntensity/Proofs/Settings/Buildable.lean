import CarbonIntensity.Proofs.Outcome
import CarbonIntensity.Proofs.Url.Join
import CarbonIntensity.Provider.Sources
import CarbonIntensity.Settings.Environment

/-!
# Settings that load can be built

Settings are checked when they are loaded, and the sources are built of them later on, where the clients
check their settings once more and join the paths of their services to the base URLs. What the second
look needs the first one has made sure of:

    env.settings = .ok s → s.Buildable      (Environment.buildable_of_settings)

What is left to go wrong lies outside the settings: the URL of a proxy, which is only looked at when the
sources are built, and the files of locations and of data.
-/

namespace CarbonIntensity

/-- There is a value, unless a failure of this kind is reported. -/
def OkUnless {α : Type} (kind : Failure → Prop) (r : Except Report α) : Prop :=
  (∃ a, r = .ok a) ∨ ∃ f, kind f ∧ r = .error (Report.ofFailure f)

namespace OkUnless

variable {α β : Type} {kind : Failure → Prop}

theorem ok (a : α) : OkUnless kind (.ok a) := .inl ⟨a, rfl⟩

theorem bind {r : Except Report α} {f : α → Except Report β} (hr : OkUnless kind r)
    (hf : ∀ a, OkUnless kind (f a)) : OkUnless kind (r >>= f) := by
  rcases hr with ⟨a, rfl⟩ | ⟨failure, hkind, rfl⟩
  · exact hf a
  · exact .inr ⟨failure, hkind, rfl⟩

theorem ofFailure {r : Except Failure α} (h : ∀ f, r = .error f → kind f) :
    OkUnless kind (r.mapError Report.ofFailure) := by
  cases r with
  | ok a => exact .inl ⟨a, rfl⟩
  | error f => exact .inr ⟨f, h f rfl, rfl⟩

theorem mono {kind' : Failure → Prop} {r : Except Report α} (hr : OkUnless kind r)
    (h : ∀ f, kind f → kind' f) : OkUnless kind' r :=
  hr.imp_right fun ⟨f, hkind, hf⟩ => ⟨f, h f hkind, hf⟩

end OkUnless

/-! ## Clients -/

theorem BaseUrl.hasRootlessPath_of_parse {provider setting raw : String} {base : Url}
    (h : BaseUrl.parse provider setting raw = .ok base) : base.hasRootlessPath = false := by
  unfold parse at h
  split at h
  · cases h
  · split at h
    · cases h
    · next hpath =>
      obtain rfl := Except.ok.inj h
      exact Bool.eq_false_iff.mpr hpath

theorem WattTime.Client.create_of_validate {settings : WattTime.Settings} (locations : Registry)
    (h : settings.validate = .ok ()) : ∃ c, Client.create settings locations = .ok c := by
  have hvalid := h
  unfold WattTime.Settings.validate at h
  obtain ⟨-, h⟩ := ok_of_guard h
  obtain ⟨-, h⟩ := ok_of_guard h
  obtain ⟨_, hbase, hauth⟩ := bind_ok h
  obtain ⟨base, hbase⟩ := ok_of_discard hbase
  obtain ⟨auth, hauth⟩ := ok_of_discard hauth
  unfold create
  rw [hvalid, hbase, hauth]
  exact ⟨_, rfl⟩

theorem ElectricityMaps.Client.create_of_validate {settings : ElectricityMaps.Settings}
    (locations : Registry) (h : settings.validate = .ok ()) :
    ∃ c, Client.create settings locations = .ok c := by
  have hvalid := h
  unfold ElectricityMaps.Settings.validate at h
  obtain ⟨-, h⟩ := ok_of_guard h
  obtain ⟨-, h⟩ := ok_of_guard h
  obtain ⟨base, hbase⟩ := ok_of_discard h
  unfold create
  rw [hvalid, hbase]
  exact ⟨_, rfl⟩

/-- The only path of the free tier can be joined to each base URL that is valid. -/
theorem ElectricityMapsFree.Client.create_of_validate {settings : ElectricityMapsFree.Settings}
    (locations : Registry) (h : settings.validate = .ok ()) :
    ∃ c, Client.create settings locations = .ok c := by
  have hvalid := h
  unfold ElectricityMapsFree.Settings.validate at h
  obtain ⟨hsome, h⟩ := ok_of_guard h
  obtain ⟨base, hbase⟩ := ok_of_discard h
  cases htoken : settings.token? with
  | none =>
    rw [htoken] at hsome
    exact absurd rfl hsome
  | some token =>
    obtain ⟨latest, hlatest⟩ : ∃ u, base.join "latest" = .ok u :=
      Url.exists_join_plain (List.cons_ne_nil "latest" []) (by decide)
        (BaseUrl.hasRootlessPath_of_parse hbase)
    have hendpoint : BaseUrl.endpoint providerName base "latest" = .ok latest := by
      unfold BaseUrl.endpoint
      rw [hlatest]
    unfold create
    rw [hvalid, htoken, hbase]
    show ∃ c, (BaseUrl.endpoint providerName base "latest" >>= _) = Except.ok c
    rw [hendpoint]
    exact ⟨_, rfl⟩

/-! ## Location files -/

namespace Registry

variable {files : Files} {delimiter : String}

/-- What is wrong with a file does not depend on what was loaded before it. -/
theorem loadFile_error {r : Registry} (r' : Registry) {file : LocationFile} {f : Failure}
    (h : r.loadFile files file delimiter = .error f) : r'.loadFile files file delimiter = .error f := by
  unfold loadFile at *
  cases htext : files file.path with
  | error trouble =>
    rw [htext] at h
    exact h
  | ok text =>
    rw [htext] at h
    simp only at h ⊢
    unfold loadText at *
    cases hdecode : Json.decode (Json.entries? Position.ofJson?) text with
    | error trouble =>
      rw [hdecode] at h
      exact h
    | ok positions =>
      rw [hdecode] at h
      simp only at h ⊢
      unfold load at *
      cases hfind : positions.find? fun entry => !entry.2.isValid with
      | some entry =>
        rw [hfind] at h
        exact h
      | none =>
        rw [hfind] at h
        cases h

theorem ofFiles_error {list : List LocationFile} {f : Failure}
    (h : ofFiles files list delimiter = .error f) :
    ∃ file ∈ list, empty.loadFile files file delimiter = .error f := by
  have key : ∀ (list : List LocationFile) (r : Registry),
      list.foldlM (fun r file => r.loadFile files file delimiter) r = .error f →
        ∃ file ∈ list, empty.loadFile files file delimiter = .error f := by
    intro list
    induction list with
    | nil =>
      intro r h
      cases h
    | cons file list ih =>
      intro r h
      rw [List.foldlM_cons] at h
      cases hfile : r.loadFile files file delimiter with
      | error g =>
        rw [hfile] at h
        obtain rfl := Except.error.inj h
        exact ⟨file, List.mem_cons_self .., loadFile_error empty hfile⟩
      | ok next =>
        rw [hfile] at h
        obtain ⟨other, hmem, herror⟩ := ih next h
        exact ⟨other, List.mem_cons_of_mem file hmem, herror⟩
  exact key list empty h

end Registry

/-! ## What settings make sure of -/

namespace Settings

variable {s : Settings}

/-- What is outside the settings and can keep the sources from being built. -/
inductive Obstacle (s : Settings) (files : Files) : Failure → Prop
  /-- The URL of the proxy is none of a proxy. -/
  | proxy {p : ProxySettings} : s.http.proxy = some p → HttpSettings.isProxyUrl p.url = false →
      Obstacle s files (.configuration HttpSettings.component "invalid proxy url: builder error")
  /-- A file of locations cannot be read or does not hold locations. -/
  | locationFile {file : LocationFile} {f : Failure} : file ∈ s.locationFiles →
      Registry.empty.loadFile files file s.locationDelimiter = .error f → Obstacle s files f
  /-- The data file is chosen as a source and cannot be read or does not hold data. -/
  | dataFile {path : String} {f : Failure} : .json ∈ s.selected → s.dataFile = some path →
      DataFile.load files path = .error f → Obstacle s files f

/-- The provider of each chosen source can be built, that of a data file if the file can be loaded, and
so can the cache if it is wanted. -/
structure Buildable (s : Settings) : Prop where
  station (source : DataSource) : source ∈ s.selected → ∀ files locations,
    OkUnless (fun f => source = .json ∧ ∃ path, s.dataFile = some path ∧
      DataFile.load files path = .error f) (Station.ofSource s files locations source)
  lifetime : s.cache.enabled = true → ∃ d, s.cache.expiration = .ok d

theorem station_of_validateSource {source : DataSource} (h : s.validateSource source = .ok ())
    (files : Files) (locations : Registry) :
    OkUnless (fun f => source = .json ∧ ∃ path, s.dataFile = some path ∧
      DataFile.load files path = .error f) (Station.ofSource s files locations source) := by
  unfold Station.ofSource
  unfold validateSource at h
  cases source with
  | wattTime =>
    cases hw : s.wattTime with
    | none =>
      rw [hw] at h
      cases h
    | some w =>
      rw [hw] at h
      obtain ⟨c, hc⟩ := WattTime.Client.create_of_validate locations (ok_of_mapError h)
      simp only
      rw [hc]
      exact .ok _
  | electricityMaps =>
    obtain ⟨c, hc⟩ := ElectricityMaps.Client.create_of_validate locations (ok_of_mapError h)
    simp only
    rw [hc]
    exact .ok _
  | electricityMapsFree =>
    obtain ⟨c, hc⟩ := ElectricityMapsFree.Client.create_of_validate locations (ok_of_mapError h)
    simp only
    rw [hc]
    exact .ok _
  | json =>
    cases hpath : s.dataFile with
    | none =>
      rw [hpath] at h
      cases h
    | some path =>
      simp only
      cases hload : DataFile.load files path with
      | ok d => exact .ok _
      | error f => exact .inr ⟨f, ⟨trivial, path, rfl, hload⟩, rfl⟩

theorem buildable_of_validate (h : s.validate = .ok ()) : s.Buildable := by
  unfold validate at h
  obtain ⟨-, h⟩ := ok_of_guard h
  obtain ⟨_, hselected, h⟩ := bind_ok h
  obtain ⟨_, hcache, -⟩ := bind_ok h
  constructor
  case station =>
    intro source hsource files locations
    exact station_of_validateSource (ok_of_forM hselected source hsource) files locations
  case lifetime =>
    intro henabled
    have hvalid := ok_of_mapError hcache
    unfold CacheSettings.validate at hvalid
    rw [if_pos henabled] at hvalid
    exact ok_of_map hvalid

/-! ## Building -/

theorem obstacle_of_http {files : Files} {f : Failure} (h : s.http.validate = .error f) :
    s.Obstacle files f := by
  unfold HttpSettings.validate at h
  split at h
  · cases h
  · next p hproxy =>
    split at h
    · cases h
    · next hurl =>
      obtain rfl := Except.error.inj h
      exact .proxy hproxy (Bool.eq_false_iff.mpr hurl)

theorem mem_selected (s : Settings) : s.emissionsSource ∈ s.selected ∧ s.forecastSource ∈ s.selected := by
  unfold selected
  split
  · next h => simp [h]
  · simp

/-- Only an obstacle keeps sources from being built of settings that are buildable. -/
theorem Buildable.ofSettings (h : s.Buildable) (files : Files) (line : Line) :
    OkUnless (s.Obstacle files) (Sources.ofSettings s files line) := by
  have station : ∀ source ∈ s.selected, ∀ locations,
      OkUnless (s.Obstacle files) (Station.ofSource s files locations source) := by
    intro source hsource locations
    apply (h.station source hsource files locations).mono
    rintro f ⟨rfl, path, hpath, hload⟩
    exact .dataFile hsource hpath hload
  obtain ⟨hemissions, hforecast⟩ := s.mem_selected
  unfold Sources.ofSettings
  refine .bind (.ofFailure fun f hf => obstacle_of_http hf) fun _ => ?_
  refine .bind (.ofFailure fun f hf => ?_) fun locations => ?_
  · obtain ⟨file, hfile, herror⟩ := Registry.ofFiles_error hf
    exact .locationFile hfile herror
  refine .bind (station _ hemissions locations) fun first => ?_
  simp only
  -- One station serves both roles or each has its own, and the cache is wanted or not.
  split
  · refine .bind (.ok first) fun second => ?_
    split
    · next henabled =>
      obtain ⟨lifetime, hlifetime⟩ := h.lifetime henabled
      rw [hlifetime]
      exact .ok _
    · exact .ok _
  · refine .bind (station _ hforecast locations) fun second => ?_
    split
    · next henabled =>
      obtain ⟨lifetime, hlifetime⟩ := h.lifetime henabled
      rw [hlifetime]
      exact .ok _
    · exact .ok _

end Settings

namespace Environment

theorem validate_of_settings {env : Environment} {s : Settings} (h : env.settings = .ok s) :
    s.validate = .ok () := by
  unfold settings at h
  obtain ⟨emissionsSource, -, h⟩ := bind_ok h
  obtain ⟨forecastSource, -, h⟩ := bind_ok h
  obtain ⟨wattTime, -, h⟩ := bind_ok h
  obtain ⟨electricityMaps, -, h⟩ := bind_ok h
  obtain ⟨cache, -, h⟩ := bind_ok h
  obtain ⟨locationFiles, -, h⟩ := bind_ok h
  obtain ⟨http, -, h⟩ := bind_ok h
  obtain ⟨_, hvalid, h⟩ := bind_ok h
  obtain rfl := Except.ok.inj h
  exact hvalid

/-- **Settings that load can be built.** Of settings that were loaded, whatever the environment is, the
providers of both roles and the cache can be built. The sources fail to be built only because of the
proxy, a file of locations or the data file. -/
theorem buildable_of_settings {env : Environment} {s : Settings} (h : env.settings = .ok s) :
    s.Buildable ∧ ∀ files line, OkUnless (s.Obstacle files) (Sources.ofSettings s files line) := by
  have hbuildable := Settings.buildable_of_validate (validate_of_settings h)
  exact ⟨hbuildable, hbuildable.ofSettings⟩

/-- Samples from a data file behind the cache and forecasts from the free tier, with a file of locations
and a proxy. -/
theorem buildable_of_settings_two_sources :
    let env : Environment := fun name =>
      [("CARBON_EMISSIONS_DATA_SOURCE", " JSON "), ("CARBON_FORECAST_DATA_SOURCE", "electricity-maps-free"),
        ("CARBON_JSON_DATA_FILE", "data.json"), ("CARBON_EMISSIONS_CACHE_ENABLED", "yes"),
        ("ELECTRICITYMAPSFREE_API_TOKEN", " token "), ("ELECTRICITYMAPSFREE_BASE_URL", "http://[::1]/v1"),
        ("CARBON_LOCATION_FILES", "grid=places.json"), ("CARBON_PROXY_URL", "[::1]:3128")].lookup name
    ∃ s, env.settings = .ok s ∧ s.emissionsSource = .json ∧ s.forecastSource = .electricityMapsFree ∧
      s.Buildable ∧ ∀ files line, OkUnless (s.Obstacle files) (Sources.ofSettings s files line) := by
  intro env
  have hloads : (env.settings.toOption.map fun s => (s.emissionsSource, s.forecastSource)) =
      some (.json, .electricityMapsFree) := by decide +kernel
  cases h : env.settings with
  | error report =>
    rw [h] at hloads
    cases hloads
  | ok s =>
    rw [h] at hloads
    obtain ⟨hemissions, hforecast⟩ := Prod.mk.inj (Option.some.inj hloads)
    exact ⟨s, rfl, hemissions, hforecast, buildable_of_settings h⟩

end Environment

end CarbonIntensity
