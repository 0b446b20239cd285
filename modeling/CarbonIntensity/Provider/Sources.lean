import CarbonIntensity.ElectricityMaps.Client
import CarbonIntensity.ElectricityMapsFree.Client
import CarbonIntensity.Provider.DataFile
import CarbonIntensity.Provider.HistoryCache
import CarbonIntensity.Settings.Basic
import CarbonIntensity.WattTime.Client

/-!
# Sources

The provider of samples and that of forecasts. A source chosen for both is one provider with one
memory; the cache stands before the provider of samples only.
-/

namespace CarbonIntensity

structure Sources (σ : Type) where
  emissions : Provider σ
  forecast : Provider σ

/-- The state of a provider and what is cached of it. -/
structure Cached (τ : Type) where
  inner : τ
  history : HistoryCache

namespace Cached

variable {τ : Type}

def innerSlot : Slot (Cached τ) τ := ⟨inner, fun t s => { s with inner := t }⟩

def historySlot : Slot (Cached τ) HistoryCache := ⟨history, fun h s => { s with history := h }⟩

end Cached

namespace Sources

/-- A provider in both roles, behind a cache in the first if a lifetime is given. -/
def ofProvider {τ : Type} (q : Provider τ) (now : τ → Instant) (lifetime : Option Span) :
    Sources (Cached τ) :=
  let plain := q.within Cached.innerSlot
  { emissions := match lifetime with
      | none => plain
      | some d => plain.cached Cached.historySlot (fun s => now s.inner) d
    forecast := plain }

end Sources

/-- The state of two clients over one line, and what is cached. -/
structure Desk where
  line : Line
  first : Memory
  second : Memory
  history : HistoryCache
deriving Inhabited

namespace Desk

def now (d : Desk) : Instant := d.line.now

/-- The session of the client that serves samples, or both. -/
def firstSlot : Slot Desk Session :=
  ⟨fun d => ⟨d.line, d.first⟩, fun s d => { d with line := s.line, first := s.memory }⟩

/-- The session of a client that serves forecasts only. -/
def secondSlot : Slot Desk Session :=
  ⟨fun d => ⟨d.line, d.second⟩, fun s d => { d with line := s.line, second := s.memory }⟩

def historySlot : Slot Desk HistoryCache := ⟨history, fun h d => { d with history := h }⟩

end Desk

/-- A provider over a session, and for how long it remembers regions. -/
structure Station where
  provider : Provider Session
  regionLifetime : Span

namespace Station

/-- The provider of a source. -/
def ofSource (s : Settings) (files : Files) (locations : Registry) :
    DataSource → Except Report Station
  | .wattTime =>
    match s.wattTime with
    | none => .error ⟨"WattTime selected without credentials", []⟩
    | some settings =>
      match WattTime.Client.create settings locations with
      | .ok c => .ok ⟨c.provider, RegionCache.lifetimeOfSeconds settings.regionSeconds⟩
      | .error f => .error (Report.ofFailure f)
  | .electricityMaps =>
    match ElectricityMaps.Client.create s.electricityMaps locations with
    | .ok c => .ok ⟨c.provider, RegionCache.lifetimeOfSeconds s.electricityMaps.regionSeconds⟩
    | .error f => .error (Report.ofFailure f)
  | .electricityMapsFree =>
    match ElectricityMapsFree.Client.create s.electricityMapsFree locations with
    | .ok c => .ok ⟨c.provider, RegionCache.lifetimeOfSeconds s.electricityMapsFree.regionSeconds⟩
    | .error f => .error (Report.ofFailure f)
  | .json =>
    match s.dataFile with
    | none => .error ⟨"JSON data source selected without a data file", []⟩
    | some path =>
      match DataFile.load files path with
      | .ok d => .ok ⟨d.provider, Span.zero⟩
      | .error f => .error (Report.ofFailure f)

end Station

namespace Sources

/-- The sources that settings ask for, and their state before the first question. -/
def ofSettings (s : Settings) (files : Files) (line : Line) :
    Except Report (Sources Desk × Desk) := do
  s.http.validate.mapError Report.ofFailure
  let locations ←
    (Registry.ofFiles files s.locationFiles s.locationDelimiter).mapError Report.ofFailure
  let first ← Station.ofSource s files locations s.emissionsSource
  let shared := s.forecastSource = s.emissionsSource
  let second ← if shared then pure first else Station.ofSource s files locations s.forecastSource
  let emissions := first.provider.within Desk.firstSlot
  let forecast := second.provider.within (if shared then Desk.firstSlot else Desk.secondSlot)
  let emissions ←
    if s.cache.enabled then do
      let lifetime ← s.cache.expiration.mapError Report.ofFailure
      pure (emissions.cached Desk.historySlot Desk.now lifetime)
    else pure emissions
  return (⟨emissions, forecast⟩,
    ⟨line, Memory.fresh first.regionLifetime, Memory.fresh second.regionLifetime, []⟩)

end Sources

end CarbonIntensity
