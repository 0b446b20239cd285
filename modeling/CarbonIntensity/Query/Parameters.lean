import CarbonIntensity.Assoc
import CarbonIntensity.Text.Basic
import CarbonIntensity.Time.Instant

/-!
# Parameters of queries

What a query can give are its properties, in the order in which they are reported, each with the name
under which it is reported. All queries are put into one record of parameters; blank names of locations do
not count as given.
-/

namespace CarbonIntensity

/-! ## Properties -/

inductive Property where
  | locations
  | location
  | start
  | stop
  | window
  | requested
deriving DecidableEq, Inhabited

namespace Property

/-- All properties in the order of reports. -/
def all : List Property := [locations, location, start, stop, window, requested]

def name : Property → String
  | locations => "MultipleLocations"
  | location => "SingleLocation"
  | start => "Start"
  | stop => "End"
  | window => "Duration"
  | requested => "Requested"

theorem mem_all (p : Property) : p ∈ all := by cases p <;> decide

end Property

/-- Rules about two properties. -/
inductive Relationship where
  /-- A start and an end that are both given have to be in order. -/
  | startBeforeStop
  /-- An end may only be given with a start. -/
  | startIfStop
deriving DecidableEq, Inhabited

/-- Names of properties that differ from the usual ones. -/
structure DisplayNames where
  overrides : List (Property × String)
deriving DecidableEq, Inhabited

namespace DisplayNames

def usual : DisplayNames := ⟨[]⟩

def rename (d : DisplayNames) (p : Property) (name : String) : DisplayNames :=
  ⟨Assoc.put p name d.overrides⟩

def name (d : DisplayNames) (p : Property) : String := (d.overrides.lookup p).getD p.name

end DisplayNames

/-! ## Parameters -/

structure Parameters where
  locations : List String := []
  location : Option String := none
  start : Option Instant := none
  stop : Option Instant := none
  window : Option Span := none
  requested : Option Instant := none
deriving DecidableEq, Inhabited

namespace Parameters

def withLocations (p : Parameters) (names : List String) : Parameters :=
  { p with locations := names.filter fun name => !Text.isBlankText name }

def withLocation (p : Parameters) (name : String) : Parameters :=
  { p with location := if Text.isBlankText name then none else some name }

def isSet (p : Parameters) : Property → Bool
  | .locations => !p.locations.isEmpty
  | .location => p.location.isSome
  | .start => p.start.isSome
  | .stop => p.stop.isSome
  | .window => p.window.isSome
  | .requested => p.requested.isSome

def startOr (p : Parameters) (t : Instant) : Instant := p.start.getD t

def stopOr (p : Parameters) (t : Instant) : Instant := p.stop.getD t

/-- The size of windows; zero leaves samples as they are. -/
def windowSize (p : Parameters) : Span := p.window.getD Span.zero

end Parameters

/-! ## Queries -/

/-- Asks for the samples of several locations. -/
structure EmissionsQuery where
  locations : List String
  start : Option Instant := none
  stop : Option Instant := none
deriving DecidableEq, Inhabited

/-- Asks for the mean of one location over a period. -/
structure MeanQuery where
  location : String
  start : Option Instant := none
  stop : Option Instant := none
deriving DecidableEq, Inhabited

/-- Asks for the current forecasts of several locations. -/
structure ForecastQuery where
  locations : List String
  start : Option Instant := none
  stop : Option Instant := none
  window : Option Span := none
deriving DecidableEq, Inhabited

/-- Asks for the forecast of one location as it stood at an instant. -/
structure PastForecastQuery where
  location : String
  requested : Option Instant := none
  start : Option Instant := none
  stop : Option Instant := none
  window : Option Span := none
deriving DecidableEq, Inhabited

def EmissionsQuery.parameters (q : EmissionsQuery) : Parameters :=
  Parameters.withLocations { start := q.start, stop := q.stop } q.locations

def MeanQuery.parameters (q : MeanQuery) : Parameters :=
  Parameters.withLocation { start := q.start, stop := q.stop } q.location

def ForecastQuery.parameters (q : ForecastQuery) : Parameters :=
  Parameters.withLocations { start := q.start, stop := q.stop, window := q.window } q.locations

def PastForecastQuery.parameters (q : PastForecastQuery) : Parameters :=
  Parameters.withLocation
    { start := q.start, stop := q.stop, window := q.window, requested := q.requested } q.location

end CarbonIntensity
