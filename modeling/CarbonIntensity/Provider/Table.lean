import CarbonIntensity.Provider.Basic
import CarbonIntensity.Series.Basic
import CarbonIntensity.Time.Instant

/-!
# The provider over tables

A provider whose answers are given in advance for each location, and that keeps a record of the
questions. Histories are clipped to the asked period unless that is switched off.
-/

namespace CarbonIntensity

inductive Call where
  | history (location : String) (period : Period)
  | currentForecast (location : String)
  | forecastAsOf (location : String) (requested : Instant)
  | region (place : Coordinates)

/-- Answers by location. -/
structure Table where
  name : String
  histories : List (String × Except Failure (List Sample)) := []
  forecasts : List (String × Except Failure Forecast) := []
  snapshots : List (String × Except Failure Forecast) := []
  clips : Bool := true

structure TableSession where
  clock : Clock
  table : Table
  /-- The questions, the first one first. -/
  calls : List Call

namespace TableSession

def now (s : TableSession) : Instant := s.clock.now

def clockSlot : Slot TableSession Clock := ⟨clock, fun c s => { s with clock := c }⟩

def record (call : Call) : Work Failure TableSession Unit :=
  Work.of fun s => (.ok (), { s with calls := s.calls ++ [call] })

end TableSession

namespace Table

def history (t : Table) (location : String) (p : Period) : Except Failure (List Sample) :=
  match t.histories.lookup location with
  | some answer => answer.map fun samples => if t.clips then Series.clip p samples else samples
  | none => .error (.unknownLocation location)

def forecast (t : Table) (location : String) : Except Failure Forecast :=
  (t.forecasts.lookup location).getD (.error (.unknownLocation location))

/-- The forecast as it stood; a location without an entry had none. -/
def snapshot (t : Table) (location : String) : Except Failure (Option Forecast) :=
  match t.snapshots.lookup location with
  | some answer => answer.map some
  | none => .ok none

/-- Records a question and answers it from the tables. -/
def answer {α : Type} (call : Call) (f : Table → Except Failure α) : Work Failure TableSession α := do
  TableSession.record call
  Work.of fun s => (f s.table, s)

def provider (name : String) : Provider TableSession where
  name := name
  history location p := answer (.history location p) fun t => t.history location p
  currentForecast location := answer (.currentForecast location) fun t => t.forecast location
  forecastAsOf location requested :=
    answer (.forecastAsOf location requested) fun t => t.snapshot location
  region place := answer (.region place) fun _ => .ok place.text

end Table

end CarbonIntensity
