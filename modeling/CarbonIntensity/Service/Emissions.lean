import CarbonIntensity.Fault
import CarbonIntensity.Provider.Basic
import CarbonIntensity.Query.Validator
import CarbonIntensity.Series.Basic
import CarbonIntensity.Series.Mean

/-!
# Queries for emissions

A query is validated before any provider is asked. Locations are asked one after another in the order
of the query, and the first failure ends the query, put under its location. Without a start the period
starts now, and without an end it is one instant.
-/

namespace CarbonIntensity

/-- Puts a failure of a provider under the location that was asked about. -/
def Work.atLocation {σ α : Type} (location : String) (w : Work Failure σ α) : Work Fault σ α :=
  w.mapFault fun e => .atLocation location (.provider e)

structure EmissionsService (σ : Type) where
  provider : Provider σ
  now : σ → Instant
  names : DisplayNames

namespace EmissionsService

variable {σ : Type}

/-- The rules of queries over several locations. -/
def manyValidator (e : EmissionsService σ) : Validator :=
  ((Validator.usual.require [.locations]).check [.startIfStop]).withNames e.names

/-- The rules of queries for a mean. -/
def meanValidator (e : EmissionsService σ) : Validator :=
  (Validator.usual.require [.location, .start, .stop]).withNames e.names

/-- The period of parameters, which starts now if no start is given. -/
def period (now : Instant) (p : Parameters) : Period :=
  ⟨p.startOr now, p.stopOr (p.startOr now)⟩

def validated (v : Validator) (p : Parameters) : Work Fault σ Parameters :=
  Work.ofExcept ((v.validate p).mapError .validation)

/-- The samples of every location in the period. -/
def emissions (e : EmissionsService σ) (q : EmissionsQuery) : Work Fault σ (List Sample) := do
  let p ← validated e.manyValidator q.parameters
  let now := e.now (← Work.read Slot.whole)
  let histories ← p.locations.mapM fun location =>
    (e.provider.history location (period now p)).atLocation location
  return histories.flatten

/-- The best of the samples of all locations. -/
def best (e : EmissionsService σ) (q : EmissionsQuery) : Work Fault σ (List Sample) := do
  return Series.optimum (← e.emissions q)

/-- The mean of a location over the period. -/
def mean (e : EmissionsService σ) (q : MeanQuery) : Work Fault σ Float := do
  let p ← validated e.meanValidator q.parameters
  let location := p.location.getD ""
  let now := e.now (← Work.read Slot.whole)
  let samples ← (e.provider.history location (period now p)).atLocation location
  Work.ofExcept ((Series.mean (period now p) samples).mapError fun f =>
    .atLocation location (.series f))

end EmissionsService

end CarbonIntensity
