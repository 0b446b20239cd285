import CarbonIntensity.Failure
import CarbonIntensity.Location.Position
import CarbonIntensity.Sample

/-!
# Providers and their work

Asking a provider changes what the client remembers, also where it fails: work is a computation over a
state `σ` that gives a value or a fault and in both cases a state. A `Slot` names a component of a
state, so that work on the component is work on the whole.

A provider of carbon intensities answers four questions over a state of its own:

* `history`: the samples of a location that have a part in a period;
* `currentForecast`: the most recent forecast for a location;
* `forecastAsOf`: the forecast as it stood at an instant, none if there was none yet;
* `region`: the provider's own name for the region of a place.
-/

namespace CarbonIntensity

abbrev Work (ε σ : Type) := ExceptT ε (StateM σ)

/-- A component of a state that can be read and replaced. -/
structure Slot (σ τ : Type) where
  get : σ → τ
  set : τ → σ → σ

namespace Slot

variable {σ τ υ : Type}

def whole : Slot σ σ := ⟨id, fun s _ => s⟩

/-- A component of a component. -/
def inside (outer : Slot σ τ) (inner : Slot τ υ) : Slot σ υ :=
  ⟨fun s => inner.get (outer.get s), fun u s => outer.set (inner.set u (outer.get s)) s⟩

end Slot

namespace Work

variable {ε ε' σ τ α : Type}

/-- Runs work from a state. -/
def start (w : Work ε σ α) (s : σ) : Except ε α × σ := StateT.run (ExceptT.run w) s

/-- Work given by what it does to a state. -/
def of (f : σ → Except ε α × σ) : Work ε σ α := ExceptT.mk f

def read (p : Slot σ τ) : Work ε σ τ := of fun s => (.ok (p.get s), s)

def write (p : Slot σ τ) (t : τ) : Work ε σ Unit := of fun s => (.ok (), p.set t s)

def fail (e : ε) : Work ε σ α := of fun s => (.error e, s)

def ofExcept (r : Except ε α) : Work ε σ α := of fun s => (r, s)

/-- Work on a component. -/
def within (p : Slot σ τ) (w : Work ε τ α) : Work ε σ α :=
  of fun s =>
    let (r, t) := w.start (p.get s)
    (r, p.set t s)

/-- The same work with its faults put differently. -/
def mapFault (f : ε → ε') (w : Work ε σ α) : Work ε' σ α :=
  of fun s =>
    let (r, t) := w.start s
    (r.mapError f, t)

/-! ## Lemmas -/

@[simp] theorem start_of (f : σ → Except ε α × σ) (s : σ) : (of f).start s = f s := rfl

@[simp] theorem start_read (p : Slot σ τ) (s : σ) :
    (read p : Work ε σ τ).start s = (.ok (p.get s), s) := rfl

@[simp] theorem start_write (p : Slot σ τ) (t : τ) (s : σ) :
    (write p t : Work ε σ Unit).start s = (.ok (), p.set t s) := rfl

@[simp] theorem start_fail (e : ε) (s : σ) : (fail e : Work ε σ α).start s = (.error e, s) := rfl

@[simp] theorem start_ofExcept (r : Except ε α) (s : σ) : (ofExcept r).start s = (r, s) := rfl

@[simp] theorem start_pure (a : α) (s : σ) : (pure a : Work ε σ α).start s = (.ok a, s) := rfl

@[simp] theorem start_within (p : Slot σ τ) (w : Work ε τ α) (s : σ) :
    (within p w).start s = ((w.start (p.get s)).1, p.set (w.start (p.get s)).2 s) := rfl

@[simp] theorem start_mapFault (f : ε → ε') (w : Work ε σ α) (s : σ) :
    (mapFault f w).start s = ((w.start s).1.mapError f, (w.start s).2) := rfl

theorem start_bind {β : Type} (w : Work ε σ α) (f : α → Work ε σ β) (s : σ) :
    (w >>= f).start s =
      match w.start s with
      | (.ok a, t) => (f a).start t
      | (.error e, t) => (.error e, t) := by
  show StateT.run (ExceptT.run (w >>= f)) s = _
  simp only [start, ExceptT.run_bind, StateT.run_bind]
  rcases h : StateT.run (ExceptT.run w) s with ⟨_ | _, _⟩ <;> rfl

end Work

/-! ## Providers -/

structure Provider (σ : Type) where
  name : String
  history : String → Period → Work Failure σ (List Sample)
  currentForecast : String → Work Failure σ Forecast
  forecastAsOf : String → Instant → Work Failure σ (Option Forecast)
  region : Coordinates → Work Failure σ String

namespace Provider

/-- The provider over a component of a larger state. -/
def within {σ τ : Type} (p : Slot σ τ) (q : Provider τ) : Provider σ where
  name := q.name
  history location period := Work.within p (q.history location period)
  currentForecast location := Work.within p (q.currentForecast location)
  forecastAsOf location requested := Work.within p (q.forecastAsOf location requested)
  region place := Work.within p (q.region place)

end Provider

end CarbonIntensity
