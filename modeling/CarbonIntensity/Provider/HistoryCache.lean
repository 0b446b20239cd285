import CarbonIntensity.Assoc
import CarbonIntensity.Provider.Basic
import CarbonIntensity.Text.Basic

/-!
# The cache of latest histories

A provider behind the cache answers a question for the history of a location from its latest answer
for that location, if that has not expired and has a sample that starts in the asked period. All other
questions go to the provider. Locations without a name are never remembered.
-/

namespace CarbonIntensity

/-- Whether the cache is wanted and how many minutes an answer stays valid. -/
structure CacheSettings where
  enabled : Bool
  minutes : Int
deriving DecidableEq, Inhabited

namespace CacheSettings

/-- The name that faults with the cache are reported under. -/
def component : String := "EmissionsDataCache"

/-- The lifetime of an answer: a positive number of minutes that is a span. -/
def expiration (s : CacheSettings) : Except Failure Span :=
  if s.minutes ≤ 0 then
    .error (.configuration component
      "expiration period for the data cache must be greater than 0")
  else
    match Span.ofMinutes? s.minutes with
    | some d => .ok d
    | none =>
      .error (.configuration component
        ("expiration of " ++ Text.ofInt s.minutes ++ " minutes is out of range"))

/-- The lifetime is only looked at if the cache is wanted. -/
def validate (s : CacheSettings) : Except Failure Unit :=
  if s.enabled then s.expiration.map fun _ => () else .ok ()

end CacheSettings

structure HistoryEntry where
  expires : Instant
  samples : List Sample
deriving Inhabited

/-- The latest answer for each location. -/
abbrev HistoryCache := List (String × HistoryEntry)

namespace HistoryCache

/-- The remembered samples that start in the period, if there are any. -/
def find? (c : HistoryCache) (now : Instant) (location : String) (p : Period) :
    Option (List Sample) :=
  match c.lookup location with
  | some e =>
    if now < e.expires then
      let hits := e.samples.filter fun s => p.holds s.start
      if hits.isEmpty then none else some hits
    else none
  | none => none

def remember (c : HistoryCache) (now : Instant) (lifetime : Span) (location : String)
    (samples : List Sample) : HistoryCache :=
  Assoc.put location ⟨now.addOrLatest lifetime, samples⟩ c

/-- A history read through the cache. The clock is read again after asking. -/
def readThrough {σ : Type} (slot : Slot σ HistoryCache) (now : σ → Instant) (lifetime : Span)
    (location : String) (p : Period) (ask : Work Failure σ (List Sample)) : Work Failure σ (List Sample) :=
  if Text.isBlankText location then ask
  else
    Work.of fun s =>
      match (slot.get s).find? (now s) location p with
      | some hits => (.ok hits, s)
      | none =>
        match ask.start s with
        | (.ok samples, t) =>
          (.ok samples, slot.set ((slot.get t).remember (now t) lifetime location samples) t)
        | (.error e, t) => (.error e, t)

end HistoryCache

/-- The provider behind the cache. -/
def Provider.cached {σ : Type} (slot : Slot σ HistoryCache) (now : σ → Instant) (lifetime : Span)
    (q : Provider σ) : Provider σ :=
  { q with
    history := fun location p =>
      HistoryCache.readThrough slot now lifetime location p (q.history location p) }

end CarbonIntensity
