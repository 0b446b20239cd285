import CarbonIntensity.Assoc
import CarbonIntensity.Failure
import CarbonIntensity.Location.Position
import CarbonIntensity.Number.Dyadic
import CarbonIntensity.Provider.Basic
import CarbonIntensity.Time.Instant

/-!
# Remembered regions

The regions of places are remembered for a lifetime. Places are told apart by their coordinates rounded
to four decimals. A region is found strictly before it expires; storing one drops those that have
expired.
-/

namespace CarbonIntensity

/-- Coordinates in units of a ten thousandth of a degree. -/
structure RegionKey where
  latitude : Int
  longitude : Int
deriving DecidableEq, Inhabited

def RegionKey.ofCoordinates (c : Coordinates) : RegionKey :=
  let rounded (x : Float) : Int := (Dyadic.ofFloat (x * 10000.0)).nearestInt64
  ⟨rounded c.latitude, rounded c.longitude⟩

structure RegionEntry where
  region : String
  expires : Instant
deriving DecidableEq, Inhabited

structure RegionCache where
  lifetime : Span
  entries : List (RegionKey × RegionEntry)
deriving Inhabited

namespace RegionCache

def empty (lifetime : Span) : RegionCache := ⟨lifetime, []⟩

/-- A lifetime in seconds; one that is no span is the longest. -/
def lifetimeOfSeconds (n : Nat) : Span := (Span.ofSeconds? n).getD Span.longest

def size (c : RegionCache) : Nat := c.entries.length

def isEmpty (c : RegionCache) : Bool := c.entries.isEmpty

/-- When a region stored now expires. -/
def expiry (c : RegionCache) (now : Instant) : Instant := now.addOrLatest c.lifetime

def find? (c : RegionCache) (now : Instant) (place : Coordinates) : Option String :=
  match c.entries.lookup (RegionKey.ofCoordinates place) with
  | some e => if now < e.expires then some e.region else none
  | none => none

def insert (c : RegionCache) (now : Instant) (place : Coordinates) (region : String) : RegionCache :=
  let live := c.entries.filter fun e => now < e.2.expires
  { c with
    entries := Assoc.put (RegionKey.ofCoordinates place) ⟨region, c.expiry now⟩ live }

/-- The remembered region, or the answer of `ask`, which is remembered if there is one. The clock is
read again after asking. -/
def readThrough {σ : Type} (slot : Slot σ RegionCache) (now : σ → Instant) (place : Coordinates)
    (ask : Work Failure σ String) : Work Failure σ String :=
  Work.of fun s =>
    match (slot.get s).find? (now s) place with
    | some region => (.ok region, s)
    | none =>
      match ask.start s with
      | (.ok region, t) => (.ok region, slot.set ((slot.get t).insert (now t) place region) t)
      | (.error e, t) => (.error e, t)

end RegionCache

end CarbonIntensity
