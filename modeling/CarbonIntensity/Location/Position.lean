import CarbonIntensity.Json.Basic
import CarbonIntensity.Number.Notation
import CarbonIntensity.Text.Basic

/-!
# Positions

A place on earth is given by latitude and longitude in decimal degrees. How a location is known to
providers is its position: coordinates, the name of its zone or country, or both. In JSON a coordinate is a
number or a text with one; a blank text leaves it out.
-/

namespace CarbonIntensity

structure Coordinates where
  latitude : Float
  longitude : Float
deriving DecidableEq, Inhabited

namespace Coordinates

def latitudeText (c : Coordinates) : String := displayFloat c.latitude

def longitudeText (c : Coordinates) : String := displayFloat c.longitude

def text (c : Coordinates) : String := c.latitudeText ++ "," ++ c.longitudeText

end Coordinates

structure Position where
  name : Option String
  latitude : Option Float
  longitude : Option Float
deriving Inhabited

namespace Position

/-- Both coordinates, if both are known. -/
def coordinates? (p : Position) : Option Coordinates :=
  match p.latitude, p.longitude with
  | some latitude, some longitude => some ⟨latitude, longitude⟩
  | _, _ => none

def hasName (p : Position) : Bool :=
  match p.name with
  | some name => !Text.isBlankText name
  | none => false

/-- A name that is not blank or both coordinates are known. -/
def isValid (p : Position) : Bool := p.hasName || p.coordinates?.isSome

/-! ## JSON -/

/-- A coordinate that is given; none if it is blank. -/
def coordinateOfJson? : Json → Option (Option Float)
  | .null => some none
  | .number n => n.accumulated?.map some
  | .string s =>
    if Text.isBlankText s then some none else (Numeral.floatOfText? (Text.trim s)).map some
  | _ => none

def ofJson? (j : Json) : Option Position := do
  match ← j.record? [["name", "Name"], ["latitude", "Latitude"], ["longitude", "Longitude"]] with
  | [name, latitude, longitude] =>
    return {
      name := ← Json.optional Json.text? name
      latitude := ← Json.withDefault none coordinateOfJson? latitude
      longitude := ← Json.withDefault none coordinateOfJson? longitude }
  | _ => none

end Position

end CarbonIntensity
