import CarbonIntensity.Assoc
import CarbonIntensity.Number.Numeral
import CarbonIntensity.Time.Parser

/-!
# JSON values

A value as it stands in a text. Numbers keep their numerals, since what a numeral means depends on
who reads it, and the fields of an object keep their order and their repetitions. A string whose
escapes do not form Unicode text can be skipped but not read.
-/

namespace CarbonIntensity

inductive Json where
  | null
  | bool (b : Bool)
  | number (n : Numeral)
  | string (s : String)
  /-- A string with an unpaired surrogate. -/
  | brokenString
  | array (items : List Json)
  /-- Fields in the order of the text; a name with an unpaired surrogate is none. -/
  | object (fields : List (Option String × Json))
deriving Inhabited

namespace Json

/-! ## Reading simple values -/

def text? : Json → Option String
  | string s => some s
  | _ => none

def bool? : Json → Option Bool
  | bool b => some b
  | _ => none

def float? : Json → Option Float
  | number n => n.accumulated?
  | _ => none

def int64? : Json → Option Int
  | number n => n.int64?
  | _ => none

def instant? : Json → Option Instant
  | string s => Instant.parse? s
  | _ => none

def list? {α : Type} (read : Json → Option α) : Json → Option (List α)
  | array items => items.mapM read
  | _ => none

/-- The entries of an object used as a map; of a repeated name the last value counts, though all have
to be readable. -/
def entries? {α : Type} (read : Json → Option α) : Json → Option (List (String × α))
  | object fields =>
    fields.foldlM
      (fun acc field => do return Assoc.put (← field.1) (← read field.2) acc) []
  | _ => none

/-! ## Reading records -/

/-- The values of the declared fields, each found under one of its names. An object may have further
fields but none of these twice; an array gives the fields in the declared order, and may be too short
but not too long. -/
def record? (names : List (List String)) : Json → Option (List (Option Json))
  | array items =>
    if items.length ≤ names.length then
      some (items.map some ++ List.replicate (names.length - items.length) none)
    else none
  | object fields =>
    if fields.all (·.1.isSome) then
      names.mapM fun alternatives =>
        match fields.filter fun field => field.1.any (· ∈ alternatives) with
        | [] => some none
        | [field] => some (some field.2)
        | _ => none
    else none
  | _ => none

/-- A field that must be given. -/
def required {α : Type} (read : Json → Option α) (field : Option Json) : Option α :=
  field.bind read

/-- A field with a value that stands in where it is not given. -/
def withDefault {α : Type} (value : α) (read : Json → Option α) : Option Json → Option α
  | none => some value
  | some j => read j

/-- A field that may be left out or null. -/
def optional {α : Type} (read : Json → Option α) : Option Json → Option (Option α)
  | none => some none
  | some null => some none
  | some j => (read j).map some

end Json

end CarbonIntensity
