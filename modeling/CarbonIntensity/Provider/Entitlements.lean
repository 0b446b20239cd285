import CarbonIntensity.Failure
import CarbonIntensity.Json.Basic
import CarbonIntensity.Provider.Basic

/-!
# Entitlements

Which paths a credential may use for which zones. The table is asked for at most once, before the first
check; if that fails, all later checks pass.
-/

namespace CarbonIntensity

structure ZoneAccess where
  zoneName : String
  access : List String
deriving DecidableEq, Inhabited

namespace ZoneAccess

/-- The path itself or the wildcard is granted. -/
def allows (z : ZoneAccess) (path : String) : Bool :=
  z.access.any fun granted => granted == path || granted == "*"

def ofJson? (j : Json) : Option ZoneAccess := do
  match ← j.record? [["zoneName"], ["access"]] with
  | [zoneName, access] =>
    return {
      zoneName := ← Json.withDefault "" Json.text? zoneName
      access := ← Json.withDefault [] (Json.list? Json.text?) access }
  | _ => none

end ZoneAccess

abbrev ZoneTable := List (String × ZoneAccess)

def ZoneTable.ofJson? (j : Json) : Option ZoneTable := Json.entries? ZoneAccess.ofJson? j

inductive Entitlements where
  | unasked
  /-- The table was asked for in vain. -/
  | unavailable
  | known (zones : ZoneTable)
deriving DecidableEq, Inhabited

namespace Entitlements

def isAsked : Entitlements → Bool
  | unasked => false
  | _ => true

/-- What an answer to the question for the table is remembered as. -/
def ofAnswer : Except Failure ZoneTable → Entitlements
  | .ok zones => known zones
  | .error _ => unavailable

/-- The decision for a zone and a path once the table was asked for. -/
def decide (provider zone path : String) : Entitlements → Except Failure Unit
  | known zones =>
    match zones.lookup zone with
    | none =>
      .error (.entitlement provider ("zone '" ++ zone ++ "' is not available for this token"))
    | some access =>
      if access.allows path then .ok ()
      else
        .error (.entitlement provider
          ("endpoint '" ++ path ++ "' is not available for zone '" ++ zone ++ "'"))
  | _ => .ok ()

/-- Asks for the table if nobody has, and decides. -/
def check {σ : Type} (slot : Slot σ Entitlements) (provider zone path : String)
    (ask : Work Failure σ ZoneTable) : Work Failure σ Unit :=
  Work.of fun s =>
    match slot.get s with
    | .unasked =>
      let (answer, t) := ask.start s
      let e := ofAnswer answer
      (e.decide provider zone path, slot.set e t)
    | e => (e.decide provider zone path, s)

end Entitlements

end CarbonIntensity
