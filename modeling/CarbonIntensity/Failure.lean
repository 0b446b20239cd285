import CarbonIntensity.Text.Basic

/-!
# Failures of providers

Why a provider gave no answer. Every failure that is reported names the provider, but for those about a
location.
-/

namespace CarbonIntensity

inductive Failure where
  /-- The login did not give a token. -/
  | authentication (provider reason : String)
  /-- An answer with a status that is no success. -/
  | http (provider path : String) (status : Nat) (message : String)
  /-- A zone or path that the credential does not cover. -/
  | entitlement (provider message : String)
  /-- No answer was received. -/
  | transport (provider reason : String)
  | malformedResponse (provider reason : String)
  /-- The answer was an explicit null. -/
  | nullPayload (provider resource : String)
  | unsupported (provider operation : String)
  | unknownLocation (location : String)
  /-- The location cannot be put the way the provider needs it. -/
  | locationConversion (location reason : String)
  | configuration (provider reason : String)
  /-- An instant out of range. Nobody reports this, the program stops at it. -/
  | overflow
deriving DecidableEq, Inhabited

namespace Failure

def message : Failure → String
  | authentication provider reason => provider ++ " authentication failed: " ++ reason
  | http provider path status message =>
    provider ++ " request to " ++ path ++ " failed with status " ++ Text.ofNat status ++ ": " ++
      message
  | entitlement provider message => provider ++ " entitlement check failed: " ++ message
  | transport provider reason => provider ++ " transport error: " ++ reason
  | malformedResponse provider reason =>
    provider ++ " returned a malformed response: " ++ reason
  | nullPayload provider resource => provider ++ " returned no payload for " ++ resource
  | unsupported provider operation => provider ++ " does not support " ++ operation
  | unknownLocation location => "Unknown location: '" ++ location ++ "'"
  | locationConversion location reason =>
    "Cannot convert location '" ++ location ++ "': " ++ reason
  | configuration provider reason => provider ++ " configuration error: " ++ reason
  | overflow => "`DateTime - TimeDelta` overflowed"

/-- The status of the answer, if there was one. -/
def status? : Failure → Option Nat
  | http _ _ status _ => some status
  | _ => none

/-- What lies beneath the failure, outermost first. -/
def causes : Failure → List String
  | transport _ reason => [reason]
  | _ => []

end Failure

end CarbonIntensity
