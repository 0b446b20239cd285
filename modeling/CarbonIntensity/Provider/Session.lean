import CarbonIntensity.Failure
import CarbonIntensity.Http.Line
import CarbonIntensity.Http.Message
import CarbonIntensity.Json.Parser
import CarbonIntensity.Provider.Entitlements
import CarbonIntensity.Provider.RegionCache
import CarbonIntensity.Text.Basic

/-!
# Sessions

A session is what a client of a service remembers between questions, and the line it uses.

A client holds the token of its latest login, if that succeeded. A request without token logs in first.
If a request is rejected, one more login and one more request follow, whose answer is final.

The body of an answer is a JSON text. A body that is `null` but for blanks is no payload, and one of
another shape is malformed.
-/

namespace CarbonIntensity

/-! ## Credentials -/

namespace Credential

variable {σ : Type}

/-- Logs in; the token is held if the login succeeds, and none is held otherwise. -/
def login (slot : Slot σ (Option String)) (ask : Work Failure σ String) : Work Failure σ String :=
  Work.of fun s =>
    match ask.start s with
    | (.ok token, t) => (.ok token, slot.set (some token) t)
    | (.error e, t) => (.error e, slot.set none t)

/-- The token held, or that of a login. -/
def current (slot : Slot σ (Option String)) (ask : Work Failure σ String) : Work Failure σ String := do
  match ← Work.read slot with
  | some token => return token
  | none => login slot ask

/-- Sends a request with a token, and once more after a new login if it is rejected. -/
def sendWith (slot : Slot σ (Option String)) (ask : Work Failure σ String)
    (request : String → Work Failure σ Answer) (token : String) : Work Failure σ Answer := do
  let answer ← request token
  if Status.isRejection answer.status then
    let renewed ← login slot ask
    request renewed
  else return answer

/-- Sends a request with the token held or that of a login. -/
def send (slot : Slot σ (Option String)) (ask : Work Failure σ String)
    (request : String → Work Failure σ Answer) : Work Failure σ Answer := do
  let token ← current slot ask
  sendWith slot ask request token

/-- Asks for a URL with a query, with the token as a header. -/
def request (slot : Slot σ (Option String)) (ask : Work Failure σ String)
    (deliver : Request → Work Failure σ Answer) (url : Url) (query : List (String × String)) :
    Work Failure σ Answer :=
  send slot ask fun token => deliver (Request.get url query [Header.bearer token])

/-- Forgets the token. -/
def invalidate (slot : Slot σ (Option String)) : Work Failure σ Unit := Work.write slot none

end Credential

/-! ## Payloads -/

namespace Payload

def read {α : Type} (provider resource : String) (decode : Json → Option α) (body : String) :
    Except Failure α :=
  if Text.trim body = "null" then .error (.nullPayload provider resource)
  else
    match Json.decode decode body with
    | .ok a => .ok a
    | .error trouble =>
      .error (.malformedResponse provider (resource ++ ": " ++ trouble.message))

end Payload

/-! ## Sessions -/

/-- The token held, the regions of places, and what the token may be used for. -/
structure Memory where
  token : Option String
  regions : RegionCache
  entitlements : Entitlements
deriving Inhabited

/-- The memory of a client that has not been asked anything. -/
def Memory.fresh (regionLifetime : Span) : Memory :=
  ⟨none, RegionCache.empty regionLifetime, .unasked⟩

structure Session where
  line : Line
  memory : Memory
deriving Inhabited

namespace Session

def now (s : Session) : Instant := s.line.now

def lineSlot : Slot Session Line := ⟨line, fun l s => { s with line := l }⟩

def tokenSlot : Slot Session (Option String) :=
  ⟨(·.memory.token), fun t s => { s with memory := { s.memory with token := t } }⟩

def regionSlot : Slot Session RegionCache :=
  ⟨(·.memory.regions), fun c s => { s with memory := { s.memory with regions := c } }⟩

def entitlementSlot : Slot Session Entitlements :=
  ⟨(·.memory.entitlements), fun e s => { s with memory := { s.memory with entitlements := e } }⟩

/-- Sends a request over the line. -/
def send (provider : String) (r : Request) : Work Failure Session Answer :=
  Work.within lineSlot (Line.send provider r)

end Session

end CarbonIntensity
