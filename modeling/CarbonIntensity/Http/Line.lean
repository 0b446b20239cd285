import CarbonIntensity.Failure
import CarbonIntensity.Http.Message
import CarbonIntensity.Provider.Basic
import CarbonIntensity.Text.Bytes
import CarbonIntensity.Time.Instant
import CarbonIntensity.Url.Parser

/-!
# Requests over a line

A line leads to a peer that answers requests in turn: a peer with a script takes its replies from the
front and answers with status 500 when there are none left, and an unreachable one never answers. The
line keeps what was sent and has the clock that its clients read.

A request with a malformed header, or to a URL that cannot be asked for, is not sent.
-/

namespace CarbonIntensity

structure Request where
  url : Url
  headers : List Header
deriving DecidableEq, Inhabited

structure Answer where
  status : Nat
  body : String
deriving DecidableEq, Inhabited

inductive Reply where
  | answer (a : Answer)
  /-- The connection is closed without an answer. -/
  | dropped
deriving DecidableEq, Inhabited

inductive Peer where
  | unreachable
  | scripted (replies : List Reply)
deriving DecidableEq, Inhabited

namespace Peer

def exhausted : Answer := ⟨500, "no scripted response"⟩

/-- The next answer, if there is one, and the peer after it. -/
def respond : Peer → Option Answer × Peer
  | unreachable => (none, unreachable)
  | scripted [] => (some exhausted, scripted [])
  | scripted (.answer a :: rest) => (some a, scripted rest)
  | scripted (.dropped :: rest) => (none, scripted rest)

end Peer

structure Line where
  clock : Clock
  peer : Peer
  /-- What was sent, the first request first. -/
  sent : List Request
deriving DecidableEq, Inhabited

namespace Request

/-- What an encoded part of a URL stands for, if it is a text. -/
def plainText? (s : String) : Option String := Text.ofBytes? (Text.percentDecode s.toList)

/-- User and password in a URL. There are none if the user is no text; a password that is no text
counts as missing. -/
def credentials? (url : Url) : Option (String × String) := do
  let user ← plainText? url.username
  let password := if url.password.isEmpty then none else plainText? url.password
  if user.isEmpty && password.isNone then none else some (user, password.getD "")

/-- A request for a URL with a query. Credentials in the URL become a header. A URL without a host
takes neither. -/
def get (url : Url) (query : List (String × String)) (headers : List Header) : Request :=
  if !url.hasHost then ⟨url, headers⟩
  else
    let asked :=
      if query.isEmpty then url
      else { url with query := some (String.ofList (Text.formPairs query)) }
    match credentials? url with
    | none => ⟨asked, headers⟩
    | some (user, password) =>
      ⟨{ asked with username := "", password := "" }, Header.basic user password :: headers⟩

/-- The longest URL in bytes that can be asked for. -/
def urlLimit : Nat := 65534

/-- A URL of the web that fits into a request: some marks are no part of a host there. -/
def isAskable (url : Url) : Bool :=
  (url.scheme == "http" || url.scheme == "https") &&
    !url.host.any (fun h => h.text.toList.any "\"\x60\x7b\x7d".toList.contains) &&
    url.text.utf8ByteSize ≤ urlLimit

/-- Why a request cannot be sent. -/
def trouble? (r : Request) : Option String :=
  let builder := "builder error"
  let forUrl := builder ++ " for url (" ++ r.url.text ++ ")"
  if !r.url.hasHost then some forUrl
  else if !r.headers.all Header.isValid then some builder
  else if !isAskable r.url then some forUrl
  else none

end Request

namespace Line

def now (l : Line) : Instant := l.clock.now

/-- Sends a request and waits for its answer. -/
def send (provider : String) (r : Request) : Work Failure Line Answer :=
  Work.of fun l =>
    match r.trouble? with
    | some reason => (.error (.transport provider reason), l)
    | none =>
      let (answer, peer) := l.peer.respond
      let l := { l with peer := peer, sent := l.sent ++ [r] }
      match answer with
      | some a => (.ok a, l)
      | none =>
        (.error (.transport provider
          ("error sending request for url (" ++ r.url.text ++ ")")), l)

end Line

end CarbonIntensity
