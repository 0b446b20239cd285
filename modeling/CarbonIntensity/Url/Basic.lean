import CarbonIntensity.Text.Basic
import CarbonIntensity.Url.Host

/-!
# URLs

A URL in its normal form. The path is a list of segments, each written after a slash; a URL without
host and without a slash after its scheme has a rootless path instead, which nothing can be joined to.
-/

namespace CarbonIntensity

inductive UrlPath where
  | segments (list : List String)
  | rootless (text : String)
deriving DecidableEq, Inhabited

/-- The segments, none if the path is rootless. -/
def UrlPath.segmentList : UrlPath → List String
  | .segments list => list
  | .rootless _ => []

structure Url where
  scheme : String
  username : String
  password : String
  host : Option Host
  /-- None if it is the usual one of the scheme. -/
  port : Option Nat
  path : UrlPath
  query : Option String
  fragment : Option String
deriving DecidableEq, Inhabited

namespace Url

/-- Schemes whose URLs always have a host and a path. -/
def isSpecial (scheme : String) : Bool :=
  ["http", "https", "ws", "wss", "ftp", "file"].contains scheme

def defaultPort? (scheme : String) : Option Nat :=
  [("http", 80), ("ws", 80), ("https", 443), ("wss", 443), ("ftp", 21)].lookup scheme

def hasRootlessPath (u : Url) : Bool :=
  match u.path with
  | .rootless _ => true
  | .segments _ => false

/-- The URL names a host. -/
def hasHost (u : Url) : Bool := u.host.any (· != .domain "")

def credentialsText (u : Url) : String :=
  if u.username.isEmpty && u.password.isEmpty then ""
  else
    u.username ++ (if u.password.isEmpty then "" else ":" ++ u.password) ++ "@"

def portText (u : Url) : String :=
  match u.port with
  | none => ""
  | some p => ":" ++ Text.ofNat p

def authorityText (u : Url) : String :=
  match u.host with
  | none => ""
  | some h => "//" ++ u.credentialsText ++ h.text ++ u.portText

/-- The path; where it could be taken for a host it starts with `/.`. -/
def pathText (u : Url) : String :=
  match u.path with
  | .rootless text => text
  | .segments list =>
    let guard := match u.host, list with
      | none, "" :: _ :: _ => "/."
      | _, _ => ""
    guard ++ String.join (list.map ("/" ++ ·))

def queryText (u : Url) : String :=
  match u.query with
  | none => ""
  | some q => "?" ++ q

def fragmentText (u : Url) : String :=
  match u.fragment with
  | none => ""
  | some f => "#" ++ f

def text (u : Url) : String :=
  u.scheme ++ ":" ++ u.authorityText ++ u.pathText ++ u.queryText ++ u.fragmentText

end Url

end CarbonIntensity
