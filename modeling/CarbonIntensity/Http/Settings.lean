import CarbonIntensity.Failure
import CarbonIntensity.Url.Parser

/-!
# Settings of outgoing requests

How long a request and its connection may take, and the proxy. The URL of a proxy needs a host; if it
has no scheme that of the web is assumed.

The paths of a service are joined to its base URL. A slash is put at the end of its text, so that no
segment of its path is lost.
-/

namespace CarbonIntensity

structure ProxySettings where
  url : String
  username : Option String := none
  password : Option String := none
deriving DecidableEq, Inhabited

structure HttpSettings where
  /-- Seconds for a whole request. -/
  timeout : Nat := 30
  /-- Seconds for its connection. -/
  connectTimeout : Nat := 10
  proxy : Option ProxySettings := none
deriving DecidableEq, Inhabited

namespace HttpSettings

/-- The name that faults with these settings are reported under. -/
def component : String := "http-client"

/-- The URL with a host, if the text is one. -/
def hostUrl? (s : String) : Option Url :=
  match Url.parse s with
  | .ok url => if url.hasHost then some url else none
  | .error _ => none

/-- Whether a URL can be that of a proxy, perhaps after its scheme is put in front. -/
def isProxyUrl (s : String) : Bool :=
  match Url.parse s with
  | .ok url => url.hasHost || (hostUrl? ("http://" ++ s)).isSome
  | .error .relativeWithoutBase => (hostUrl? ("http://" ++ s)).isSome
  | .error _ => false

def validate (s : HttpSettings) : Except Failure Unit :=
  match s.proxy with
  | none => .ok ()
  | some proxy =>
    if isProxyUrl proxy.url then .ok ()
    else .error (.configuration component "invalid proxy url: builder error")

end HttpSettings

/-! ## Base URLs -/

namespace BaseUrl

def withSlash (raw : String) : String := if raw.toList.getLast? = some '/' then raw else raw ++ "/"

def parse (provider setting raw : String) : Except Failure Url :=
  match Url.parse (withSlash raw) with
  | .error fault =>
    .error (.configuration provider
      (setting ++ " '" ++ raw ++ "' is not a valid absolute url: " ++ fault.message))
  | .ok url =>
    if url.hasRootlessPath then
      .error (.configuration provider
        (setting ++ " '" ++ raw ++ "' cannot be used as a base url"))
    else .ok url

/-- The URL of a path of the service. -/
def endpoint (provider : String) (base : Url) (path : String) : Except Failure Url :=
  match base.join path with
  | .ok url => .ok url
  | .error fault =>
    .error (.configuration provider ("cannot build url for " ++ path ++ ": " ++ fault.message))

end BaseUrl

end CarbonIntensity
