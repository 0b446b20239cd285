import CarbonIntensity.Url.Path

/-!
# Reading URLs

Blanks and controls around a URL and line ends inside it are dropped. What follows the scheme is read
by the kind of scheme:

* a special scheme is followed by any slashes, a host, and a path;
* `file` may leave its host out;
* another scheme has a host only after two slashes, and a rootless path if there is no slash at all.

A relative text is joined to a base: it replaces the segment after the last slash of the base's path,
or the whole path, host or URL if it starts with one slash, two slashes or a scheme.
-/

namespace CarbonIntensity.Url

/-- The characters that are read. -/
def cleaned (s : String) : List Char :=
  let isEdge (c : Char) : Bool := c.toNat ≤ 0x20
  let trimmed := ((s.toList.dropWhile isEdge).reverse.dropWhile isEdge).reverse
  trimmed.filter fun c => c ≠ '\t' && c ≠ '\n' && c ≠ '\r'

/-- The end of host and credentials. -/
def endsAuthority (special : Bool) (c : Char) : Bool :=
  isSlash special c || c = '?' || c = '#'

/-! ## Parts -/

/-- The scheme before the first colon, lowered, and what follows it. -/
def scheme? (cs : List Char) : Option (String × List Char) :=
  let isSchemeChar (c : Char) : Bool := c.isAlphanum || c = '+' || c = '-' || c = '.'
  match cs with
  | [] => none
  | c :: _ =>
    match cs.dropWhile isSchemeChar with
    | ':' :: rest =>
      if c.isAlpha then some (String.ofList ((cs.takeWhile isSchemeChar).map Char.toLower), rest)
      else none
    | _ => none

/-- The texts before and after the last `@`. -/
def splitLastAt (cs : List Char) : Option (List Char × List Char) :=
  let after := (cs.reverse.takeWhile (· ≠ '@')).reverse
  if after.length = cs.length then none
  else some (cs.take (cs.length - after.length - 1), after)

/-- The credentials before a host, without the `@`, and what follows. An `@` right at the start has to
be followed by something. -/
def takeUser (special : Bool) (cs : List Char) : Except UrlFault (List Char × List Char) :=
  let authority := cs.takeWhile fun c => !endsAuthority special c
  let rest := cs.drop authority.length
  match splitLastAt authority with
  | none => .ok ([], cs)
  | some (user, host) =>
    if user.isEmpty && host.isEmpty && !rest.isEmpty then .error .emptyHost
    else .ok (user, host ++ rest)

/-- The host, and what follows it: a colon outside brackets or the end of the authority ends it. -/
def takeHost (special inside : Bool) : List Char → List Char × List Char
  | [] => ([], [])
  | c :: rest =>
    if endsAuthority special c || (c = ':' && !inside) then ([], c :: rest)
    else
      let inside := if c = '[' then true else if c = ']' then false else inside
      let (host, after) := takeHost special inside rest
      (c :: host, after)

/-- The port after a colon, if there is one, and what follows: a number below 65536 up to a slash of
either kind, a query or a fragment; none if it is missing or the usual one. -/
def takePort (scheme : String) (cs : List Char) : Except UrlFault (Option Nat × List Char) :=
  match cs with
  | ':' :: cs =>
    let (ds, rest) := Text.spanDigits cs
    let n := Text.natOfDigits ds
    if 65535 < n || rest.head?.any (fun c => !endsAuthority true c) then .error .invalidPort
    else .ok (if ds.isEmpty || defaultPort? scheme == some n then none else some n, rest)
  | cs => .ok (none, cs)

/-- Puts query and fragment after a URL that has none. -/
def withTail (u : Url) (cs : List Char) : Url :=
  let fragmentOf (cs : List Char) : Option String :=
    match cs with
    | '#' :: rest => some (encoded keepsFragment rest)
    | _ => none
  match cs with
  | '?' :: rest =>
    let query := rest.takeWhile (· ≠ '#')
    { u with
      query := some (encoded (keepsQuery (isSpecial u.scheme)) query)
      fragment := fragmentOf (rest.drop query.length) }
  | cs => { u with fragment := fragmentOf cs }

/-- Nothing but a query or fragment, which take the place of those of a base. -/
def isTail (cs : List Char) : Bool := cs.head?.all fun c => c = '?' || c = '#'

/-! ## Whole URLs -/

/-- A URL without credentials and port. -/
def plain (scheme : String) (host : Option Host) (path : UrlPath) : Url :=
  ⟨scheme, "", "", host, none, path, none, none⟩

/-- What follows the slashes of a URL with a host. The host may be empty only if the scheme is not
special, and neither credentials nor a port stand with it. -/
def afterSlashes (scheme : String) (cs : List Char) : Except UrlFault Url := do
  let special := isSpecial scheme
  let (user, cs) ← takeUser special cs
  let (hostText, cs) := takeHost special false cs
  let host ←
    if special then (if hostText.isEmpty then throw .emptyHost else Host.parse hostText)
    else Host.parseVerbatim hostText
  if hostText.isEmpty && cs.head? == some ':' then throw .emptyHost
  let (port, cs) ← takePort scheme cs
  if hostText.isEmpty && user ≠ [] && user ≠ [':'] then throw .emptyHost
  let username := user.takeWhile (· ≠ ':')
  let (path, cs) := pathAfterHost special false cs
  return withTail
    { scheme := scheme
      username := encoded keepsUser username
      password := encoded keepsUser ((user.drop username.length).drop 1)
      host := some host
      port := port
      path := .segments path
      query := none
      fragment := none }
    cs

/-! ## Files -/

/-- The URL of a file, whose host gives way to a drive. -/
def ofFile (host : Host) (path : List String) (tail : List Char) : Url :=
  let host := if path.head?.any isPlainDrive then .domain "" else host
  withTail (plain "file" (some host) (.segments (withoutEmptyStart path))) tail

/-- What follows two slashes: a host, unless a drive stands in its place. This machine's name counts as
no host. -/
def fileAfterSlashes (cs : List Char) : Except UrlFault Url := do
  let hostText := cs.takeWhile fun c => !endsAuthority true c
  if isDrive hostText then
    let (path, tail) := takeSegments true true [] [] cs
    return ofFile (.domain "") path tail
  else
    let host ← if hostText.isEmpty then pure (Host.domain "") else Host.parse hostText
    let cs := cs.drop hostText.length
    if host = .domain "" ∨ host = .domain "localhost" then
      let (path, tail) := takeSegments true true [] [] cs
      return ofFile (.domain "") path tail
    else
      let (path, tail) := pathAfterHost true true cs
      return ofFile host path tail

/-- A drive at the start of a text that is a whole segment. -/
def startsWithDriveSegment : List Char → Bool := startsWithDrive "/\\?#"

/-- What follows one slash. Drive or host of a base are kept, unless the text has a drive itself. -/
def fileAfterSlash (base : Option Url) (cs : List Char) : Url :=
  let kept : Host × List String :=
    match base with
    | none => (.domain "", [])
    | some b =>
      if startsWithDriveSegment cs then (.domain "", [])
      else
        match b.path.segmentList.head? with
        | some first =>
          if isPlainDrive first then (.domain "", [first]) else (b.host.getD (.domain ""), [])
        | none => (b.host.getD (.domain ""), [])
  let (path, tail) := takeSegments true true kept.2 [] cs
  ofFile kept.1 path tail

/-- A text without slash in front. -/
def fileFromText (base : Option Url) (cs : List Char) : Url :=
  let rooted (_ : Unit) : Url :=
    let (path, tail) := takeSegments true true [] [] cs
    ofFile (.domain "") path tail
  match base with
  | none => rooted ()
  | some b =>
    if isTail cs then withTail b cs
    else if startsWithDriveSegment cs then rooted ()
    else
      let (path, tail) := takeSegments true true (fileParent b.path.segmentList) [] cs
      withTail { b with
        path := .segments (withoutEmptyStart path)
        query := none
        fragment := none } tail

/-- What follows `file:`, where `base` is the URL of a file or none. -/
def fileUrl (base : Option Url) (cs : List Char) : Except UrlFault Url :=
  let rest := cs.drop 1
  if cs.head?.any (isSlash true) then
    if rest.head?.any (isSlash true) then fileAfterSlashes (rest.drop 1)
    else .ok (fileAfterSlash base rest)
  else .ok (fileFromText base cs)

/-! ## Any scheme -/

/-- What follows the colon of an absolute URL. -/
def afterScheme (scheme : String) (cs : List Char) : Except UrlFault Url :=
  if scheme = "file" then fileUrl none cs
  else if isSpecial scheme then afterSlashes scheme (cs.dropWhile (isSlash true))
  else
    match cs with
    | '/' :: '/' :: rest => afterSlashes scheme rest
    | '/' :: rest =>
      let (path, tail) := takeSegments false false [] [] rest
      .ok (withTail (plain scheme none (.segments path)) tail)
    | cs =>
      let path := cs.takeWhile fun c => c ≠ '?' && c ≠ '#'
      .ok (withTail (plain scheme none (.rootless (encoded (keepsBut "") path)))
        (cs.drop path.length))

/-- The absolute URL that a text denotes. -/
def parse (s : String) : Except UrlFault Url :=
  match scheme? (cleaned s) with
  | some (scheme, rest) => afterScheme scheme rest
  | none => .error .relativeWithoutBase

/-! ## Joining -/

/-- A text without scheme, or with that of the base, joined to a base that is no file. Slashes of
either kind at its start count for every scheme. -/
def resolve (base : Url) (cs : List Char) : Except UrlFault Url :=
  let special := isSpecial base.scheme
  let withPath (done : List String) (cs : List Char) : Url :=
    let (path, tail) := takeSegments special false done [] cs
    withTail { base with path := .segments path, query := none, fragment := none } tail
  let rest := cs.drop 1
  if isTail cs then .ok (withTail base cs)
  else if !cs.head?.any (isSlash true) then .ok (withPath base.path.segmentList.dropLast cs)
  else if !rest.head?.any (isSlash true) then .ok (withPath [] rest)
  else if cs.take 2 = ['/', '/'] then afterSlashes base.scheme (cs.drop 2)
  else afterSlashes base.scheme (cs.dropWhile (isSlash true))

/-- The URL that a text denotes where `base` stands. -/
def join (base : Url) (s : String) : Except UrlFault Url :=
  let cs := cleaned s
  match scheme? cs with
  | some (scheme, rest) =>
    if scheme ≠ base.scheme || !isSpecial scheme then afterScheme scheme rest
    else if scheme = "file" then fileUrl (some base) rest
    else if ((rest.take 2).takeWhile (isSlash true)).length < 2 then resolve base rest
    else afterScheme scheme rest
  | none =>
    if cs.head? == some '#' then .ok (withTail base cs)
    else if base.hasRootlessPath then .error .relativeToRootless
    else if base.scheme = "file" then fileUrl (some base) cs
    else resolve base cs

end CarbonIntensity.Url
