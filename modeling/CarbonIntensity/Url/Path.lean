import CarbonIntensity.Text.Bytes
import CarbonIntensity.Url.Basic

/-!
# Reading paths

A path is read segment by segment up to a query or fragment. One dot stands for nothing, two dots take
a segment away, and both leave an empty segment at the end of the path.

Files may lie on drives, such as `C:`. A drive is never taken away by two dots; at the start of the path
of a file it is written with a colon, and it takes the place of the host.
-/

namespace CarbonIntensity.Url

/-! ## Characters -/

/-- A visible ASCII character that is none of `except`. -/
def keepsBut (except : String) (c : Char) : Bool :=
  0x20 ≤ c.toNat && c.toNat < 0x7F && !except.toList.contains c

def keepsFragment : Char → Bool := keepsBut " \"<>\x60"
def keepsPath : Char → Bool := keepsBut " \"<>\x60#?\x7b\x7d"
def keepsUser : Char → Bool := keepsBut " \"<>\x60#?\x7b\x7d/:;=@[\\]^|"

def keepsQuery (special : Bool) : Char → Bool :=
  keepsBut (if special then " \"#<>'" else " \"#<>")

def encoded (keeps : Char → Bool) (cs : List Char) : String :=
  String.ofList (Text.percentEncode keeps cs)

def isSlash (special : Bool) (c : Char) : Bool := c = '/' || (special && c = '\\')

/-! ## Drives -/

/-- A letter and a colon, or a bar in its place, up to the end or one of some marks. -/
def startsWithDrive (ends : String) : List Char → Bool
  | [letter, colon] => letter.isAlpha && (colon = ':' || colon = '|')
  | letter :: colon :: c :: _ =>
    letter.isAlpha && (colon = ':' || colon = '|') && ends.toList.contains c
  | _ => false

/-- The whole text is a drive. -/
def isDrive (cs : List Char) : Bool := startsWithDrive "" cs

/-- A drive that is written with a colon. -/
def isPlainDrive (segment : String) : Bool :=
  isDrive segment.toList && segment.toList.getLast? == some ':'

/-! ## Segments -/

def isSingleDot (segment : String) : Bool := [".", "%2e"].contains (Text.lowerAscii segment)

def isDoubleDot (segment : String) : Bool :=
  ["..", ".%2e", "%2e.", "%2e%2e"].contains (Text.lowerAscii segment)

/-- The path without its last segment, unless that is a drive. -/
def parent (done : List String) : List String :=
  match done.getLast? with
  | some segment => if startsWithDrive "\\" segment.toList then done else done.dropLast
  | none => []

/-- Puts a segment at the end of a path. -/
def pushSegment (file : Bool) (done : List String) (segment : String) (isLast : Bool) : List String :=
  let rest := if isLast then [""] else []
  if isDoubleDot segment then parent done ++ rest
  else if isSingleDot segment then done ++ rest
  else if file && done.isEmpty && isDrive segment.toList then
    [String.ofList (segment.toList.take 1 ++ [':'])]
  else done ++ [segment]

/-- The segments up to a query or fragment, put after those of `done`; `buffer` is the start of the
present segment, last character first. -/
def takeSegments (special file : Bool) (done : List String) (buffer : List Char) :
    List Char → List String × List Char
  | [] => (pushSegment file done (encoded keepsPath buffer.reverse) true, [])
  | c :: rest =>
    if isSlash special c then
      takeSegments special file
        (pushSegment file done (encoded keepsPath buffer.reverse) false) [] rest
    else if c = '?' || c = '#' then
      (pushSegment file done (encoded keepsPath buffer.reverse) true, c :: rest)
    else takeSegments special file done (c :: buffer) rest

/-- The path after a host, whose first slash may be left out. -/
def pathAfterHost (special file : Bool) (cs : List Char) : List String × List Char :=
  match cs with
  | [] => (if special then [""] else [], [])
  | c :: rest =>
    if isSlash special c then takeSegments special file [] [] rest
    else if !special && (c = '?' || c = '#') then ([], c :: rest)
    else takeSegments special file [] [] (c :: rest)

/-- The path of a file without empty segments at its start. -/
def withoutEmptyStart (path : List String) : List String :=
  match path.dropWhile (·.isEmpty) with
  | [] => [""]
  | segments => segments

/-- The path of a file that a text joined to this path starts from. -/
def fileParent (path : List String) : List String :=
  match path.getLast? with
  | some segment => if isPlainDrive segment then path else path.dropLast
  | none => []

end CarbonIntensity.Url
