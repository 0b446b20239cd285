import CarbonIntensity.Failure
import CarbonIntensity.Files
import CarbonIntensity.Json.Parser
import CarbonIntensity.Location.Position
import CarbonIntensity.Text.Basic
import CarbonIntensity.Text.LowerCase

/-!
# The registry of locations

Names of locations and their positions. Names are told apart without regard to case. A file of
locations is an object whose keys are registered under `label`, the delimiter and the key, or under the
key alone if the file has no label; it is refused as a whole if one of its positions is not valid.

A file and its label are written `path` or `label=path`; blanks around the whole, the label and the path
are dropped, and an empty label is none.
-/

namespace CarbonIntensity

/-! ## Files -/

structure LocationFile where
  label : Option String
  path : String
deriving DecidableEq, Inhabited

namespace LocationFile

/-- The name that faults with locations are reported under. -/
def source : String := "LocationSource"

/-- The texts before and after the first `=`. -/
def splitEquals : List Char → Option (List Char × List Char)
  | [] => none
  | '=' :: rest => some ([], rest)
  | c :: rest => (splitEquals rest).map fun (label, path) => (c :: label, path)

def parse (s : String) : Except Failure LocationFile :=
  let cs := Text.trimChars s.toList
  let (label, path) := match splitEquals cs with
    | none => ([], cs)
    | some (label, path) => (Text.trimChars label, Text.trimChars path)
  if path.isEmpty then
    .error (.configuration source ("location file entry '" ++ String.ofList cs ++ "' has no path"))
  else
    .ok ⟨if label.isEmpty then none else some (String.ofList label), String.ofList path⟩

def text (f : LocationFile) : String :=
  match f.label with
  | some label => label ++ "=" ++ f.path
  | none => f.path

end LocationFile

/-! ## The registry -/

structure Registry where
  /-- Lowered names and their positions. -/
  entries : List (String × Position)
deriving Inhabited

namespace Registry

def empty : Registry := ⟨[]⟩

def size (r : Registry) : Nat := r.entries.length

def isEmpty (r : Registry) : Bool := r.entries.isEmpty

/-- Registers a position, in place of an earlier one of that name. -/
def insert (r : Registry) (name : String) (p : Position) : Registry :=
  ⟨Assoc.put (Text.lowerCase name) p r.entries⟩

def resolve (r : Registry) (name : String) : Except Failure Position :=
  match r.entries.lookup (Text.lowerCase name) with
  | some p => .ok p
  | none => .error (.unknownLocation name)

/-! ## Loading -/

def defaultDelimiter : String := "-"

/-- The name that the key of a file is registered under; an empty delimiter means the usual one. -/
def fullKey (label : Option String) (delimiter key : String) : String :=
  match label with
  | some label => label ++ (if delimiter.isEmpty then defaultDelimiter else delimiter) ++ key
  | none => key

def configurationFault (reason : String) : Failure := .configuration LocationFile.source reason

/-- Registers all positions of a file or none. -/
def load (r : Registry) (label : Option String) (delimiter : String)
    (positions : List (String × Position)) : Except Failure Registry :=
  match positions.find? fun entry => !entry.2.isValid with
  | some (key, _) =>
    .error (configurationFault
      ("location '" ++ key ++ "' needs a name or a latitude and longitude"))
  | none =>
    .ok (positions.foldl (fun r entry => r.insert (fullKey label delimiter entry.1) entry.2) r)

def loadText (r : Registry) (label : Option String) (delimiter text : String) :
    Except Failure Registry :=
  match Json.decode (Json.entries? Position.ofJson?) text with
  | .error trouble => .error (configurationFault ("invalid location data: " ++ trouble.message))
  | .ok positions => r.load label delimiter positions

/-- Loads a file; what is wrong with it is reported under its path. -/
def loadFile (r : Registry) (files : Files) (file : LocationFile) (delimiter : String) :
    Except Failure Registry :=
  match files file.path with
  | .error trouble =>
    .error (configurationFault ("cannot read " ++ file.path ++ ": " ++ trouble.message))
  | .ok text =>
    match r.loadText file.label delimiter text with
    | .error (.configuration _ reason) =>
      .error (configurationFault (file.path ++ ": " ++ reason))
    | result => result

/-- The registry of several files, each one over those before it. -/
def ofFiles (files : Files) (list : List LocationFile) (delimiter : String) :
    Except Failure Registry :=
  list.foldlM (fun r file => r.loadFile files file delimiter) empty

end Registry

end CarbonIntensity
