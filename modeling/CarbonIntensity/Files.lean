/-!
# Files

Files are looked up by their path; what a path leads to is a text or a reason why there is none.

`Files.ofFolder` is the view of a folder of texts from within: names are separated by slashes, a point
stands for the folder itself and two points for the one around it, of which nothing else is known.
-/

namespace CarbonIntensity

inductive FileTrouble where
  | missing
  | directory
  | notDirectory
  | nameTooLong
  | badName
  | notText
  /-- Any other trouble, in the words of the system. -/
  | other (reason : String)
deriving DecidableEq, Inhabited

def FileTrouble.message : FileTrouble → String
  | missing => "No such file or directory (os error 2)"
  | directory => "Is a directory (os error 21)"
  | notDirectory => "Not a directory (os error 20)"
  | nameTooLong => "File name too long (os error 36)"
  | badName => "file name contained an unexpected NUL byte"
  | notText => "stream did not contain valid UTF-8"
  | other reason => reason

abbrev Files := String → Except FileTrouble String

namespace Files

/-- Where a path has led. -/
inductive Place where
  | folder
  | outside
  | file (text : String)
deriving DecidableEq, Inhabited

/-- The longest name and the longest path in bytes. -/
def nameLimit : Nat := 255
def pathLimit : Nat := 4095

/-- One step along a path. An empty name stands where two slashes meet or a slash ends the path. -/
def step (entries : List (String × String)) (p : Place) (name : String) :
    Except FileTrouble Place :=
  match p with
  | .file _ => .error .notDirectory
  | .folder =>
    if name = "" ∨ name = "." then .ok .folder
    else if name = ".." then .ok .outside
    else if nameLimit < name.utf8ByteSize then .error .nameTooLong
    else
      match entries.lookup name with
      | some text => .ok (.file text)
      | none => .error .missing
  | .outside =>
    if name = "" ∨ name = "." ∨ name = ".." then .ok .outside
    else if nameLimit < name.utf8ByteSize then .error .nameTooLong
    else .error .missing

/-- The files of a folder that holds texts under their names. -/
def ofFolder (entries : List (String × String)) : Files := fun path =>
  if path.toList.any (·.toNat = 0) then .error .badName
  else if path.isEmpty then .error .missing
  else if pathLimit < path.utf8ByteSize then .error .nameTooLong
  else
    let start : Place := if path.startsWith "/" then .outside else .folder
    match (path.splitOn "/").foldlM (step entries) start with
    | .error trouble => .error trouble
    | .ok (.file text) => .ok text
    | .ok _ => .error .directory

end Files

end CarbonIntensity
