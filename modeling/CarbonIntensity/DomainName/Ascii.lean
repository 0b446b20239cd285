import CarbonIntensity.DomainName.Direction
import CarbonIntensity.DomainName.Joiner
import CarbonIntensity.DomainName.Mapping
import CarbonIntensity.DomainName.Punycode

/-!
# The ASCII form of names

A name is mapped, cut into labels at its points, and each label beyond ASCII is written in Punycode
behind a mark. A label that has the mark already is read first, and has to be what its own mapping
gives. Labels may be empty, but not begin with a combining mark.
-/

namespace CarbonIntensity.DomainName

open Text

def isAscii (c : Char) : Bool := c.toNat < 0x80

/-- Controls, the space and marks that separate the parts of a URL; no name may have them. -/
def isForbidden (c : Char) : Bool :=
  c.toNat ≤ 0x20 || c.toNat = 0x7F || "%#/:<>?@[\\]^|".toList.contains c

/-- The mark of labels that are written in Punycode. -/
def codeMark : List Char := ['x', 'n', '-', '-']

/-- The longest code that is read. -/
def codeLimit : Nat := 2000

/-- The longest label beyond ASCII. -/
def labelLimit : Nat := 1000

/-- What a mapped label shows: the label itself, or what the code behind the mark stands for. -/
def shown? (label : List Char) : Option (List Char) :=
  if codeMark.isPrefixOf label then
    let code := label.drop codeMark.length
    if !code.all isAscii || label.getLast? == some '-' || codeLimit < code.length then none
    else do
      let word ← Punycode.decode? code
      if mapped? word == some word then some word else none
  else some label

/-- A label that can be shown without being taken for another. -/
def isSound (label : List Char) : Bool :=
  !label.head?.any isMark && joinersFit [] label &&
    (label.all isAscii || label.length ≤ labelLimit)

def asciiLabel (label : List Char) : List Char :=
  if label.all isAscii then label else codeMark ++ Punycode.encode label

/-- The ASCII form of a name, if it is one. -/
def asciiForm? (name : List Char) : Option (List Char) := do
  let text ← mapped? name
  if text.any isForbidden then none
  else
    let labels ← (text.splitOn '.').mapM shown?
    if labels.all isSound && Direction.labelsFit labels then
      some (List.intercalate ['.'] (labels.map asciiLabel))
    else none

end CarbonIntensity.DomainName
