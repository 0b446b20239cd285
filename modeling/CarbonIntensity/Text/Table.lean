import CarbonIntensity.Text.Basic

/-!
# Tables of characters

Sets and maps of characters, by the numbers of their characters.

A set is given by its boundaries in rising order: the first is the first member, the second the first
character after that run, and so on. A character belongs to the set exactly if an odd number of
boundaries is not beyond it.

A map is given by runs of characters whose images lie at one distance, or by listings. A listing gives
the images of consecutive characters, each a text of one or more characters. An image is written by the
numbers of its characters in base sixteen with plus signs between them; images are separated by blanks,
and a hyphen stands where a character has no image.
-/

namespace CarbonIntensity.Text

/-- Membership in the set with these boundaries. -/
def withinBoundaries (boundaries : List Nat) (n : Nat) : Bool :=
  (boundaries.takeWhile (· ≤ n)).length % 2 == 1

/-- Every `step`-th character from `first` to `last` has the image that lies `shift` after it. -/
structure ShiftRun where
  first : Nat
  last : Nat
  step : Nat
  shift : Int

namespace ShiftRun

def holds (r : ShiftRun) (n : Nat) : Bool :=
  r.first ≤ n && n ≤ r.last && (n - r.first) % r.step == 0

/-- The image of a character, if one of the runs holds it. -/
def image? (runs : List ShiftRun) (n : Nat) : Option Nat :=
  (runs.find? (·.holds n)).map fun r => ((n : Int) + r.shift).toNat

end ShiftRun

/-! ## Listings -/

structure Listing where
  /-- The character of the first image. -/
  first : Nat
  images : String

namespace Listing

/-- The numbers of an image, unless the word is a hyphen. -/
def numbers? (word : List Char) : Option (List Nat) := (word.splitOn '+').mapM natOfHex

def words (l : Listing) : List (List Char) :=
  (l.images.toList.splitOnP Char.isWhitespace).filter fun word => !word.isEmpty

/-- The image of a character in the last of the listings that starts no later. -/
def image? (listings : List Listing) (n : Nat) : Option (List Nat) := do
  let l ← (listings.takeWhile (·.first ≤ n)).getLast?
  let word ← l.words[n - l.first]?
  numbers? word

/-- All characters that have images, with their images. -/
def entries (listings : List Listing) : List (Nat × List Nat) :=
  listings.flatMap fun l =>
    l.words.zipIdx.filterMap fun (word, i) => (numbers? word).map fun ns => (l.first + i, ns)

end Listing

end CarbonIntensity.Text
