/-!
# Texts

What texts are read and written with:

* a run of digits and the natural number it denotes,
  `natOfDigits [d₁, …, dₙ] = 10 · natOfDigits [d₁, …, dₙ₋₁] + dₙ`, and the two ways a number is
  written, as short as possible or filled up with zeros to a width;
* case folding of the twenty-six ASCII letters only, as protocol words need it, and numbers in base
  sixteen;
* the characters with the Unicode property White_Space, and trimming: the blanks at the two ends of a
  text are left out, those inside are kept;
* `hasPart part cs`, which says that `part` stands somewhere in `cs` without interruption.
-/

namespace CarbonIntensity.Text

/-! ## Decimal digits -/

/-- The value of one ASCII digit. -/
def digitValue (c : Char) : Nat := c.toNat - 48

/-- The number a run of ASCII digits denotes; no digits denote zero. -/
def natOfDigits (cs : List Char) : Nat :=
  cs.foldl (fun n c => 10 * n + digitValue c) 0

/-- The leading digits and what follows them. -/
def spanDigits (cs : List Char) : List Char × List Char :=
  (cs.takeWhile Char.isDigit, cs.dropWhile Char.isDigit)

/-- The decimal digits of a natural number, without leading zeros. -/
def digits (n : Nat) : List Char := Nat.toDigits 10 n

/-- Leading zeros up to `width` characters; a longer number is written whole. -/
def padded (width n : Nat) : List Char :=
  let ds := digits n
  List.replicate (width - ds.length) '0' ++ ds

def ofNat (n : Nat) : String := String.ofList (digits n)

def ofInt (n : Int) : String :=
  if n < 0 then "-" ++ ofNat n.natAbs else ofNat n.natAbs

/-! ## ASCII letters and hexadecimal digits -/

def lowerAscii (s : String) : String := String.ofList (s.toList.map Char.toLower)

/-- Equality of two texts up to the case of ASCII letters. -/
def sameIgnoringCase (a b : List Char) : Bool := a.map Char.toLower == b.map Char.toLower

def hexValue (c : Char) : Option Nat :=
  if c.isDigit then some (c.toNat - 48)
  else if 'a' ≤ c && c ≤ 'f' then some (c.toNat - 87)
  else if 'A' ≤ c && c ≤ 'F' then some (c.toNat - 55)
  else none

/-- The number that a run of hexadecimal digits denotes, if it holds nothing else. -/
def natOfHex (cs : List Char) : Option Nat :=
  cs.foldl (fun n c => do return 16 * (← n) + (← hexValue c)) (some 0)

def hexDigits (n : Nat) : List Char := Nat.toDigits 16 n

/-- Upper-case hexadecimal digits with leading zeros up to `width`. -/
def upperHex (width n : Nat) : List Char :=
  let ds := (hexDigits n).map Char.toUpper
  List.replicate (width - ds.length) '0' ++ ds

/-- Lower-case hexadecimal digits with leading zeros up to `width`. -/
def lowerHex (width n : Nat) : List Char :=
  let ds := hexDigits n
  List.replicate (width - ds.length) '0' ++ ds

/-! ## Blank characters -/

/-- White_Space: the ASCII blanks 9 to 13 and 32, next line, the no-break and typographic spaces. -/
def isBlank (c : Char) : Bool :=
  let n := c.toNat
  (9 ≤ n && n ≤ 13) || n == 0x20 || n == 0x85 || n == 0xA0 || n == 0x1680 ||
    (0x2000 ≤ n && n ≤ 0x200A) || n == 0x2028 || n == 0x2029 || n == 0x202F || n == 0x205F ||
    n == 0x3000

def dropBlanks (cs : List Char) : List Char := cs.dropWhile isBlank

def trimChars (cs : List Char) : List Char :=
  (dropBlanks (dropBlanks cs).reverse).reverse

def trim (s : String) : String := String.ofList (trimChars s.toList)

/-- A text of blank characters only, such as the empty one. -/
def isBlankText (s : String) : Bool := s.toList.all isBlank

/-! ## Parts -/

def hasPart (part : List Char) : List Char → Bool
  | [] => part.isEmpty
  | c :: rest => part.isPrefixOf (c :: rest) || hasPart part rest

/-! ## Lemmas -/

theorem length_dropBlanks_le (cs : List Char) : (dropBlanks cs).length ≤ cs.length :=
  (List.dropWhile_sublist _).length_le

end CarbonIntensity.Text
