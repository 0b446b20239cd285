import CarbonIntensity.Text.Basic

/-!
# Texts as bytes

The bytes of a text in UTF-8, one to four a character, and two ways to write bytes as text:

* base 64 writes three bytes as four characters of six bits; one or two bytes at the end are filled up
  with `=`;
* percent-encoding writes a character that may not stand for itself by its bytes, each as `%` and two
  hexadecimal digits. `formPairs` writes pairs of a name and a value as forms do: a space becomes `+`,
  and letters, digits and `*-._` stand for themselves.
-/

namespace CarbonIntensity.Text

/-- The bytes of one character, as numbers below 256. -/
def charBytes (c : Char) : List Nat :=
  let n := c.toNat
  if n < 0x80 then [n]
  else if n < 0x800 then [0xC0 + n / 64, 0x80 + n % 64]
  else if n < 0x10000 then [0xE0 + n / 4096, 0x80 + n / 64 % 64, 0x80 + n % 64]
  else [0xF0 + n / 262144, 0x80 + n / 4096 % 64, 0x80 + n / 64 % 64, 0x80 + n % 64]

def bytes (s : String) : List Nat := s.toList.flatMap charBytes

/-- The text with these bytes, if they are well-formed. -/
def ofBytes? (bs : List Nat) : Option String :=
  String.fromUTF8? (ByteArray.mk (bs.map UInt8.ofNat).toArray)

/-! ## Base 64 -/

def base64Char (n : Nat) : Char :=
  if n < 26 then Char.ofNat (65 + n)
  else if n < 52 then Char.ofNat (71 + n)
  else if n < 62 then Char.ofNat (n - 4)
  else if n = 62 then '+'
  else '/'

def base64 : List Nat → List Char
  | a :: b :: c :: rest =>
    base64Char (a / 4) :: base64Char (a % 4 * 16 + b / 16) :: base64Char (b % 16 * 4 + c / 64) ::
      base64Char (c % 64) :: base64 rest
  | [a, b] =>
    [base64Char (a / 4), base64Char (a % 4 * 16 + b / 16), base64Char (b % 16 * 4), '=']
  | [a] => [base64Char (a / 4), base64Char (a % 4 * 16), '=', '=']
  | [] => []

/-! ## Percent-encoding -/

def percentByte (b : Nat) : List Char := '%' :: upperHex 2 b

/-- The character itself, if it is kept, or its bytes. -/
def percentChar (keeps : Char → Bool) (c : Char) : List Char :=
  if keeps c then [c] else (charBytes c).flatMap percentByte

def percentEncode (keeps : Char → Bool) (cs : List Char) : List Char :=
  cs.flatMap (percentChar keeps)

/-- The bytes of a text in which `%` and two hexadecimal digits stand for a byte. -/
def percentDecode : List Char → List Nat
  | '%' :: h :: l :: rest =>
    match hexValue h, hexValue l with
    | some high, some low => (16 * high + low) :: percentDecode rest
    | _, _ => 0x25 :: percentDecode (h :: l :: rest)
  | c :: rest => charBytes c ++ percentDecode rest
  | [] => []

/-! ## Forms -/

def formChar (c : Char) : List Char :=
  if c = ' ' then ['+'] else percentChar (fun c => c.isAlphanum || "*-._".toList.contains c) c

def formText (s : String) : List Char := s.toList.flatMap formChar

/-- `name=value` joined by `&`. -/
def formPairs (pairs : List (String × String)) : List Char :=
  List.intercalate ['&'] (pairs.map fun pair => formText pair.1 ++ '=' :: formText pair.2)

end CarbonIntensity.Text
