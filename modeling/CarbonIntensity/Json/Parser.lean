import CarbonIntensity.Json.Basic

/-!
# Reading JSON texts

Strict JSON: no comments, no trailing commas, no leading zeros, no control characters inside strings,
and nothing but blanks around the value.

A reader takes a value off the front of the text or says how many characters were left where it
stopped; a failure is reported by the line and column of that place. Recursion is bounded by a fuel
that the text's own length always covers, as every step takes at least one character.
-/

namespace CarbonIntensity.Json

/-- A value and the rest of the text, or the number of characters left at the fault. -/
abbrev Parsed (α : Type) := Except Nat (α × List Char)

def isSpace (c : Char) : Bool := c == ' ' || c == '\n' || c == '\t' || c == '\r'

def skipSpace (cs : List Char) : List Char := cs.dropWhile isSpace

/-- Takes off a fixed word. -/
def literal (word : List Char) (value : Json) (cs : List Char) : Parsed Json :=
  if word.isPrefixOf cs then .ok (value, cs.drop word.length) else .error cs.length

/-! ## Strings -/

/-- The character an escape of one letter stands for. -/
def simpleEscape : Char → Option Nat
  | '"' => some 0x22
  | '\\' => some 0x5C
  | '/' => some 0x2F
  | 'b' => some 0x08
  | 'f' => some 0x0C
  | 'n' => some 0x0A
  | 'r' => some 0x0D
  | 't' => some 0x09
  | _ => none

/-- The code units of a string up to its closing quote, last one first. -/
def stringUnits (acc : List Nat) : List Char → Parsed (List Nat)
  | [] => .error 0
  | '"' :: rest => .ok (acc, rest)
  | '\\' :: 'u' :: a :: b :: c :: d :: rest =>
    match Text.natOfHex [a, b, c, d] with
    | some n => stringUnits (n :: acc) rest
    | none => .error rest.length
  | '\\' :: c :: rest =>
    match simpleEscape c with
    | some n => stringUnits (n :: acc) rest
    | none => .error rest.length
  | c :: rest => if c.toNat < 0x20 then .error rest.length else stringUnits (c.toNat :: acc) rest

/-- The text of a sequence of code units, in which surrogates have to come in pairs. -/
def textOfUnits : List Nat → Option (List Char)
  | [] => some []
  | n :: rest =>
    if 0xD800 ≤ n ∧ n < 0xDC00 then
      match rest with
      | low :: rest' =>
        if 0xDC00 ≤ low ∧ low < 0xE000 then
          (textOfUnits rest').map (Char.ofNat (0x10000 + (n - 0xD800) * 1024 + (low - 0xDC00)) :: ·)
        else none
      | [] => none
    else if 0xDC00 ≤ n ∧ n < 0xE000 then none
    else (textOfUnits rest).map (Char.ofNat n :: ·)

/-- A string after its opening quote; none if it holds an unpaired surrogate. -/
def stringBody (cs : List Char) : Parsed (Option String) :=
  match stringUnits [] cs with
  | .error n => .error n
  | .ok (units, rest) => .ok ((textOfUnits units.reverse).map String.ofList, rest)

/-! ## Numbers -/

/-- Digits before the point: a single zero, or no leading zero. -/
def wholeDigits (cs : List Char) : Parsed (List Char) :=
  match Text.spanDigits cs with
  | ([], rest) => .error rest.length
  | ('0' :: _ :: _, rest) => .error rest.length
  | (ds, rest) => .ok (ds, rest)

def fractionPart : List Char → Parsed (Option (List Char))
  | '.' :: cs =>
    match Text.spanDigits cs with
    | ([], rest) => .error rest.length
    | (ds, rest) => .ok (some ds, rest)
  | cs => .ok (none, cs)

def exponentPart : List Char → Parsed (Option (Bool × List Char))
  | c :: cs =>
    if c = 'e' || c = 'E' then
      let (negative, digits) := match cs with
        | '-' :: r => (true, r)
        | '+' :: r => (false, r)
        | r => (false, r)
      match Text.spanDigits digits with
      | ([], rest) => .error rest.length
      | (ds, rest) => .ok (some (negative, ds), rest)
    else .ok (none, c :: cs)
  | [] => .ok (none, [])

/-- A numeral after its sign. -/
def unsignedNumeral (negative : Bool) (cs : List Char) : Parsed Numeral :=
  match wholeDigits cs with
  | .error n => .error n
  | .ok (whole, cs) =>
    match fractionPart cs with
    | .error n => .error n
    | .ok (fraction, cs) =>
      match exponentPart cs with
      | .error n => .error n
      | .ok (exponent, cs) => .ok (⟨negative, whole, fraction, exponent⟩, cs)

def numeral : List Char → Parsed Numeral
  | '-' :: cs => unsignedNumeral true cs
  | cs => unsignedNumeral false cs

/-! ## Values -/

mutual

/-- One value after any blanks. -/
def value : Nat → List Char → Parsed Json
  | 0, cs => .error cs.length
  | fuel + 1, cs =>
    match skipSpace cs with
    | [] => .error 0
    | '"' :: rest =>
      match stringBody rest with
      | .error n => .error n
      | .ok (some s, rest) => .ok (string s, rest)
      | .ok (none, rest) => .ok (brokenString, rest)
    | '[' :: rest =>
      match skipSpace rest with
      | ']' :: rest => .ok (array [], rest)
      | _ => elements fuel [] rest
    | '{' :: rest =>
      match skipSpace rest with
      | '}' :: rest => .ok (object [], rest)
      | _ => members fuel [] rest
    | 'n' :: rest => literal "null".toList null ('n' :: rest)
    | 't' :: rest => literal "true".toList (bool true) ('t' :: rest)
    | 'f' :: rest => literal "false".toList (bool false) ('f' :: rest)
    | c :: rest =>
      match numeral (c :: rest) with
      | .error n => .error n
      | .ok (n, rest) => .ok (number n, rest)

/-- The items of an array from the next one on; `acc` has those before it, last one first. -/
def elements : Nat → List Json → List Char → Parsed Json
  | 0, _, cs => .error cs.length
  | fuel + 1, acc, cs =>
    match value fuel cs with
    | .error n => .error n
    | .ok (item, rest) =>
      match skipSpace rest with
      | ',' :: rest => elements fuel (item :: acc) rest
      | ']' :: rest => .ok (array (item :: acc).reverse, rest)
      | rest => .error rest.length

/-- The fields of an object from the next one on; `acc` has those before it, last one first. -/
def members : Nat → List (Option String × Json) → List Char → Parsed Json
  | 0, _, cs => .error cs.length
  | fuel + 1, acc, cs =>
    match skipSpace cs with
    | '"' :: rest =>
      match stringBody rest with
      | .error n => .error n
      | .ok (name, rest) =>
        match skipSpace rest with
        | ':' :: rest =>
          match value fuel rest with
          | .error n => .error n
          | .ok (item, rest) =>
            match skipSpace rest with
            | ',' :: rest => members fuel ((name, item) :: acc) rest
            | '}' :: rest => .ok (object ((name, item) :: acc).reverse, rest)
            | rest => .error rest.length
        | rest => .error rest.length
    | rest => .error rest.length

end

/-- The value that a whole text consists of. -/
def ofChars (cs : List Char) : Except Nat Json :=
  match value (2 * cs.length + 2) cs with
  | .error n => .error n
  | .ok (v, rest) =>
    match skipSpace rest with
    | [] => .ok v
    | rest => .error rest.length

/-! ## Decoding -/

/-- Where a text could not be read. -/
structure Trouble where
  line : Nat
  column : Nat
deriving DecidableEq

/-- The place with so many characters of the text left. -/
def Trouble.at (cs : List Char) (left : Nat) : Trouble :=
  let before := cs.take (cs.length - left)
  { line := before.count '\n' + 1
    column := (before.reverse.takeWhile (· ≠ '\n')).length }

def Trouble.message (t : Trouble) : String :=
  "unexpected JSON at line " ++ Text.ofNat t.line ++ " column " ++ Text.ofNat t.column

/-- The value of a text as `read` understands it. A well-formed text of another shape is at fault at
its end. -/
def decode {α : Type} (read : Json → Option α) (text : String) : Except Trouble α :=
  let cs := text.toList
  match ofChars cs with
  | .error left => .error (Trouble.at cs left)
  | .ok j =>
    match read j with
    | some a => .ok a
    | none => .error (Trouble.at cs 0)

end CarbonIntensity.Json
