import CarbonIntensity.Json.Basic
import CarbonIntensity.Number.Notation
import CarbonIntensity.Time.Text

/-!
# Writing JSON texts

A document is what is written: strings still unescaped, all other simple values as their texts.
`compact` writes it without blanks, `pretty` with one item a line, indented by two blanks a level.
Inside strings only quotes, backslashes and control characters are escaped.
-/

namespace CarbonIntensity

inductive Document where
  /-- A number, a truth value or null, as it is written. -/
  | plain (text : String)
  | string (s : String)
  | array (items : List Document)
  | object (fields : List (String × Document))
deriving Inhabited

namespace Document

def null : Document := plain "null"

def bool (b : Bool) : Document := plain (if b then "true" else "false")

def nat (n : Nat) : Document := plain (Text.ofNat n)

def int (n : Int) : Document := plain (Text.ofInt n)

def float (x : Float) : Document := plain (wireFloat x)

def instant (t : Instant) : Document := string t.text

def option {α : Type} (f : α → Document) : Option α → Document
  | none => null
  | some a => f a

/-! ## Strings -/

def escapeChar (c : Char) : List Char :=
  match c.toNat with
  | 0x22 => ['\\', '"']
  | 0x5C => ['\\', '\\']
  | 0x08 => ['\\', 'b']
  | 0x09 => ['\\', 't']
  | 0x0A => ['\\', 'n']
  | 0x0C => ['\\', 'f']
  | 0x0D => ['\\', 'r']
  | n => if n < 0x20 then '\\' :: 'u' :: Text.lowerHex 4 n else [c]

def quote (s : String) : String :=
  "\"" ++ String.ofList (s.toList.flatMap escapeChar) ++ "\""

/-! ## Layouts -/

mutual

/-- The text without any blanks. -/
def compact : Document → String
  | plain t => t
  | string s => quote s
  | array items => "[" ++ String.intercalate "," (compactItems items) ++ "]"
  | object fields => "\x7b" ++ String.intercalate "," (compactFields fields) ++ "\x7d"

def compactItems : List Document → List String
  | [] => []
  | d :: rest => compact d :: compactItems rest

def compactFields : List (String × Document) → List String
  | [] => []
  | (name, d) :: rest => (quote name ++ ":" ++ compact d) :: compactFields rest

end

/-- Lines between brackets, indented one level deeper than the brackets. -/
def block (level : Nat) (opening closing : String) (lines : List String) : String :=
  let indent (n : Nat) := String.ofList (List.replicate (2 * n) ' ')
  if lines.isEmpty then opening ++ closing
  else
    opening ++ "\n" ++
      String.intercalate ",\n" (lines.map (indent (level + 1) ++ ·)) ++
      "\n" ++ indent level ++ closing

mutual

/-- The text with one item a line, at a level of indentation. -/
def prettyAt : Nat → Document → String
  | _, plain t => t
  | _, string s => quote s
  | level, array items => block level "[" "]" (prettyItems (level + 1) items)
  | level, object fields => block level "\x7b" "\x7d" (prettyFields (level + 1) fields)

def prettyItems : Nat → List Document → List String
  | _, [] => []
  | level, d :: rest => prettyAt level d :: prettyItems level rest

def prettyFields : Nat → List (String × Document) → List String
  | _, [] => []
  | level, (name, d) :: rest =>
    (quote name ++ ": " ++ prettyAt level d) :: prettyFields level rest

end

def pretty (d : Document) : String := prettyAt 0 d

/-! ## Sorted names -/

/-- Puts a field before the first one of a greater name, or in place of one of its name. -/
def insertField (name : String) (d : Document) : List (String × Document) → List (String × Document)
  | [] => [(name, d)]
  | (n, v) :: rest =>
    if name = n then (name, d) :: rest
    else if name < n then (name, d) :: (n, v) :: rest
    else (n, v) :: insertField name d rest

mutual

/-- The document with the fields of every object sorted by name, the last of one name kept. -/
def sorted : Document → Document
  | plain t => plain t
  | string s => string s
  | array items => array (sortedItems items)
  | object fields => object (sortedFields [] fields)

def sortedItems : List Document → List Document
  | [] => []
  | d :: rest => sorted d :: sortedItems rest

def sortedFields (acc : List (String × Document)) :
    List (String × Document) → List (String × Document)
  | [] => acc
  | (name, d) :: rest => sortedFields (insertField name (sorted d) acc) rest

end

/-! ## Documents of read values -/

/-- How a number that was read is written again: whole 64-bit numbers as they are, others as
floats; none if it has no finite value. -/
def ofNumeral? (n : Numeral) : Option Document :=
  match n.uint64?, n.int64? with
  | some v, _ => some (nat v)
  | none, some v => some (int v)
  | none, none => n.accumulated?.map float

/-- How deep values may nest to be held as a whole. -/
def depthLimit : Nat := 127

mutual

/-- The document of a value that nests no deeper than `depth`, each of its parts readable. -/
def ofJson? (depth : Nat) : Json → Option Document
  | .null => some null
  | .bool b => some (bool b)
  | .number n => ofNumeral? n
  | .string s => some (string s)
  | .brokenString => none
  | .array items => if depth = 0 then none else (ofItems? (depth - 1) items).map array
  | .object fields => if depth = 0 then none else (ofFields? (depth - 1) fields).map object

def ofItems? (depth : Nat) : List Json → Option (List Document)
  | [] => some []
  | j :: rest => do return (← ofJson? depth j) :: (← ofItems? depth rest)

def ofFields? (depth : Nat) : List (Option String × Json) → Option (List (String × Document))
  | [] => some []
  | (name, j) :: rest => do
    return (← name, ← ofJson? depth j) :: (← ofFields? depth rest)

end

end Document

end CarbonIntensity
