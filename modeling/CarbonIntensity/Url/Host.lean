import CarbonIntensity.DomainName.Ascii
import CarbonIntensity.Number.Basic
import CarbonIntensity.Text.Bytes

/-!
# Hosts

A host is a domain name, an address of four bytes or one of eight 16-bit pieces. Names are
percent-decoded and written in their ASCII form. A name whose last label is a number has to be an
address. Schemes that are not known have hosts taken as they are. What can be wrong with a URL, its host
included, is a `UrlFault`.
-/

namespace CarbonIntensity

inductive UrlFault where
  | relativeWithoutBase
  | relativeToRootless
  | emptyHost
  | invalidName
  | invalidPort
  | invalidIpv4
  | invalidIpv6
  | invalidCharacter
deriving DecidableEq, Inhabited

def UrlFault.message : UrlFault → String
  | relativeWithoutBase => "relative URL without a base"
  | relativeToRootless => "relative URL with a cannot-be-a-base base"
  | emptyHost => "empty host"
  | invalidName => "invalid international domain name"
  | invalidPort => "invalid port number"
  | invalidIpv4 => "invalid IPv4 address"
  | invalidIpv6 => "invalid IPv6 address"
  | invalidCharacter => "invalid domain character"

inductive Host where
  | domain (name : String)
  | ipv4 (address : Nat)
  | ipv6 (pieces : List Nat)
deriving DecidableEq, Inhabited

namespace Host

/-! ## Addresses of four bytes -/

def octalValue? (c : Char) : Option Nat :=
  if '0' ≤ c && c ≤ '7' then some (c.toNat - 48) else none

def decimalValue? (c : Char) : Option Nat := if c.isDigit then some (c.toNat - 48) else none

/-- The number in a base, if the text has only its digits. -/
def natInBase? (base : Nat) (value? : Char → Option Nat) (cs : List Char) : Option Nat :=
  cs.foldlM (fun n c => do return base * n + (← value? c)) 0

/-- A part of an address: decimal, octal after `0`, hexadecimal after `0x`. -/
def ipv4Part? : List Char → Option Nat
  | [] => none
  | ['0'] => some 0
  | '0' :: x :: rest =>
    if x = 'x' || x = 'X' then natInBase? 16 Text.hexValue rest
    else natInBase? 8 octalValue? (x :: rest)
  | cs => natInBase? 10 decimalValue? cs

/-- The parts of a name, without an empty one at the end. -/
def labels (cs : List Char) : List (List Char) :=
  let parts := cs.splitOn '.'
  if parts.getLast? == some [] then parts.dropLast else parts

/-- The last label is a number, so that the name has to be an address. -/
def endsInNumber (cs : List Char) : Bool :=
  match (labels cs).getLast? with
  | none => false
  | some last => (!last.isEmpty && last.all Char.isDigit) || (ipv4Part? last).isSome

/-- Up to four parts; the last one fills the bytes that are left. -/
def ipv4? (cs : List Char) : Option Nat := do
  let parts := labels cs
  if 4 < parts.length then none
  else
    let numbers ← parts.mapM ipv4Part?
    let last ← numbers.getLast?
    let front := numbers.dropLast
    if front.any (255 < ·) || twoTo (8 * (4 - front.length)) ≤ last then none
    else
      return (front.zip [16777216, 65536, 256]).foldl (fun sum (n, unit) => sum + n * unit) last

/-! ## Addresses of eight pieces -/

/-- One to four hexadecimal digits. -/
def piece? (cs : List Char) : Option Nat :=
  if cs.isEmpty || 4 < cs.length then none else natInBase? 16 Text.hexValue cs

/-- A byte in decimal without leading zeros. -/
def byte? (cs : List Char) : Option Nat :=
  match cs with
  | [] => none
  | '0' :: _ :: _ => none
  | cs =>
    match natInBase? 10 decimalValue? cs with
    | some n => if n < 256 then some n else none
    | none => none

/-- Four bytes between points, as two pieces. -/
def dotted? (cs : List Char) : Option (List Nat) := do
  match ← (cs.splitOn '.').mapM byte? with
  | [a, b, c, d] => return [256 * a + b, 256 * c + d]
  | _ => none

/-- Pieces between colons; the last may be four bytes between points if `dots` is set. -/
def pieces? (dots : Bool) : List (List Char) → Option (List Nat)
  | [] => some []
  | [last] =>
    if dots && last.contains '.' then dotted? last else (piece? last).map ([·])
  | part :: rest => do return (← piece? part) :: (← pieces? dots rest)

/-- The texts before and after the first double colon. -/
def splitDoubleColon : List Char → Option (List Char × List Char)
  | ':' :: ':' :: rest => some ([], rest)
  | c :: rest => (splitDoubleColon rest).map fun (before, after) => (c :: before, after)
  | [] => none

/-- Eight pieces, or fewer with a double colon that stands for at least one zero. -/
def ipv6? (cs : List Char) : Option (List Nat) :=
  let side (dots : Bool) (cs : List Char) : Option (List Nat) :=
    if cs.isEmpty then some [] else pieces? dots (cs.splitOn ':')
  match splitDoubleColon cs with
  | none => do
    let all ← pieces? true (cs.splitOn ':')
    if all.length = 8 then some all else none
  | some (before, after) => do
    let left ← side false before
    let right ← side true after
    if left.length + right.length ≤ 7 then
      some (left ++ List.replicate (8 - left.length - right.length) 0 ++ right)
    else none

/-! ## Hosts -/

/-- The host of a known scheme. -/
def parse (cs : List Char) : Except UrlFault Host :=
  match cs with
  | '[' :: rest =>
    match rest.getLast? with
    | some ']' =>
      match ipv6? rest.dropLast with
      | some pieces => .ok (ipv6 pieces)
      | none => .error .invalidIpv6
    | _ => .error .invalidIpv6
  | cs =>
    match (Text.ofBytes? (Text.percentDecode cs)).bind (DomainName.asciiForm? ·.toList) with
    | none => .error .invalidName
    | some name =>
      if name.isEmpty then .error .emptyHost
      else if endsInNumber name then
        match ipv4? name with
        | some address => .ok (ipv4 address)
        | none => .error .invalidIpv4
      else .ok (domain (String.ofList name))

/-- The host of a scheme that is not known. -/
def parseVerbatim (cs : List Char) : Except UrlFault Host :=
  match cs with
  | '[' :: _ => parse cs
  | cs =>
    if cs.any fun c => c.toNat = 0 || " #/:<>?@[\\]^|".toList.contains c then
      .error .invalidCharacter
    else
      let keeps (c : Char) : Bool := 0x20 ≤ c.toNat && c.toNat < 0x7F
      .ok (domain (String.ofList (Text.percentEncode keeps cs)))

/-! ## Text -/

/-- Start and length of the first longest run of zeros, if it has at least two. -/
def longestZeros (pieces : List Nat) : Option (Nat × Nat) :=
  let runs := (List.range pieces.length).map fun i =>
    (i, ((pieces.drop i).takeWhile (· == 0)).length)
  runs.foldl
    (fun best run =>
      match best with
      | none => if 2 ≤ run.2 then some run else none
      | some b => if b.2 < run.2 then some run else some b)
    none

def ipv6Text (pieces : List Nat) : List Char :=
  let join (ps : List Nat) : List Char := List.intercalate [':'] (ps.map Text.hexDigits)
  match longestZeros pieces with
  | none => join pieces
  | some (start, length) =>
    join (pieces.take start) ++ [':', ':'] ++ join (pieces.drop (start + length))

def ipv4Text (n : Nat) : List Char :=
  List.intercalate ['.']
    ([n / 16777216 % 256, n / 65536 % 256, n / 256 % 256, n % 256].map Text.digits)

def text : Host → String
  | domain name => name
  | ipv4 address => String.ofList (ipv4Text address)
  | ipv6 pieces => String.ofList ('[' :: ipv6Text pieces ++ [']'])

end Host

end CarbonIntensity
