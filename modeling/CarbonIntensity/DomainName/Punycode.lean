import CarbonIntensity.Number.Basic

/-!
# Punycode

A label with characters beyond ASCII is written in ASCII: its ASCII characters, a hyphen if there are
any, and then for each other character, in rising order, how many steps to go before inserting it.
A step count is a number whose digits have thresholds that follow a running `bias`.

## Algorithm

The state walks over all pairs of a character value and a position in the word. `delta` counts the
steps since the last insertion; after each insertion the bias adapts to its size.
-/

namespace CarbonIntensity.DomainName.Punycode

/-- Digits 0 to 35 are the letters and then the figures. -/
def digitChar (n : Nat) : Char := Char.ofNat (if n < 26 then 97 + n else 22 + n)

/-- The threshold of the digit at place `k`, which is 36 for the first one and 36 more for each
later one. -/
def threshold (k bias : Nat) : Nat :=
  if k ≤ bias then 1 else if bias + 26 ≤ k then 26 else k - bias

theorem one_le_threshold (k bias : Nat) : 1 ≤ threshold k bias := by
  unfold threshold
  split
  · omega
  · split <;> omega

theorem threshold_le (k bias : Nat) : threshold k bias ≤ 26 := by
  unfold threshold
  split
  · omega
  · split <;> omega

/-- The digits of a step count, least first; the last one lies below its threshold. -/
def stepDigits (bias k q : Nat) : List Char :=
  let t := threshold k bias
  if q < t then [digitChar q]
  else digitChar (t + (q - t) % (36 - t)) :: stepDigits bias (k + 36) ((q - t) / (36 - t))
termination_by q
decreasing_by
  have h1 := one_le_threshold k bias
  have h2 := threshold_le k bias
  exact Nat.lt_of_le_of_lt (Nat.div_le_self _ _) (by omega)

/-- Takes out factors of 35 while the number is above 455, counting 36 for each. -/
def scaleDown (k delta : Nat) : Nat :=
  if 455 < delta then scaleDown (k + 36) (delta / 35) else k + 36 * delta / (delta + 38)
termination_by delta
decreasing_by exact Nat.div_lt_self (by omega) (by omega)

def adapt (delta points : Nat) (first : Bool) : Nat :=
  let d := if first then delta / 700 else delta / 2
  scaleDown 0 (d + d / points)

structure State where
  delta : Nat
  bias : Nat
  /-- How many characters have been handled. -/
  handled : Nat
  /-- The output so far, last character first. -/
  output : List Char

/-- One character of the word while characters of value `n` are inserted. -/
def visit (basic n : Nat) (s : State) (c : Char) : State :=
  if c.toNat < n then { s with delta := s.delta + 1 }
  else if c.toNat = n then
    { delta := 0
      bias := adapt s.delta (s.handled + 1) (s.handled == basic)
      handled := s.handled + 1
      output := (stepDigits s.bias 36 s.delta).reverse ++ s.output }
  else s

/-- All characters of value `next`, the value before them being `last`. -/
def insertAll (word : List Char) (basic : Nat) (acc : State × Nat) (next : Nat) : State × Nat :=
  let (s, n) := acc
  let s := { s with delta := s.delta + (next - n) * (s.handled + 1) }
  let s := word.foldl (visit basic next) s
  ({ s with delta := s.delta + 1 }, next + 1)

/-- The ASCII form of a word, without any mark in front. -/
def encode (word : List Char) : List Char :=
  let basic := word.filter fun c => c.toNat < 0x80
  let others := ((word.map Char.toNat).filter (0x80 ≤ ·)).mergeSort.eraseDups
  let start : State := ⟨0, 72, basic.length, []⟩
  let (s, _) := others.foldl (insertAll word basic.length) (start, 0x80)
  basic ++ (if basic.isEmpty then [] else ['-']) ++ s.output.reverse

/-! ## Reading -/

/-- The value of a digit, letters of either case. -/
def digitValue? (c : Char) : Option Nat :=
  if c.isDigit then some (c.toNat - 22)
  else if c.isAlpha then some (c.toLower.toNat - 97)
  else none

/-- Adds a step count to `sum` and gives what follows it; `weight` is the value of the digit at place
`k`. Counts have 32 bits. -/
def readSteps (bias k weight sum : Nat) : List Char → Option (Nat × List Char)
  | [] => none
  | c :: rest => do
    let digit ← digitValue? c
    let sum := sum + digit * weight
    let t := threshold k bias
    if twoTo 32 ≤ sum then none
    else if digit < t then some (sum, rest)
    else if twoTo 32 ≤ weight * (36 - t) then none
    else readSteps bias (k + 36) (weight * (36 - t)) sum rest

theorem length_readSteps_lt {bias k weight sum n : Nat} {cs rest : List Char}
    (h : readSteps bias k weight sum cs = some (n, rest)) : rest.length < cs.length := by
  induction cs generalizing k weight sum with
  | nil => simp [readSteps] at h
  | cons c cs ih =>
    unfold readSteps at h
    cases hd : digitValue? c with
    | none => simp [hd] at h
    | some digit =>
      simp only [hd, Option.bind_eq_bind, Option.bind_some] at h
      split at h
      · cases h
      · split at h
        · cases h
          simp
        · split at h
          · cases h
          · exact Nat.lt_succ_of_lt (ih h)

/-- Inserts a character for each step count: `steps` have been gone since character value `n` was
begun. -/
def insertFrom (n steps bias : Nat) (word cs : List Char) : Option (List Char) :=
  if cs.isEmpty then some word
  else
    match _h : readSteps bias 36 1 steps cs with
    | none => none
    | some (total, rest) =>
      let points := word.length + 1
      let n := n + total / points
      if n.isValidChar then
        insertFrom n (total % points + 1) (adapt (total - steps) points (steps == 0))
          (word.insertIdx (total % points) (Char.ofNat n)) rest
      else none
termination_by cs.length
decreasing_by exact length_readSteps_lt _h

/-- The word that an ASCII form stands for: the last hyphen ends its ASCII characters. -/
def decode? (cs : List Char) : Option (List Char) :=
  let counts := (cs.reverse.takeWhile (· ≠ '-')).reverse
  let size := cs.length - counts.length - 1
  if size = 0 then insertFrom 0x80 0 72 [] cs
  else insertFrom 0x80 0 72 (cs.take size) counts

end CarbonIntensity.DomainName.Punycode
