import CarbonIntensity.Text.Basic

/-!
# Whole numbers of 64 bits

The limits of binary words and the steps of decimal grids are powers of two and ten. Both powers are
natural numbers, and each is told apart from the general one by its name, so that a limit reads the same
wherever it occurs.

In settings a whole number is given by an optional plus sign, or a minus sign where it may be negative,
and digits. Digits are read from the left, and the first one that is none or that makes the number too
large is at fault.
-/

namespace CarbonIntensity

/-! ## Powers -/

/-- The power of two `2ᵏ`. -/
def twoTo (k : Nat) : Nat := Nat.pow 2 k

/-- The power of ten `10ᵏ`. -/
def tenTo (k : Nat) : Nat := Nat.pow 10 k

@[simp] theorem twoTo_zero : twoTo 0 = 1 := rfl

theorem twoTo_succ (k : Nat) : twoTo (k + 1) = 2 * twoTo k := Nat.mul_comm _ 2

theorem twoTo_pos (k : Nat) : 0 < twoTo k := by
  induction k with
  | zero => simp
  | succ k ih => rw [twoTo_succ]; omega

theorem twoTo_63 : twoTo 63 = 9223372036854775808 := rfl

/-! ## Numbers of 64 bits -/

inductive IntegerFault where
  | empty
  | invalidDigit
  | tooLarge
  | tooSmall
deriving DecidableEq, Inhabited

def IntegerFault.message : IntegerFault → String
  | empty => "cannot parse integer from empty string"
  | invalidDigit => "invalid digit found in string"
  | tooLarge => "number too large to fit in target type"
  | tooSmall => "number too small to fit in target type"

namespace Integer

/-- The number of some digits up to a limit. -/
def magnitude (limit : Nat) (beyond : IntegerFault) (n : Nat) : List Char → Except IntegerFault Nat
  | [] => .ok n
  | c :: rest =>
    if c.isDigit then
      let next := 10 * n + Text.digitValue c
      if limit < next then .error beyond else magnitude limit beyond next rest
    else .error .invalidDigit

/-- A number below `2^64`. -/
def natural (s : String) : Except IntegerFault Nat :=
  match s.toList with
  | [] => .error .empty
  | ['+'] => .error .invalidDigit
  | '+' :: rest => magnitude (twoTo 64 - 1) .tooLarge 0 rest
  | cs => magnitude (twoTo 64 - 1) .tooLarge 0 cs

/-- A number from `-2^63` to below `2^63`. -/
def signed (s : String) : Except IntegerFault Int :=
  match s.toList with
  | [] => .error .empty
  | ['+'] => .error .invalidDigit
  | ['-'] => .error .invalidDigit
  | '-' :: rest => (magnitude (twoTo 63) .tooSmall 0 rest).map fun n => -(n : Int)
  | '+' :: rest => (magnitude (twoTo 63 - 1) .tooLarge 0 rest).map Int.ofNat
  | cs => (magnitude (twoTo 63 - 1) .tooLarge 0 cs).map Int.ofNat

/-- The number, if it is one from `-2^63` to below `2^63`. -/
def inWord? (n : Int) : Option Int := if -twoTo 63 ≤ n ∧ n < twoTo 63 then some n else none

theorem inWord?_of_lt {n : Int} (hnonneg : 0 ≤ n) (hlt : n < twoTo 63) : inWord? n = some n :=
  if_pos ⟨by omega, hlt⟩

theorem inWord?_of_le {n : Int} (hle : twoTo 63 ≤ n) : inWord? n = none :=
  if_neg fun h => Int.not_lt.mpr hle h.2

end Integer

end CarbonIntensity
