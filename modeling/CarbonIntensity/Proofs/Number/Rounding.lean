import CarbonIntensity.Proofs.Number.Unpacked
import Mathlib.Algebra.Order.Field.Power
import Mathlib.Algebra.Order.Ring.Rat
import Mathlib.Tactic.Linarith
import Mathlib.Tactic.NormNum
import Mathlib.Tactic.Positivity
import Mathlib.Tactic.Ring

/-!
# Rounding

A product of floats is the exact product `z`, rounded to a nearest multiple `v` of a power of two. The power
`2 ^ t` is the one that leaves `z` fifty-three binary digits, or the least one there is:

    Rounds z v t

Multiplication by a normal number is such a rounding (mul_of_normal). Rounding to a whole number after it does
not bring together what is more than one apart (Rounds.sub_le_one).
-/

namespace CarbonIntensity.Dyadic

open Float.Model Float.Model.UnpackedFloat

/-- The number `v` is a multiple of `2 ^ t` next to `z`, at the precision of floats. -/
structure Rounds (z v : ℚ) (t : ℤ) : Prop where
  finest : -1074 ≤ t
  digits : t = -1074 ∨ 2 ^ (t + 52) ≤ z
  fits : z < 2 ^ (t + 53)
  grid : ∃ r : ℕ, v = r * 2 ^ t
  near : |v - z| ≤ 2 ^ t / 2

/-! ## Whole numbers -/

section Whole

variable {z z' v v' : ℚ} {t t' : ℤ}

theorem Rounds.exponent_mono (h : Rounds z v t) (h' : Rounds z' v' t') (hle : z ≤ z') : t ≤ t' := by
  rcases h.digits with ht | hz
  · have := h'.finest
    omega
  · have hlt : (2 : ℚ) ^ (t + 52) < 2 ^ (t' + 53) := lt_of_le_of_lt (hz.trans hle) h'.fits
    have := (zpow_lt_zpow_iff_right₀ one_lt_two).mp hlt
    omega

/-- Halves are on the grid of every number that is not rounded to fifty-three digits before the point. -/
theorem Rounds.exponent_neg (h : Rounds z v t) (hv : v < 2 ^ 52 - 1 / 2) : t ≤ -1 := by
  by_contra hge
  have hz : (2 : ℚ) ^ (t + 52) ≤ z := h.digits.resolve_left (by omega)
  have hone : (1 : ℚ) ≤ 2 ^ t := one_le_zpow₀ one_le_two (by omega)
  have hnear := (abs_le.mp h.near).1
  rw [zpow_add₀ two_ne_zero] at hz
  norm_num at hz hv
  linarith

theorem Rounds.half_le (h : Rounds z v t) {n : ℕ} (hv : (n : ℚ) - 1 / 2 ≤ v) :
    (n : ℚ) - 1 / 2 - 2 ^ t / 2 ≤ z := by
  have := (abs_le.mp h.near).2
  linarith

/-- What is rounded below a half was so by half a step of the grid. -/
theorem Rounds.le_half (h : Rounds z v t) (ht : t ≤ -1) {n : ℕ} (hv : v < n + 1 / 2) :
    z ≤ n + 1 / 2 - 2 ^ t / 2 := by
  obtain ⟨r, hr⟩ := h.grid
  obtain ⟨k, rfl⟩ : ∃ k : ℕ, t = -1 - k := ⟨(-1 - t).toNat, by omega⟩
  have hpos : (0 : ℚ) < 2 ^ (-1 - k : ℤ) := zpow_pos two_pos _
  have hhalf : (2 : ℚ) ^ k * 2 ^ (-1 - k : ℤ) = 1 / 2 := by
    rw [← zpow_natCast, ← zpow_add₀ two_ne_zero, add_sub_cancel, zpow_neg_one, one_div]
  have hstep : r + 1 ≤ (2 * n + 1) * 2 ^ k := by
    have hlt : (r : ℚ) * 2 ^ (-1 - k : ℤ) < ((2 * n + 1) * 2 ^ k : ℕ) * 2 ^ (-1 - k : ℤ) := by
      push_cast
      rw [← hr, mul_assoc, hhalf]
      linarith
    exact_mod_cast lt_of_mul_lt_mul_right hlt hpos.le
  have hgrid : v + 2 ^ (-1 - k : ℤ) ≤ n + 1 / 2 := by
    calc v + 2 ^ (-1 - k : ℤ) = ((r + 1 : ℕ) : ℚ) * 2 ^ (-1 - k : ℤ) := by rw [hr]; push_cast; ring
      _ ≤ ((2 * n + 1) * 2 ^ k : ℕ) * 2 ^ (-1 - k : ℤ) :=
        mul_le_mul_of_nonneg_right (by exact_mod_cast hstep) hpos.le
      _ = n + 1 / 2 := by push_cast; rw [mul_assoc, hhalf]; ring
  have := (abs_le.mp h.near).1
  linarith

/-- What is rounded to a number without halves was at most half of one away, or is larger still. -/
theorem Rounds.large (h : Rounds z v t) (hv : (2 : ℚ) ^ 52 - 1 / 2 ≤ v) : 2 ^ 52 - 1 ≤ z := by
  by_cases ht : t ≤ 0
  · have hstep : (2 : ℚ) ^ t ≤ 1 := zpow_le_one_of_nonpos₀ one_le_two ht
    have hnear := (abs_le.mp h.near).2
    linarith
  · have hstep : (2 : ℚ) ^ (52 : ℤ) ≤ 2 ^ (t + 52) := zpow_le_zpow_right₀ one_le_two (by omega)
    have hz : (2 : ℚ) ^ (t + 52) ≤ z := h.digits.resolve_left (by omega)
    rw [← zpow_natCast]
    push_cast
    linarith

/-- Numbers that are rounded to the same whole number are at most one apart, although they were rounded
before. -/
theorem Rounds.sub_le_one (h : Rounds z v t) (h' : Rounds z' v' t') (hle : z ≤ z') (ht' : t' ≤ -1) {n : ℕ}
    (hv : (n : ℚ) - 1 / 2 ≤ v) (hv' : v' < n + 1 / 2) : z' - z ≤ 1 := by
  have hlow := h.half_le hv
  have hhigh := h'.le_half ht' hv'
  -- the grid is not coarser at the smaller of the two
  have hstep : (2 : ℚ) ^ t ≤ 2 ^ t' := zpow_le_zpow_right₀ one_le_two (h.exponent_mono h' hle)
  linarith

theorem roundHalfAway_bounds (m : ℕ) (q : ℤ) :
    (roundHalfAway m q : ℚ) - 1 / 2 ≤ m * 2 ^ q ∧ (m : ℚ) * 2 ^ q < roundHalfAway m q + 1 / 2 := by
  unfold roundHalfAway
  split
  · next hq =>
    obtain ⟨k, rfl⟩ := Int.eq_ofNat_of_zero_le hq
    have hvalue : ((m * twoTo k : ℕ) : ℚ) = m * 2 ^ (k : ℤ) := by
      rw [Nat.cast_mul, zpow_natCast]
      exact congrArg _ (Nat.cast_pow 2 k)
    show ((m * twoTo k : ℕ) : ℚ) - 1 / 2 ≤ _ ∧ _ < ((m * twoTo k : ℕ) : ℚ) + 1 / 2
    rw [hvalue]
    constructor <;> linarith
  · next hq =>
    obtain ⟨k, rfl⟩ : ∃ k : ℕ, q = -((k + 1 : ℕ) : ℤ) := ⟨(-q).toNat - 1, by omega⟩
    rw [Int.neg_neg, Int.toNat_natCast, Nat.add_sub_cancel]
    have hlow := Nat.div_mul_le_self (m + twoTo k) (twoTo (k + 1))
    have hhigh := Nat.lt_div_mul_add (twoTo_pos (k + 1)) (a := m + twoTo k)
    generalize (m + twoTo k) / twoTo (k + 1) = n at hlow hhigh ⊢
    have hcast : ∀ j, ((twoTo j : ℕ) : ℚ) = 2 ^ j := fun j => Nat.cast_pow 2 j
    have hlow' : (n : ℚ) * 2 ^ (k + 1) ≤ m + 2 ^ k := by
      rw [← hcast, ← hcast]
      exact_mod_cast hlow
    have hhigh' : (m : ℚ) + 2 ^ k < n * 2 ^ (k + 1) + 2 ^ (k + 1) := by
      rw [← hcast, ← hcast]
      exact_mod_cast hhigh
    have hpos : (0 : ℚ) < 2 ^ k := pow_pos two_pos k
    rw [zpow_neg, zpow_natCast, ← div_eq_mul_inv, le_div_iff₀ (pow_pos two_pos _),
      div_lt_iff₀ (pow_pos two_pos _)]
    rw [pow_succ] at hlow' hhigh' ⊢
    constructor <;> linarith

end Whole

/-! ## Shifting -/

/-- What a mantissa and the two bits below it tell of a number. -/
def Represents (em : ExtendedMantissa) (x : ℚ) : Prop :=
  match em.roundBit, em.stickyBit with
  | false, false => x = em.mantissa
  | false, true => em.mantissa < x ∧ x < em.mantissa + 1 / 2
  | true, false => x = em.mantissa + 1 / 2
  | true, true => em.mantissa + 1 / 2 < x ∧ x < em.mantissa + 1

section Shifting

variable {em : ExtendedMantissa} {x : ℚ}

theorem Represents.shiftRightOne (h : Represents em x) : Represents em.shiftRightOne (x / 2) := by
  obtain ⟨m, r, s⟩ := em
  obtain ⟨j, rfl | rfl⟩ := m.even_or_odd'
  · have hshift : (⟨2 * j, r, s⟩ : ExtendedMantissa).shiftRightOne = ⟨j, false, r || s⟩ := by
      simp [ExtendedMantissa.shiftRightOne]
    rw [hshift]
    cases r <;> cases s <;> simp only [Represents, Bool.or_true, Bool.or_false] at h ⊢ <;> push_cast at h
    · linarith
    · constructor <;> linarith
    · constructor <;> linarith
    · constructor <;> linarith
  · have hshift : (⟨2 * j + 1, r, s⟩ : ExtendedMantissa).shiftRightOne = ⟨j, true, r || s⟩ := by
      simp [ExtendedMantissa.shiftRightOne, Nat.mul_add_div]
    rw [hshift]
    cases r <;> cases s <;> simp only [Represents, Bool.or_true, Bool.or_false] at h ⊢ <;> push_cast at h
    · linarith
    · constructor <;> linarith
    · constructor <;> linarith
    · constructor <;> linarith

theorem Represents.shiftRight (h : Represents em x) (k : ℕ) : Represents (em >>> k) (x / 2 ^ k) := by
  show Represents (Nat.repeat ExtendedMantissa.shiftRightOne k em) _
  induction k with
  | zero =>
    rw [pow_zero, div_one]
    exact h
  | succ k ih =>
    rw [Nat.repeat, pow_succ, ← div_div]
    exact ih.shiftRightOne

theorem Represents.near (h : Represents em x) : |(em.roundedMantissa : ℚ) - x| ≤ 1 / 2 := by
  obtain ⟨m, r, s⟩ := em
  rw [abs_le]
  cases r <;> cases s <;>
    simp only [Represents, ExtendedMantissa.roundedMantissa, ExtendedMantissa.accuracy,
      Accuracy.roundToNearestEven] at h ⊢
  · constructor <;> linarith
  · constructor <;> linarith
  · -- a half is rounded to the even side
    have hbit : ((m % 2 : ℕ) : ℚ) ≤ 1 := by exact_mod_cast Nat.lt_succ_iff.mp (Nat.mod_lt m two_pos)
    have hnonneg : (0 : ℚ) ≤ (m % 2 : ℕ) := Nat.cast_nonneg _
    push_cast at hbit hnonneg ⊢
    constructor <;> linarith
  · push_cast
    constructor <;> linarith

theorem Represents.le_rounded (h : Represents em x) {n : ℕ} (hn : (n : ℚ) ≤ x) :
    n ≤ em.roundedMantissa := by
  have hlt : (n : ℚ) < em.roundedMantissa + 1 := by linarith [(abs_le.mp h.near).1]
  exact Nat.lt_succ_iff.mp (by exact_mod_cast hlt)

theorem Represents.rounded_le (h : Represents em x) {n : ℕ} (hn : x ≤ n) : em.roundedMantissa ≤ n := by
  have hlt : (em.roundedMantissa : ℚ) < n + 1 := by linarith [(abs_le.mp h.near).2]
  exact Nat.lt_succ_iff.mp (by exact_mod_cast hlt)

end Shifting

/-! ## Floats -/

theorem targetExponent_eq (m : ℕ) (q : ℤ) :
    Format.binary64.targetExponent (totalExponent m q) = max (m.log2 + q - 52) (-1074) := by
  have hbits : (Format.binary64.mantissaBits : ℤ) = 53 := rfl
  have hmin : Format.binary64.minExponent = -1074 := rfl
  unfold Format.targetExponent totalExponent
  rw [hbits, hmin]
  congr 1
  omega

theorem shiftToTargetExponent_of_le {m : ℕ} {q t : ℤ} (ht : max ((m.log2 : ℤ) + q - 52) (-1074) = t)
    (hle : q ≤ t) :
    shiftToTargetExponent Format.binary64 m q .exact =
      (ExtendedMantissa.mk m false false >>> (t - q).toNat, t) := by
  unfold shiftToTargetExponent shiftToExponent
  dsimp only
  rw [targetExponent_eq, ht, show q + ((t - q).toNat : ℤ) = t by omega]
  rfl

theorem shiftToTargetExponent_of_lt {m : ℕ} (hm : m < 2 ^ 53) {q : ℤ} (hq : -1074 ≤ q) :
    shiftToTargetExponent Format.binary64 m q .exact = (.mk m false false, q) := by
  have hlog : m.log2 ≤ 52 := by
    by_cases hzero : m = 0
    · subst hzero
      decide
    · exact Nat.lt_succ_iff.mp ((Nat.log2_lt hzero).mpr hm)
  unfold shiftToTargetExponent shiftToExponent
  dsimp only
  rw [targetExponent_eq, show (max ((m.log2 : ℤ) + q - 52) (-1074) - q).toNat = 0 by omega, Nat.cast_zero,
    add_zero]
  rfl

theorem shiftToTargetExponent_carry {q : ℤ} (hq : -1074 ≤ q) :
    shiftToTargetExponent Format.binary64 (2 ^ 53) q .exact = (.mk (2 ^ 52) false false, q + 1) := by
  have htarget : max (((2 ^ 53).log2 : ℤ) + q - 52) (-1074) = q + 1 := by
    rw [Nat.log2_two_pow]
    omega
  rw [shiftToTargetExponent_of_le htarget (by omega), add_sub_cancel_left]
  rfl

/-- The mantissa of a number that has the digits of a float, or the least exponent, is a rounding of it. A
carry may make it a digit longer. -/
theorem Represents.rounds {em : ExtendedMantissa} {x : ℚ} (h : Represents em x) {t : ℤ} (ht : -1074 ≤ t)
    (hdigits : t = -1074 ∨ 2 ^ 52 ≤ x) (hfits : x < 2 ^ 53) :
    Rounds (x * 2 ^ t) (em.roundedMantissa * 2 ^ t) t ∧ em.roundedMantissa ≤ 2 ^ 53 ∧
      (2 ^ 52 ≤ em.roundedMantissa ∨ t = -1074) := by
  have hstep : (0 : ℚ) < 2 ^ t := zpow_pos two_pos t
  refine ⟨⟨ht, ?_, ?_, ⟨_, rfl⟩, ?_⟩, ?_, ?_⟩
  · rw [add_comm t, zpow_add₀ two_ne_zero 52]
    exact hdigits.imp_right fun hle => mul_le_mul_of_nonneg_right (by exact_mod_cast hle) hstep.le
  · rw [add_comm t, zpow_add₀ two_ne_zero 53]
    exact mul_lt_mul_of_pos_right (by exact_mod_cast hfits) hstep
  · rw [← sub_mul, abs_mul, abs_of_pos hstep]
    linarith [mul_le_mul_of_nonneg_right h.near hstep.le]
  · exact h.rounded_le (by exact_mod_cast hfits.le)
  · exact hdigits.symm.imp_left fun hle => h.le_rounded (by exact_mod_cast hle)

theorem exists_rounds {m : ℕ} (hm : 2 ^ 52 ≤ m) (q : ℤ) :
    ∃ (em : ExtendedMantissa) (t : ℤ), shiftToTargetExponent Format.binary64 m q .exact = (em, t) ∧
      Rounds (m * 2 ^ q) (em.roundedMantissa * 2 ^ t) t ∧ em.roundedMantissa ≤ 2 ^ 53 ∧
      (2 ^ 52 ≤ em.roundedMantissa ∨ t = -1074) := by
  have hne : m ≠ 0 := by omega
  have hlog : 52 ≤ m.log2 := (Nat.le_log2 hne).mpr hm
  obtain ⟨t, ht⟩ : ∃ t, max ((m.log2 : ℤ) + q - 52) (-1074) = t := ⟨_, rfl⟩
  -- with that many digits, the exponent can only grow
  obtain ⟨k, rfl⟩ : ∃ k : ℕ, t = q + k := ⟨(t - q).toNat, by omega⟩
  have hpos : (0 : ℚ) < 2 ^ k := pow_pos two_pos k
  have hexact : Represents (.mk m false false) m := rfl
  have hvalue : (m : ℚ) * 2 ^ q = m / 2 ^ k * 2 ^ (q + k) := by
    rw [zpow_add₀ two_ne_zero, zpow_natCast, mul_comm ((2 : ℚ) ^ q), ← mul_assoc,
      div_mul_cancel₀ _ hpos.ne']
  have hdigits : q + k = -1074 ∨ (2 : ℚ) ^ 52 ≤ m / 2 ^ k := by
    by_cases hmin : q + k = -1074
    · exact .inl hmin
    · have hle : 2 ^ (52 + k) ≤ m := (Nat.le_log2 hne).mp (by omega)
      rw [le_div_iff₀ hpos, ← pow_add]
      exact .inr (by exact_mod_cast hle)
  have hfits : (m : ℚ) / 2 ^ k < 2 ^ 53 := by
    have hlt : m < 2 ^ (53 + k) := (Nat.log2_lt hne).mp (by omega)
    rw [div_lt_iff₀ hpos, ← pow_add]
    exact_mod_cast hlt
  have hshift := shiftToTargetExponent_of_le ht (by omega)
  rw [add_sub_cancel_left, Int.toNat_natCast] at hshift
  rw [hvalue]
  exact ⟨_, _, hshift, (hexact.shiftRight k).rounds (by omega) hdigits hfits⟩

/-- What a float holds of a number with sign: its value, or infinity for one that is too large. -/
def Holds (d : Dyadic) (negative : Bool) (v : ℚ) : Prop :=
  (∃ m q, d = finite negative m q ∧ (m : ℚ) * 2 ^ q = v) ∨ d = infinite negative ∧ 2 ^ 1024 ≤ v

theorem holds_pack {s : Sign} {m : ℕ} {q : ℤ} {hpos : 0 < m} (hm : m < 2 ^ 53) (hq : -1074 ≤ q)
    (hdigits : 2 ^ 52 ≤ m ∨ q = -1074) :
    Holds (ofUnpacked (UnpackedFloat.unpack Format.binary64
      (UnpackedFloat.pack Format.binary64 (.finite s m q hpos)))) (isNegative s) (m * 2 ^ q) := by
  rw [ofUnpacked_unpack_pack hm hq hdigits]
  split
  · next hlarge =>
    have hnormal : 2 ^ 52 ≤ m := hdigits.resolve_right (by omega)
    have hexponent : (2 : ℚ) ^ 972 ≤ 2 ^ q := by
      rw [← zpow_natCast]
      exact zpow_le_zpow_right₀ one_le_two (by omega)
    refine .inr ⟨rfl, ?_⟩
    calc (2 : ℚ) ^ 1024 = 2 ^ 52 * 2 ^ 972 := pow_add 2 52 972
      _ ≤ (m : ℚ) * 2 ^ q := mul_le_mul (by exact_mod_cast hnormal) hexponent (by positivity) (by positivity)
  · exact .inl ⟨m, q, rfl, rfl⟩

theorem holds_roundWithAccuracy (s : Sign) {m : ℕ} (hm : 2 ^ 52 ≤ m) (q : ℤ) :
    ∃ v t, Rounds (m * 2 ^ q) v t ∧
      Holds (ofUnpacked (UnpackedFloat.unpack Format.binary64 (UnpackedFloat.pack Format.binary64
        (roundWithAccuracy Format.binary64 s m q .exact)))) (isNegative s) v := by
  obtain ⟨em, t, hfirst, hrounds, hle, hdigits⟩ := exists_rounds hm q
  refine ⟨_, t, hrounds, ?_⟩
  have ht := hrounds.finest
  unfold roundWithAccuracy
  rw [hfirst]
  dsimp only
  generalize em.roundedMantissa = r at hle hdigits ⊢
  by_cases hcarry : r < 2 ^ 53
  · rw [shiftToTargetExponent_of_lt hcarry ht]
    dsimp only
    by_cases hr : r = 0
    · rw [dif_pos hr, ofUnpacked_unpack_pack_zero, hr]
      exact .inl ⟨0, -1074, rfl, by rw [Nat.cast_zero, zero_mul, zero_mul]⟩
    · rw [dif_neg hr]
      exact holds_pack hcarry ht hdigits
  · obtain rfl : r = 2 ^ 53 := by omega
    have hvalue : ((2 ^ 53 : ℕ) : ℚ) * 2 ^ t = ((2 ^ 52 : ℕ) : ℚ) * 2 ^ (t + 1) := by
      rw [zpow_add_one₀ two_ne_zero]
      push_cast
      ring
    rw [shiftToTargetExponent_carry ht, hvalue]
    dsimp only
    rw [dif_neg (by decide)]
    exact holds_pack (by decide) (by omega) (.inl (by decide))

section Product

variable {x y : Float} {c : ℕ} {e : ℤ} {hpos : 0 < c}

theorem ofFloat_mul (x y : Float) :
    ofFloat (x * y) = ofUnpacked (UnpackedFloat.unpack Format.binary64 (UnpackedFloat.pack Format.binary64
      (UnpackedFloat.mul Format.binary64 x.toModel.unpack y.toModel.unpack))) :=
  ofFloat_eq_ofUnpacked (x * y)

theorem mul_nan (h : ofFloat x = nan) (y : Float) : ofFloat (x * y) = nan := by
  have hmul : UnpackedFloat.mul Format.binary64 .notANumber y.toModel.unpack = .notANumber := rfl
  rw [ofFloat_mul, unpack_of_nan h, hmul, ofUnpacked_unpack_pack_nan]

theorem mul_infinite {negative : Bool} (h : ofFloat x = infinite negative)
    (hy : y.toModel.unpack = .finite .positive c e hpos) : ofFloat (x * y) = infinite negative := by
  obtain ⟨s, rfl, hx⟩ := unpack_of_infinite h
  have hmul : UnpackedFloat.mul Format.binary64 (.infinity s) (.finite .positive c e hpos) =
      .infinity s := by
    cases s <;> rfl
  rw [ofFloat_mul, hx, hy, hmul, ofUnpacked_unpack_pack_infinity]

/-- The product with a positive normal number is the exact product, rounded once. -/
theorem mul_of_normal {negative : Bool} {m : ℕ} {q : ℤ} (h : ofFloat x = finite negative m q)
    (hy : y.toModel.unpack = .finite .positive c e hpos) (hc : 2 ^ 52 ≤ c) :
    ∃ v t, Rounds (m * 2 ^ q * (c * 2 ^ e)) v t ∧ Holds (ofFloat (x * y)) negative v := by
  rw [ofFloat_mul, hy]
  rcases unpack_of_finite h with ⟨s, rfl, rfl, hx⟩ | ⟨s, rfl, hm, hx⟩
  · have hmul : UnpackedFloat.mul Format.binary64 (.zero s) (.finite .positive c e hpos) = .zero s := by
      cases s <;> rfl
    rw [hx, hmul, ofUnpacked_unpack_pack_zero, Nat.cast_zero, zero_mul, zero_mul]
    refine ⟨0, -1074, ⟨le_rfl, .inl rfl, zpow_pos two_pos _, ⟨0, ?_⟩, ?_⟩, .inl ⟨0, -1074, rfl, ?_⟩⟩
    · rw [Nat.cast_zero, zero_mul]
    · rw [sub_zero, abs_zero]
      exact (half_pos (zpow_pos two_pos _)).le
    · rw [Nat.cast_zero, zero_mul]
  · have hmul : UnpackedFloat.mul Format.binary64 (.finite s m q hm) (.finite .positive c e hpos) =
        roundWithAccuracy Format.binary64 s (m * c) (q + e) .exact := by
      cases s <;> rfl
    have hvalue : (m : ℚ) * 2 ^ q * (c * 2 ^ e) = (m * c : ℕ) * 2 ^ (q + e) := by
      rw [zpow_add₀ two_ne_zero]
      push_cast
      ring
    rw [hx, hmul, hvalue]
    exact holds_roundWithAccuracy s (hc.trans (Nat.le_mul_of_pos_left c hm)) (q + e)

end Product

/-! ## Values and words -/

def signed (negative : Bool) (a : ℚ) : ℚ := if negative then -a else a

theorem abs_signed (negative : Bool) {a : ℚ} (h : 0 ≤ a) : |signed negative a| = a := by
  unfold signed
  split
  · rw [abs_neg, abs_of_nonneg h]
  · exact abs_of_nonneg h

/-- The number that is held, if it is one. -/
def value? : Dyadic → Option ℚ
  | finite negative m q => some (signed negative (m * 2 ^ q))
  | _ => none

/-- The whole number a float is rounded to, if it has halves, with the sign. -/
theorem nearestInt64_of_lt {d : Dyadic} {negative : Bool} {v : ℚ} (h : Holds d negative v)
    (hv : v < 2 ^ 52 - 1 / 2) :
    ∃ n : ℕ, n < 2 ^ 52 ∧ d.nearestInt64 = (if negative then -(n : ℤ) else n) ∧ (n : ℚ) - 1 / 2 ≤ v ∧
      v < n + 1 / 2 := by
  rcases h with ⟨m, q, rfl, rfl⟩ | ⟨-, hlarge⟩
  · obtain ⟨hlow, hhigh⟩ := roundHalfAway_bounds m q
    have hn : roundHalfAway m q < 2 ^ 52 := by
      have hlt : (roundHalfAway m q : ℚ) < 2 ^ 52 := by linarith
      exact_mod_cast hlt
    refine ⟨roundHalfAway m q, hn, ?_, hlow, hhigh⟩
    have hrange : ¬twoTo 63 ≤ roundHalfAway m q := by
      rw [twoTo_63]
      omega
    unfold nearestInt64
    dsimp only
    rw [if_neg hrange, if_neg hrange]
  · have hpow : (2 : ℚ) ^ 52 ≤ 2 ^ 1024 := pow_le_pow_right₀ one_le_two (by decide)
    have hlow := hpow.trans hlarge
    linarith only [hv, hlow]

/-- At `2 ^ 52` or beyond, on one side of zero. -/
def Beyond (negative : Bool) (key : ℤ) : Prop := if negative then key ≤ -2 ^ 52 else 2 ^ 52 ≤ key

theorem Beyond.le_natAbs {negative : Bool} {key : ℤ} (h : Beyond negative key) : 2 ^ 52 ≤ key.natAbs := by
  unfold Beyond at h
  split at h <;> omega

theorem Beyond.negative_eq {negative : Bool} {key : ℤ} (h : Beyond negative key) :
    negative = decide (key < 0) := by
  unfold Beyond at h
  cases negative with
  | true =>
    simp only [if_true] at h
    exact (decide_eq_true (by omega)).symm
  | false =>
    simp only [Bool.false_eq_true, if_false] at h
    exact (decide_eq_false (by omega)).symm

theorem beyond_infinite (negative : Bool) : Beyond negative (infinite negative).nearestInt64 := by
  have h63 := twoTo_63
  cases negative with
  | true =>
    show -(twoTo 63 : ℤ) ≤ -2 ^ 52
    omega
  | false =>
    show (2 ^ 52 : ℤ) ≤ twoTo 63 - 1
    omega

theorem beyond_of_le {d : Dyadic} {negative : Bool} {v : ℚ} (h : Holds d negative v)
    (hv : 2 ^ 52 - 1 / 2 ≤ v) : Beyond negative d.nearestInt64 := by
  rcases h with ⟨m, q, rfl, rfl⟩ | ⟨rfl, -⟩
  · have h63 := twoTo_63
    have hn : 2 ^ 52 ≤ roundHalfAway m q := by
      have hlt : (2 : ℚ) ^ 52 < roundHalfAway m q + 1 := by linarith [(roundHalfAway_bounds m q).2]
      exact Nat.lt_succ_iff.mp (by exact_mod_cast hlt)
    unfold Beyond nearestInt64
    cases negative with
    | true =>
      simp only [if_true]
      omega
    | false =>
      simp only [Bool.false_eq_true, if_false]
      omega
  · exact beyond_infinite negative

end CarbonIntensity.Dyadic
