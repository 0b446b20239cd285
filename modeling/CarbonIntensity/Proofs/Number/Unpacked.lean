import CarbonIntensity.Number.Dyadic

/-!
# The value of a float and its parts

Arithmetic on floats takes them apart into sign, significand and exponent, works on these, and packs the
outcome into bits again. The parts are those that the value of a float is read off from:

    ofFloat x = ofUnpacked x.toModel.unpack      (ofFloat_eq_ofUnpacked)

and what is packed is read as it was, or as infinite if its exponent is above 971 (ofUnpacked_unpack_pack).
-/

namespace CarbonIntensity.Dyadic

open Float.Model Float.Model.UnpackedFloat

def isNegative : Sign → Bool
  | .negative => true
  | .positive => false

/-- What the parts of a float denote. -/
def ofUnpacked : UnpackedFloat → Dyadic
  | .notANumber => nan
  | .infinity s => infinite (isNegative s)
  | .zero s => finite (isNegative s) 0 (-1074)
  | .finite s m q _ => finite (isNegative s) m q

/-! ## The fields of the bits -/

section Fields

variable (b : BitVec Format.binary64.numBits)

theorem toNat_unpackMantissa : (unpackMantissa b).toNat = b.toNat % twoTo 52 := by
  simp [unpackMantissa, twoTo]

theorem toNat_unpackExponent : (unpackExponent b).toNat = b.toNat / twoTo 52 % 2048 := by
  simp [unpackExponent, twoTo, Nat.shiftRight_eq_div_pow]

theorem toNat_unpackSign : (unpackSign b).toNat = b.toNat / twoTo 63 := by
  show ((b.extractLsb 63 63).cast rfl).toNat = _
  have hlt : b.toNat < 2 ^ 64 := b.isLt
  rw [BitVec.toNat_cast, BitVec.extractLsb_toNat, Nat.shiftRight_eq_div_pow, twoTo_63]
  omega

theorem isNegative_ofBitVec :
    isNegative (Sign.ofBitVec (unpackSign b)) = decide (twoTo 63 ≤ b.toNat) := by
  have hsign := toNat_unpackSign b
  unfold Sign.ofBitVec
  split
  · next h =>
    rw [h] at hsign
    have hlt : b.toNat < twoTo 63 := (Nat.div_eq_zero_iff_lt (twoTo_pos 63)).mp hsign.symm
    rw [decide_eq_false (by omega)]
    rfl
  · next h =>
    have hge : ¬b.toNat < twoTo 63 := by
      intro hlt
      rw [Nat.div_eq_of_lt hlt] at hsign
      exact h (BitVec.eq_of_toNat_eq hsign)
    rw [decide_eq_true (by omega)]
    rfl

theorem ofBits_eq_ofUnpacked : ofBits b.toNat = ofUnpacked (unpack Format.binary64 b) := by
  have hones : unpackExponent b = -BitVec.ofNat Format.binary64.exponentBits 1 ↔
      (unpackExponent b).toNat = 2047 := by
    rw [← BitVec.toNat_inj]
    rfl
  have hnone : unpackExponent b = BitVec.ofNat Format.binary64.exponentBits 0 ↔
      (unpackExponent b).toNat = 0 := by
    rw [← BitVec.toNat_inj]
    rfl
  have hempty : unpackMantissa b = BitVec.ofNat Format.binary64.mantissaBitsWithoutImplicit 0 ↔
      (unpackMantissa b).toNat = 0 := by
    rw [← BitVec.toNat_inj]
    rfl
  unfold ofBits UnpackedFloat.unpack
  dsimp only
  rw [← isNegative_ofBitVec b, ← toNat_unpackMantissa b, ← toNat_unpackExponent b]
  by_cases hspecial : (unpackExponent b).toNat = 2047
  · rw [if_pos hspecial, if_pos (hones.mpr hspecial)]
    by_cases hmantissa : (unpackMantissa b).toNat = 0
    · rw [if_pos hmantissa, if_pos (hempty.mpr hmantissa)]
      rfl
    · rw [if_neg hmantissa, if_neg (mt hempty.mp hmantissa)]
      rfl
  · rw [if_neg hspecial, if_neg (mt hones.mp hspecial)]
    by_cases hexponent : (unpackExponent b).toNat = 0
    · rw [if_pos hexponent, if_pos (hnone.mpr hexponent), hexponent]
      by_cases hmantissa : (unpackMantissa b).toNat = 0
      · rw [dif_pos (hempty.mpr hmantissa), hmantissa]
        rfl
      · rw [dif_neg (mt hempty.mp hmantissa)]
        rfl
    · rw [if_neg hexponent, if_neg (mt hnone.mp hexponent)]
      -- the leading binary digit of a normal number is not among its bits
      show finite _ _ _ = finite _ _ _
      congr 1
      rw [BitVec.toNat_append, ← Nat.shiftLeft_add_eq_or_of_lt (unpackMantissa b).isLt]
      rfl

end Fields

theorem ofFloat_eq_ofUnpacked (x : Float) : ofFloat x = ofUnpacked x.toModel.unpack :=
  ofBits_eq_ofUnpacked _

/-- The parts of a float that is a finite number. -/
theorem unpack_of_finite {x : Float} {negative : Bool} {m : Nat} {q : Int}
    (h : ofFloat x = finite negative m q) :
    (∃ s, isNegative s = negative ∧ m = 0 ∧ x.toModel.unpack = .zero s) ∨
      ∃ s, isNegative s = negative ∧ ∃ hpos : 0 < m, x.toModel.unpack = .finite s m q hpos := by
  rw [ofFloat_eq_ofUnpacked] at h
  cases hu : x.toModel.unpack with
  | notANumber =>
    rw [hu] at h
    cases h
  | infinity s =>
    rw [hu] at h
    cases h
  | zero s =>
    rw [hu] at h
    cases h
    exact .inl ⟨s, rfl, rfl, rfl⟩
  | finite s m q hpos =>
    rw [hu] at h
    cases h
    exact .inr ⟨s, rfl, hpos, rfl⟩

theorem unpack_of_nan {x : Float} (h : ofFloat x = nan) : x.toModel.unpack = .notANumber := by
  rw [ofFloat_eq_ofUnpacked] at h
  cases hu : x.toModel.unpack with
  | notANumber => rfl
  | _ =>
    rw [hu] at h
    cases h

theorem unpack_of_infinite {x : Float} {negative : Bool} (h : ofFloat x = infinite negative) :
    ∃ s, isNegative s = negative ∧ x.toModel.unpack = .infinity s := by
  rw [ofFloat_eq_ofUnpacked] at h
  cases hu : x.toModel.unpack with
  | infinity s =>
    rw [hu] at h
    cases h
    exact ⟨s, rfl, rfl⟩
  | _ =>
    rw [hu] at h
    cases h

/-! ## Packing -/

section Packing

variable (s : Sign) (e : BitVec Format.binary64.exponentBits)
  (f : BitVec Format.binary64.mantissaBitsWithoutImplicit)

theorem toNat_packComponents : (packComponents Format.binary64 s e f).toNat =
    s.toBitVec.toNat * twoTo 63 + e.toNat * twoTo 52 + f.toNat := by
  unfold packComponents
  rw [BitVec.toNat_append, ← Nat.shiftLeft_add_eq_or_of_lt f.isLt, BitVec.toNat_append,
    ← Nat.shiftLeft_add_eq_or_of_lt e.isLt, Nat.shiftLeft_eq, Nat.shiftLeft_eq, Nat.add_mul, Nat.mul_assoc]
  rfl

theorem isNegative_packComponents :
    decide (twoTo 63 ≤ (packComponents Format.binary64 s e f).toNat) = isNegative s := by
  rw [toNat_packComponents]
  cases s with
  | negative =>
    refine decide_eq_true ?_
    show twoTo 63 ≤ 1 * twoTo 63 + e.toNat * twoTo 52 + f.toNat
    omega
  | positive =>
    have he : e.toNat < 2048 := e.isLt
    have hf : f.toNat < 4503599627370496 := f.isLt
    have h52 : twoTo 52 = 4503599627370496 := rfl
    refine decide_eq_false ?_
    show ¬twoTo 63 ≤ 0 * twoTo 63 + e.toNat * twoTo 52 + f.toNat
    rw [twoTo_63, h52]
    omega

theorem ofUnpacked_unpack_packComponents :
    ofUnpacked (unpack Format.binary64 (packComponents Format.binary64 s e f)) =
      if e.toNat = 2047 then
        if f.toNat = 0 then infinite (isNegative s) else nan
      else if e.toNat = 0 then finite (isNegative s) f.toNat (-1074)
      else finite (isNegative s) (twoTo 52 + f.toNat) ((e.toNat : Int) - 1075) := by
  rw [← ofBits_eq_ofUnpacked]
  unfold ofBits
  dsimp only
  rw [isNegative_packComponents, ← toNat_unpackMantissa, ← toNat_unpackExponent,
    unpackMantissa_packComponents, unpackExponent_packComponents]

end Packing

theorem ofUnpacked_unpack_pack_nan :
    ofUnpacked (unpack Format.binary64 (pack Format.binary64 .notANumber)) = nan :=
  rfl

theorem ofUnpacked_unpack_pack_infinity (s : Sign) :
    ofUnpacked (unpack Format.binary64 (pack Format.binary64 (.infinity s))) =
      infinite (isNegative s) :=
  ofUnpacked_unpack_packComponents s _ _

theorem ofUnpacked_unpack_pack_zero (s : Sign) :
    ofUnpacked (unpack Format.binary64 (pack Format.binary64 (.zero s))) =
      finite (isNegative s) 0 (-1074) :=
  ofUnpacked_unpack_packComponents s _ _

/-- Parts with as many binary digits as floats have are read as they were packed, unless the exponent is
too large. -/
theorem ofUnpacked_unpack_pack {s : Sign} {m : Nat} {q : Int} {hpos : 0 < m} (hm : m < twoTo 53)
    (hq : -1074 ≤ q) (hdigits : twoTo 52 ≤ m ∨ q = -1074) :
    ofUnpacked (unpack Format.binary64 (pack Format.binary64 (.finite s m q hpos))) =
      if 971 < q then infinite (isNegative s) else finite (isNegative s) m q := by
  have h52 : twoTo 52 = 4503599627370496 := rfl
  have h53 : twoTo 53 = 9007199254740992 := rfl
  have hbias : (Format.binary64.exponentBias : Int) = 1023 := rfl
  have hbits : Format.binary64.mantissaBits = 53 := rfl
  have hexponent : ∀ n, (BitVec.ofNat Format.binary64.exponentBits n).toNat = n % 2048 := fun n => rfl
  have hmantissa : ∀ n, (BitVec.ofNat Format.binary64.mantissaBitsWithoutImplicit n).toNat =
      n % 4503599627370496 := fun n => rfl
  unfold UnpackedFloat.pack
  dsimp only
  rw [hbias, hbits]
  by_cases hlarge : 971 < q
  · rw [if_pos (by omega), if_pos hlarge]
    exact ofUnpacked_unpack_packComponents s _ _
  · rw [if_neg (by omega), if_neg hlarge]
    by_cases hnormal : twoTo 52 ≤ m
    · have hlog : m.log2 = 52 := (Nat.log2_eq_iff (by omega)).mpr ⟨hnormal, hm⟩
      rw [if_pos (by omega), ofUnpacked_unpack_packComponents, hexponent, hmantissa, if_neg (by omega),
        if_neg (by omega)]
      congr 1 <;> omega
    · have hlog : m.log2 < 52 := (Nat.log2_lt (by omega)).mpr (by omega)
      rw [if_neg (by omega), ofUnpacked_unpack_packComponents, hmantissa, if_neg (by decide),
        if_pos (by decide)]
      congr 1 <;> omega

end CarbonIntensity.Dyadic
