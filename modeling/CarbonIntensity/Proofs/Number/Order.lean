import Mathlib.Algebra.Order.Group.Int
import Mathlib.Data.Prod.Lex
import Mathlib.Order.Compare

/-!
# The order of floats

Floats that are numbers are ordered by a rank: by sign and by whether they are zero or infinite first,
then by exponent, then by significand. The two zeros have one rank. Comparisons are those of ranks, and
they fail on what is no number:

    a ≤ b ↔ a.isNaN = false ∧ b.isNaN = false ∧ rank a ≤ rank b             (le_iff)
    (a == b) = true ↔ a.isNaN = false ∧ b.isNaN = false ∧ rank a = rank b   (beq_iff)
-/

namespace CarbonIntensity.FloatOrder

open Float.Model (UnpackedFloat)

/-- Sign and kind, exponent and significand, the last two turned around below zero. -/
def unpackedRank : UnpackedFloat → ℤ ×ₗ ℤ ×ₗ ℤ
  | .infinity .negative => toLex (-2, toLex (0, 0))
  | .finite .negative m e _ => toLex (-1, toLex (-e, -m))
  | .notANumber => toLex (0, toLex (0, 0))
  | .zero _ => toLex (0, toLex (0, 0))
  | .finite .positive m e _ => toLex (1, toLex (e, m))
  | .infinity .positive => toLex (2, toLex (0, 0))

/-- The place of a number among all floats. -/
def rank (a : Float) : ℤ ×ₗ ℤ ×ₗ ℤ := unpackedRank a.toModel.unpack

/-! ## Lemmas -/

theorem compare_cast (m m' : ℕ) : compare (m : ℤ) (m' : ℤ) = compare m m' := by
  rcases lt_trichotomy m m' with h | h | h
  · rw [Nat.compare_eq_lt.mpr h, Int.compare_eq_lt.mpr (by omega)]
  · rw [Nat.compare_eq_eq.mpr h, Int.compare_eq_eq.mpr (by omega)]
  · rw [Nat.compare_eq_gt.mpr h, Int.compare_eq_gt.mpr (by omega)]

theorem compare_neg (m m' : ℤ) : compare (-m) (-m') = (compare m m').swap := by
  rcases lt_trichotomy m m' with h | h | h
  · rw [Int.compare_eq_lt.mpr h, Int.compare_eq_gt.mpr (by omega)]
    rfl
  · rw [Int.compare_eq_eq.mpr h, Int.compare_eq_eq.mpr (by omega)]
    rfl
  · rw [Int.compare_eq_gt.mpr h, Int.compare_eq_lt.mpr (by omega)]
    rfl

/-- Unpacked numbers compare as their ranks do. -/
theorem compare_eq {a b : UnpackedFloat} (ha : a.isNaN = false) (hb : b.isNaN = false) :
    a.compare b = some (compare (unpackedRank a) (unpackedRank b)) := by
  cases a with
  | notANumber => cases ha
  | infinity s =>
    cases b with
    | notANumber => cases hb
    | infinity s' => cases s <;> cases s' <;> rfl
    | zero s' => cases s <;> rfl
    | finite s' m' e' h' => cases s <;> cases s' <;> rfl
  | zero s =>
    cases b with
    | notANumber => cases hb
    | infinity s' => cases s' <;> rfl
    | zero s' => rfl
    | finite s' m' e' h' => cases s' <;> rfl
  | finite s m e h =>
    cases b with
    | notANumber => cases hb
    | infinity s' => cases s <;> cases s' <;> rfl
    | zero s' => cases s <;> rfl
    | finite s' m' e' h' =>
      cases s with
      | negative =>
        cases s' with
        | negative =>
          show some ((compare e e').then (compare m m')).swap =
            some ((compare (-e) (-e')).then (compare (-(m : ℤ)) (-(m' : ℤ))))
          rw [compare_neg, compare_neg, compare_cast, Ordering.swap_then]
        | positive => rfl
      | positive =>
        cases s' with
        | negative => rfl
        | positive =>
          show some ((compare e e').then (compare m m')) =
            some ((compare e e').then (compare (m : ℤ) (m' : ℤ)))
          rw [compare_cast]

theorem compare_eq_none {a b : UnpackedFloat} (h : a.isNaN = true ∨ b.isNaN = true) :
    a.compare b = none := by
  rcases h with h | h
  · cases a with
    | notANumber => rfl
    | _ => cases h
  · cases b with
    | notANumber => cases a <;> rfl
    | _ => cases h

/-- A relation that looks at the comparison of two floats holds of numbers only, and by their ranks. -/
theorem test_compare_iff (test : Ordering → Bool) (a b : Float) :
    (a.toModel.unpack.compare b.toModel.unpack).any test = true ↔
      a.isNaN = false ∧ b.isNaN = false ∧ test (compare (rank a) (rank b)) = true := by
  show _ ↔ a.toModel.unpack.isNaN = false ∧ b.toModel.unpack.isNaN = false ∧ _
  cases ha : a.toModel.unpack.isNaN with
  | true => simp [compare_eq_none (.inl ha)]
  | false =>
    cases hb : b.toModel.unpack.isNaN with
    | true => simp [compare_eq_none (.inr hb)]
    | false =>
      rw [compare_eq ha hb]
      simp [rank]

/-! ## Comparisons -/

theorem le_iff (a b : Float) :
    a ≤ b ↔ a.isNaN = false ∧ b.isNaN = false ∧ rank a ≤ rank b := by
  have hrank : rank a ≤ rank b ↔ (compare (rank a) (rank b)).isLE = true := by
    rw [← compare_le_iff_le]
    cases compare (rank a) (rank b) <;> decide
  rw [hrank, ← test_compare_iff (·.isLE) a b]
  exact decide_eq_true_iff

theorem lt_iff (a b : Float) :
    a < b ↔ a.isNaN = false ∧ b.isNaN = false ∧ rank a < rank b := by
  have hrank : rank a < rank b ↔ (compare (rank a) (rank b) == .lt) = true := by
    rw [← compare_lt_iff_lt, beq_iff_eq]
  rw [hrank, ← test_compare_iff (· == .lt) a b]
  have hlt : a < b ↔ (a.toModel.unpack.compare b.toModel.unpack == some .lt) = true :=
    decide_eq_true_iff
  rw [hlt]
  cases a.toModel.unpack.compare b.toModel.unpack <;> rfl

theorem beq_iff (a b : Float) :
    (a == b) = true ↔ a.isNaN = false ∧ b.isNaN = false ∧ rank a = rank b := by
  have hrank : rank a = rank b ↔ (compare (rank a) (rank b) == .eq) = true := by
    rw [← compare_eq_iff_eq, beq_iff_eq]
  rw [hrank, ← test_compare_iff (· == .eq) a b]
  show (a.toModel.unpack.compare b.toModel.unpack == some .eq) = true ↔ _
  cases a.toModel.unpack.compare b.toModel.unpack <;> rfl

end CarbonIntensity.FloatOrder
