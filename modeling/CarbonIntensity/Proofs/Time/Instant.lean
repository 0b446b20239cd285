import CarbonIntensity.Time.Instant

/-!
# Instants outside leap seconds

Away from leap seconds, instants are their counts of nanoseconds: adding a span adds its nanoseconds,
and the span between two instants is the difference.

    t.add? d = some u → u.since t = d      (since_of_add?)

Steps keep the order also into and out of leap seconds: from an instant before `w`, a step that is not
longer than one from `w` to `u` ends at `u` at the latest (add?_le_of_lt).

The span to a later instant goes forward but in one case: a leap second at the end of a day is not counted
if the other instant is on the next day, so that it is lost between the two (zero_lt_since_iff).
-/

namespace CarbonIntensity

@[simp] theorem Span.wholeMillis_zero : Span.zero.wholeMillis = 0 := rfl

theorem Span.eq_of_nanos {a b : Span} (h : a.nanos = b.nanos) : a = b := by
  cases a
  cases b
  cases h
  rfl

namespace Instant

@[simp] theorem rank_max (a b : Instant) : (max a b).rank = max a.rank b.rank := by
  show (if a ≤ b then b else a).rank = _
  split
  · next h =>
    rw [le_def] at h
    omega
  · next h =>
    rw [le_def] at h
    omega

@[simp] theorem rank_min (a b : Instant) : (min a b).rank = min a.rank b.rank := by
  show (if a ≤ b then a else b).rank = _
  split
  · next h =>
    rw [le_def] at h
    omega
  · next h =>
    rw [le_def] at h
    omega

theorem isLeap_eq_true_iff {t : Instant} : t.isLeap = true ↔ giga ≤ t.nano := decide_eq_true_iff

theorem isLeap_eq_false_iff {t : Instant} : t.isLeap = false ↔ t.nano < giga :=
  decide_eq_false_iff_not.trans Nat.not_le

theorem isLeap_max {a b : Instant} (ha : a.isLeap = false) (hb : b.isLeap = false) :
    (max a b).isLeap = false := by
  show (if a ≤ b then b else a).isLeap = false
  split <;> assumption

theorem isLeap_min {a b : Instant} (ha : a.isLeap = false) (hb : b.isLeap = false) :
    (min a b).isLeap = false := by
  show (if a ≤ b then a else b).isLeap = false
  split <;> assumption

theorem add?_of_not_leap {t : Instant} (ht : t.isLeap = false) (d : Span) :
    t.add? d = ofTicks? (t.ticks + d.nanos) := by
  unfold add?
  rw [ht]
  rfl

/-- Adding to an instant outside leap seconds does not lead into one. -/
theorem isLeap_of_add? {t u : Instant} (ht : t.isLeap = false) {d : Span} (h : t.add? d = some u) :
    u.isLeap = false := by
  rw [add?_of_not_leap ht] at h
  exact (ofTicks?_eq_some h).2

theorem ticks_of_add? {t u : Instant} (ht : t.isLeap = false) {d : Span} (h : t.add? d = some u) :
    u.ticks = t.ticks + d.nanos := by
  rw [add?_of_not_leap ht] at h
  exact (ofTicks?_eq_some h).1

theorem leapBetween_eq_zero {a b : Instant} (ha : a.isLeap = false) (hb : b.isLeap = false) :
    leapBetween a b = 0 := by
  unfold leapBetween
  rw [ha, hb]
  split
  · rfl
  · split <;> rfl

theorem nanos_since {a b : Instant} (ha : a.isLeap = false) (hb : b.isLeap = false) :
    (a.since b).nanos = a.ticks - b.ticks := by
  show a.ticks - b.ticks + leapBetween a b * giga = _
  rw [leapBetween_eq_zero ha hb]
  omega

theorem since_of_add? {t u : Instant} (ht : t.isLeap = false) {d : Span} (h : t.add? d = some u) :
    u.since t = d := by
  apply Span.eq_of_nanos
  rw [nanos_since (isLeap_of_add? ht h) ht, ticks_of_add? ht h]
  omega

theorem add?_since {t u : Instant} (ht : t.isLeap = false) (hu : u.isLeap = false) :
    t.add? (u.since t) = some u := by
  have hticks : t.ticks + (u.since t).nanos = u.ticks := by
    rw [nanos_since hu ht]
    omega
  have hrange := u.inRange
  rw [isLeap_eq_false_iff] at hu
  have hin : firstSecond ≤ u.ticks / giga ∧ u.ticks / giga ≤ lastSecond := by
    unfold ticks giga at *
    omega
  rw [add?_of_not_leap ht, hticks]
  unfold ofTicks?
  rw [dif_pos hin]
  apply congrArg some
  apply rank_injective
  show u.ticks / giga * (2 * giga : Nat) + (u.ticks % giga).toNat = u.second * (2 * giga : Nat) + u.nano
  unfold ticks giga at *
  omega

/-- Instants a span apart, either of them the later one. -/
theorem abs_since {a b : Instant} (ha : a.isLeap = false) (hb : b.isLeap = false) {d : Span}
    (hd : Span.zero < d) (h : b.ticks = a.ticks + d.nanos ∨ a.ticks = b.ticks + d.nanos) :
    (a.since b).abs = d := by
  have hpos : 0 < d.nanos := hd
  have hsince := nanos_since ha hb
  apply Span.eq_of_nanos
  unfold Span.abs
  rcases h with h | h
  · rw [if_pos (by omega), Span.nanos_neg]
    omega
  · rw [if_neg (by omega)]
    omega

theorem leapBetween_comm (a b : Instant) : leapBetween a b = -leapBetween b a := by
  unfold leapBetween
  rcases Int.lt_trichotomy (a.second % 86400) (b.second % 86400) with h | h | h
  · rw [if_neg (Int.lt_asymm h), if_pos h, if_pos h]
    split <;> rfl
  · rw [h]
    simp only [Int.lt_irrefl, if_false, Int.neg_zero]
  · rw [if_pos h, if_neg (Int.lt_asymm h), if_pos h]
    split <;> rfl

/-- How far two instants lie apart does not depend on which of them is the later one. -/
theorem abs_since_comm (a b : Instant) : (a.since b).abs = (b.since a).abs := by
  have hneg : (a.since b).nanos = -(b.since a).nanos := by
    show a.ticks - b.ticks + leapBetween a b * giga = -(b.ticks - a.ticks + leapBetween b a * giga)
    rw [leapBetween_comm, Int.neg_mul]
    omega
  apply Span.eq_of_nanos
  rcases Int.lt_trichotomy (b.since a).nanos 0 with h | h | h
  · rw [Span.abs, Span.abs, if_neg (by omega), if_pos h, Span.nanos_neg, hneg]
  · rw [Span.abs, Span.abs, if_neg (by omega), if_neg (by omega), hneg, h, Int.neg_zero]
  · rw [Span.abs, Span.abs, if_pos (by omega), if_neg (by omega), Span.nanos_neg, hneg, Int.neg_neg]

theorem add?_zero (t : Instant) : t.add? Span.zero = some t := by
  cases ht : t.isLeap with
  | false =>
    have hzero : t.since t = Span.zero := by
      apply Span.eq_of_nanos
      rw [nanos_since ht ht, Int.sub_self, Span.nanos_zero]
    rw [← hzero, add?_since ht ht]
  | true =>
    have hnano := t.nano_lt
    have hstay : t.addWithin? 0 = some t := by
      unfold addWithin?
      rw [dif_pos ⟨by omega, by omega, fun h => t.leap (by omega)⟩]
      apply congrArg some
      apply rank_injective
      show t.second * (2 * giga : Nat) + (t.nano + 0 : Int).toNat = t.rank
      unfold rank
      omega
    unfold add?
    rw [if_pos ht, Span.nanos_zero, Int.zero_tdiv, Int.zero_tmod]
    simp only
    rw [if_neg (by omega), if_neg (Int.lt_irrefl 0), hstay]

/-! ## The span to a later instant -/

/-- From the leap second at the end of a day to less of the first second of the next day. -/
def skipsLeap (a b : Instant) : Bool :=
  a.second % 86400 = 86399 && b.second = a.second + 1 && giga + b.nano ≤ a.nano

theorem skipsLeap_eq_true_iff {a b : Instant} : a.skipsLeap b = true ↔
    a.second % 86400 = 86399 ∧ b.second = a.second + 1 ∧ giga + b.nano ≤ a.nano := by
  unfold skipsLeap
  rw [Bool.and_eq_true, Bool.and_eq_true, decide_eq_true_iff, decide_eq_true_iff, decide_eq_true_iff,
    and_assoc]

theorem isLeap_of_skipsLeap {a b : Instant} (h : a.skipsLeap b = true) : a.isLeap = true := by
  obtain ⟨-, -, hnano⟩ := skipsLeap_eq_true_iff.mp h
  exact isLeap_eq_true_iff.mpr (by omega)

theorem lt_of_skipsLeap {a b : Instant} (h : a.skipsLeap b = true) : a < b := by
  obtain ⟨-, hsecond, -⟩ := skipsLeap_eq_true_iff.mp h
  have hnano := a.nano_lt
  rw [lt_def]
  unfold rank giga at *
  omega

theorem zero_lt_since_iff {a b : Instant} (h : a < b) :
    Span.zero < b.since a ↔ a.skipsLeap b = false := by
  have ha := a.nano_lt
  have hb := b.nano_lt
  have hleap := b.leap
  rw [lt_def] at h
  rw [← Bool.not_eq_true, skipsLeap_eq_true_iff]
  show 0 < b.ticks - a.ticks + leapBetween b a * giga ↔ _
  unfold leapBetween
  simp only [isLeap_eq_true_iff]
  unfold rank ticks giga at *
  split
  · split <;> omega
  · split
    · split <;> omega
    · omega

/-! ## The order of steps -/

theorem le_trans {a b c : Instant} (h : a ≤ b) (h' : b ≤ c) : a ≤ c := by
  rw [le_def] at *
  omega

theorem le_refl (a : Instant) : a ≤ a := Int.le_refl a.rank

theorem lt_irrefl (a : Instant) : ¬a < a := Int.lt_irrefl a.rank

theorem ne_of_lt {a b : Instant} (h : a < b) : a ≠ b := by
  rintro rfl
  exact lt_irrefl a h

theorem lt_of_le_of_ne {a b : Instant} (h : a ≤ b) (hne : a ≠ b) : a < b := by
  have hrank : a.rank ≠ b.rank := fun heq => hne (rank_injective heq)
  rw [le_def] at h
  rw [lt_def]
  omega

theorem not_le {a b : Instant} : ¬a ≤ b ↔ b < a := by
  rw [le_def, lt_def]
  omega

theorem lt_iff_ticks_lt {t u : Instant} (ht : t.isLeap = false) (hu : u.isLeap = false) :
    t < u ↔ t.ticks < u.ticks := by
  rw [isLeap_eq_false_iff] at ht hu
  rw [lt_def]
  unfold rank ticks giga at *
  omega

theorem le_iff_ticks_le {t u : Instant} (ht : t.isLeap = false) (hu : u.isLeap = false) :
    t ≤ u ↔ t.ticks ≤ u.ticks := by
  rw [isLeap_eq_false_iff] at ht hu
  rw [le_def]
  unfold rank ticks giga at *
  omega

theorem ticks_max {a b : Instant} (ha : a.isLeap = false) (hb : b.isLeap = false) :
    (max a b).ticks = max a.ticks b.ticks := by
  show (if a ≤ b then b else a).ticks = _
  split
  · next h =>
    rw [le_iff_ticks_le ha hb] at h
    omega
  · next h =>
    rw [le_iff_ticks_le ha hb] at h
    omega

theorem ticks_min {a b : Instant} (ha : a.isLeap = false) (hb : b.isLeap = false) :
    (min a b).ticks = min a.ticks b.ticks := by
  show (if a ≤ b then a else b).ticks = _
  split
  · next h =>
    rw [le_iff_ticks_le ha hb] at h
    omega
  · next h =>
    rw [le_iff_ticks_le ha hb] at h
    omega

theorem earliest_le (t : Instant) : earliest ≤ t := by
  have hrange := t.inRange
  rw [le_def]
  show firstSecond * (2 * giga : Nat) + (0 : Nat) ≤ t.second * (2 * giga : Nat) + t.nano
  unfold giga
  omega

/-- What is before an instant outside leap seconds is before the last instant. -/
theorem lt_latest {t u : Instant} (hu : u.isLeap = false) (h : t < u) : t < latest := by
  have hrange := u.inRange
  rw [isLeap_eq_false_iff] at hu
  rw [lt_def] at *
  show t.rank < lastSecond * (2 * giga : Nat) + (999999999 : Nat)
  unfold rank giga at *
  omega

/-- An instant in a leap second is before the next second. -/
theorem second_lt_of_lt {t u : Instant} (ht : t.isLeap = true) (hu : u.isLeap = false) (h : t < u) :
    t.second < u.second := by
  rw [isLeap_eq_true_iff] at ht
  rw [isLeap_eq_false_iff] at hu
  rw [lt_def] at h
  unfold rank giga at *
  omega

/-- A step leads into a leap second only within that leap second. -/
theorem second_of_add? {t u : Instant} {d : Span} (h : t.add? d = some u) (hu : u.isLeap = true) :
    t.isLeap = true ∧ u.second = t.second := by
  have steady : ∀ n, ofTicks? n ≠ some u := by
    intro n hn
    rw [(ofTicks?_eq_some hn).2] at hu
    cases hu
  cases ht : t.isLeap with
  | false =>
    rw [add?_of_not_leap ht] at h
    exact absurd h (steady _)
  | true =>
    refine ⟨rfl, ?_⟩
    unfold add? at h
    rw [if_pos ht] at h
    simp only at h
    split at h
    · exact absurd h (steady _)
    · split at h
      · exact absurd h (steady _)
      · unfold addWithin? at h
        split at h
        · cases h
          rfl
        · cases h

/-- The instant is before `w` or in no leap second. -/
def SteadyFrom (w t : Instant) : Prop := t.isLeap = false ∨ t < w

theorem steadyFrom_of_le {w t : Instant} (hw : w.isLeap = false) (h : t ≤ w) : w.SteadyFrom t := by
  cases hleap : t.isLeap with
  | false => exact .inl hleap
  | true =>
    refine .inr (lt_of_le_of_ne h fun heq => ?_)
    rw [heq, hw] at hleap
    cases hleap

theorem SteadyFrom.add? {w t u : Instant} {d : Span} (hw : w.isLeap = false) (ht : w.SteadyFrom t)
    (h : t.add? d = some u) : w.SteadyFrom u := by
  cases hu : u.isLeap with
  | false => exact .inl hu
  | true =>
    right
    obtain ⟨hleap, hsecond⟩ := second_of_add? h hu
    have hlt := second_lt_of_lt hleap hw (ht.resolve_left (by rw [hleap]; decide))
    have hnano := u.nano_lt
    rw [lt_def]
    unfold rank giga at *
    omega

/-- A count of ticks up to that of an instant is one of an instant. -/
theorem ofTicks?_isSome {u : Instant} (hu : u.isLeap = false) {n : Int} (hlow : earliest.ticks ≤ n)
    (hhigh : n ≤ u.ticks) : (ofTicks? n).isSome = true := by
  have hrange := u.inRange
  have hlow' : firstSecond * giga + (0 : Nat) ≤ n := hlow
  rw [isLeap_eq_false_iff] at hu
  unfold ofTicks?
  rw [dif_pos]
  · rfl
  · unfold ticks giga at *
    omega

theorem ticks_le_latest {t : Instant} (ht : t.isLeap = false) : t.ticks ≤ latest.ticks := by
  have hrange := t.inRange
  rw [isLeap_eq_false_iff] at ht
  show t.ticks ≤ lastSecond * giga + (999999999 : Nat)
  unfold ticks giga at *
  omega

/-- A step forward leads out of range exactly if it leads past the last instant. -/
theorem add?_isSome_iff {t : Instant} (ht : t.isLeap = false) {d : Span} (hd : Span.zero ≤ d) :
    (t.add? d).isSome = true ↔ t.ticks + d.nanos ≤ latest.ticks := by
  have hd' : 0 ≤ d.nanos := hd
  constructor
  · intro h
    obtain ⟨u, hu⟩ := Option.isSome_iff_exists.mp h
    rw [← ticks_of_add? ht hu]
    exact ticks_le_latest (isLeap_of_add? ht hu)
  · intro h
    have hlow := (le_iff_ticks_le (show earliest.isLeap = false by decide) ht).mp t.earliest_le
    rw [add?_of_not_leap ht]
    exact ofTicks?_isSome (show latest.isLeap = false by decide) (by omega) h

theorem le_neg_of_tdiv_neg {n g : Int} (hg : 0 < g) (h : n.tdiv g < 0) : n ≤ -g := by
  have hneg : n < 0 := by
    by_cases hn : 0 ≤ n
    · have := Int.tdiv_nonneg hn (Int.le_of_lt hg)
      omega
    · omega
  have hpart : 0 ≤ (-n).tmod g := Int.tmod_nonneg _ (by omega)
  have hwhole : g * n.tdiv g ≤ g * -1 := Int.mul_le_mul_of_nonneg_left (by omega) (by omega)
  have hsum := Int.mul_tdiv_add_tmod n g
  rw [Int.neg_tmod] at hpart
  omega

/-- A step that is not forward does not lead to a later instant. -/
theorem add?_le_of_nonpos {t u : Instant} {d : Span} (hd : d ≤ Span.zero) (h : t.add? d = some u) :
    u ≤ t := by
  have hd' : d.nanos ≤ 0 := hd
  have ofTicks : ∀ n, ofTicks? n = some u → n ≤ t.ticks → n < (t.second + 1) * giga → u ≤ t := by
    intro n hn hle hlt
    obtain ⟨hticks, hleap⟩ := ofTicks?_eq_some hn
    rw [isLeap_eq_false_iff] at hleap
    rw [le_def]
    unfold rank ticks giga at *
    omega
  cases ht : t.isLeap with
  | false =>
    have hnano := isLeap_eq_false_iff.mp ht
    rw [add?_of_not_leap ht] at h
    refine ofTicks _ h (by omega) ?_
    unfold ticks giga at *
    omega
  | true =>
    -- Nothing leads forwards out of the leap second, and a whole second back leads out of it.
    have hnano := t.nano_lt
    have hpart : d.nanos.tmod giga ≤ 0 := by
      have := Int.tmod_nonneg (giga : Int) (Int.neg_nonneg_of_nonpos hd')
      rw [Int.neg_tmod] at this
      omega
    have hwhole : ¬0 < d.nanos.tdiv giga := by
      have := Int.tdiv_nonneg (Int.neg_nonneg_of_nonpos hd') (show (0 : Int) ≤ giga by decide)
      rw [Int.neg_tdiv] at this
      omega
    unfold add? at h
    rw [if_pos ht] at h
    simp only at h
    rw [if_neg (by omega)] at h
    split at h
    · next hback =>
      have hback' := le_neg_of_tdiv_neg (by decide) hback
      refine ofTicks _ h (by omega) ?_
      unfold ticks giga at *
      omega
    · unfold addWithin? at h
      split at h
      · next hin =>
        cases h
        rw [le_def]
        show t.second * (2 * giga : Nat) + ((t.nano + d.nanos.tmod giga).toNat : Nat) ≤ t.rank
        unfold rank
        omega
      · cases h

theorem truncate_le (t : Instant) (step : Span) : t.truncate step ≤ t := by
  unfold truncate
  split
  · next hrange =>
    cases hstart : (Span.ofNanos? (t.ticks % step.nanos)).bind t.sub? with
    | none => exact le_refl t
    | some u =>
      obtain ⟨d, hd, hsub⟩ := Option.bind_eq_some_iff.mp hstart
      have hnanos : d.nanos = t.ticks % step.nanos := Span.ofNanos?_eq_some hd
      have hrest := Int.emod_nonneg t.ticks (show step.nanos ≠ 0 by omega)
      refine add?_le_of_nonpos ?_ hsub
      show d.neg.nanos ≤ 0
      rw [Span.nanos_neg]
      omega
  · exact le_refl t

/-- A step that is not longer does not lead further from an earlier instant. -/
theorem add?_le_of_lt {t w u e : Instant} {d step : Span} (hw : w.isLeap = false)
    (hu : u.isLeap = false) (hstep : u.ticks = w.ticks + step.nanos) (hpos : Span.zero ≤ step)
    (hd : d ≤ step) (hlt : t < w) (h : t.add? d = some e) : e ≤ u := by
  have hpos' : 0 ≤ step.nanos := hpos
  have hd' : d.nanos ≤ step.nanos := hd
  have ofTicks : ∀ n, ofTicks? n = some e → n ≤ u.ticks → e ≤ u := by
    intro n hn hle
    obtain ⟨hticks, hleap⟩ := ofTicks?_eq_some hn
    rw [le_iff_ticks_le hleap hu, hticks]
    exact hle
  cases ht : t.isLeap with
  | false =>
    have hticks := (lt_iff_ticks_lt ht hw).mp hlt
    rw [add?_of_not_leap ht] at h
    exact ofTicks _ h (by omega)
  | true =>
    -- The next second starts at or before `w`.
    have hsecond := second_lt_of_lt ht hw hlt
    have hnano := t.nano_lt
    have hwticks : (t.second + 1) * giga ≤ w.ticks := by
      unfold ticks giga
      omega
    unfold add? at h
    rw [if_pos ht] at h
    simp only at h
    split at h
    · refine ofTicks _ h ?_
      unfold ticks giga at *
      omega
    · split at h
      · next hback =>
        have hback' := le_neg_of_tdiv_neg (by decide) hback
        refine ofTicks _ h ?_
        unfold ticks giga at *
        omega
      · unfold addWithin? at h
        split at h
        · next hin =>
          cases h
          rw [le_def]
          show t.second * (2 * giga : Nat) + ((t.nano + d.nanos.tmod giga).toNat : Nat) ≤ u.rank
          rw [isLeap_eq_false_iff] at hu
          unfold rank ticks giga at *
          omega
        · cases h

/-- A step that is not longer does not lead out of range from an earlier instant. -/
theorem add?_isSome_of_lt {t w u : Instant} {d step : Span} (hw : w.isLeap = false)
    (hu : u.isLeap = false) (hstep : u.ticks = w.ticks + step.nanos) (hnonneg : Span.zero ≤ d)
    (hd : d ≤ step) (hlt : t < w) : (t.add? d).isSome = true := by
  have hnonneg' : 0 ≤ d.nanos := hnonneg
  have hd' : d.nanos ≤ step.nanos := hd
  have hlow : earliest.ticks ≤ t.second * giga := by
    have := t.inRange
    show firstSecond * giga + (0 : Nat) ≤ _
    unfold giga
    omega
  cases ht : t.isLeap with
  | false =>
    have hticks := (lt_iff_ticks_lt ht hw).mp hlt
    rw [add?_of_not_leap ht]
    refine ofTicks?_isSome hu ?_ (by omega)
    unfold ticks at *
    omega
  | true =>
    have hsecond := second_lt_of_lt ht hw hlt
    have hnano := t.nano_lt
    have hgiga := isLeap_eq_true_iff.mp ht
    have hpart := Int.tmod_nonneg (giga : Int) hnonneg'
    unfold add?
    rw [if_pos ht]
    simp only
    split
    · refine ofTicks?_isSome hu ?_ ?_
      · unfold ticks giga at *
        omega
      · unfold ticks giga at *
        omega
    · next hstay =>
      rw [if_neg (Int.not_lt.mpr (Int.tdiv_nonneg hnonneg' (by decide)))]
      unfold addWithin?
      rw [dif_pos]
      · rfl
      · refine ⟨by omega, ?_, fun _ => t.leap hgiga⟩
        unfold giga at *
        omega

end Instant

end CarbonIntensity
