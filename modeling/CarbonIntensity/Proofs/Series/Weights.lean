import CarbonIntensity.Proofs.Lists
import CarbonIntensity.Proofs.Series.Accepted
import Mathlib.Algebra.Order.BigOperators.Group.List
import Mathlib.Algebra.Order.Ring.Int

/-!
# The weights of a mean

A mean over a period divides what each sample contributes by the length of the period, both in whole
milliseconds. Exactly, the parts of the samples make up the period,

    (l.map fun s => (s.overlap p).nanos).sum = p.length.nanos      (sum_overlap)

but each part loses its fraction of a millisecond by itself. So the weights add up to the length exactly
if these fractions come to less than a millisecond together, and always do where the samples start at
whole milliseconds of the period (`sum_wholeMillis`). Else they fall short of it, and a period shorter
than a millisecond is divided by zero (`mean_weights`).
-/

namespace CarbonIntensity

namespace Series

theorem steadyFrom_of_chain {w : Instant} (hw : w.isLeap = false) {a : Sample} {rest : List Sample}
    (hc : (a :: rest).IsChain Touches) (ha : w.SteadyFrom a.start) :
    ∀ s ∈ a :: rest, w.SteadyFrom s.start := by
  induction rest generalizing a with
  | nil =>
    intro s hs
    obtain rfl := List.mem_singleton.mp hs
    exact ha
  | cons b rest ih =>
    obtain ⟨htouch, hc⟩ := List.isChain_cons_cons.mp hc
    have hb : w.SteadyFrom b.start := by
      rw [htouch.start_eq]
      exact Sample.steadyFrom_finish hw ha
    intro s hs
    rcases List.mem_cons.mp hs with rfl | hs
    · exact ha
    · exact ih hc hb s hs

namespace Accepts

variable {p : Period} {l : List Sample} {first : Sample} {rest : List Sample}

theorem steadyFrom (h : Accepts p l first rest) (hstart : p.start.isLeap = false) :
    ∀ s ∈ first :: rest, p.start.SteadyFrom s.start :=
  steadyFrom_of_chain hstart h.chain (Instant.steadyFrom_of_le hstart h.start_le)

theorem nanos_overlap (h : Accepts p l first rest) (hstart : p.start.isLeap = false)
    (hstop : p.stop.isLeap = false) : ∀ s ∈ first :: rest,
      (s.overlap p).nanos = (p.clamp s.finish).ticks - (p.clamp s.start).ticks := by
  have hsteady := h.steadyFrom hstart
  exact fun s hs => Sample.nanos_overlap_eq_sub h.le hstart hstop (h.start_le_finish s hs) (hsteady s hs)

theorem nanos_nonneg (h : Accepts p l first rest) (hstart : p.start.isLeap = false)
    (hstop : p.stop.isLeap = false) : ∀ s ∈ first :: rest, 0 ≤ (s.overlap p).nanos := by
  intro s hs
  have hsteady := h.steadyFrom hstart s hs
  have hlower := Period.isLeap_clamp hstart hstop hsteady
  have hupper := Period.isLeap_clamp hstart hstop (Sample.steadyFrom_finish hstart hsteady)
  have hle := (Instant.le_iff_ticks_le hlower hupper).mp (Period.clamp_mono (h.start_le_finish s hs))
  rw [h.nanos_overlap hstart hstop s hs]
  omega

theorem wholeMillis_overlap (h : Accepts p l first rest) (hstart : p.start.isLeap = false)
    (hstop : p.stop.isLeap = false) : ∀ s ∈ first :: rest,
      (s.overlap p).wholeMillis = (s.overlap p).nanos / 1000000 :=
  fun s hs => Int.tdiv_eq_ediv_of_nonneg (h.nanos_nonneg hstart hstop s hs)

/-- The samples of the series share out the period. -/
theorem sum_overlap (h : Accepts p l first rest) (hstart : p.start.isLeap = false)
    (hstop : p.stop.isLeap = false) :
    ((first :: rest).map fun s => (s.overlap p).nanos).sum = p.length.nanos :=
  sum_overlap_of_chain h.start_le_finish h.chain hstart hstop (h.steadyFrom hstart) h.start_le h.le h.stop_le

/-- If samples start at whole milliseconds of the period only, no fractions are lost but that of the
whole period. -/
theorem sum_wholeMillis (h : Accepts p l first rest) (hstart : p.start.isLeap = false)
    (hstop : p.stop.isLeap = false)
    (haligned : ∀ s ∈ first :: rest, p.start < s.start → s.start < p.stop →
      (s.start.ticks - p.start.ticks) % 1000000 = 0) :
    ((first :: rest).map fun s => (s.overlap p).wholeMillis).sum = p.length.wholeMillis := by
  have hlength : p.length.nanos = p.stop.ticks - p.start.ticks := Instant.nanos_since hstop hstart
  have hticks := (Instant.le_iff_ticks_le hstart hstop).mp h.le
  -- The whole milliseconds from the start of the period, which each sample adds its own to.
  have hparts : ∀ s ∈ first :: rest, (s.overlap p).wholeMillis =
      ((p.clamp s.finish).ticks - p.start.ticks) / 1000000 -
        ((p.clamp s.start).ticks - p.start.ticks) / 1000000 := by
    intro s hs
    rw [h.wholeMillis_overlap hstart hstop s hs, h.nanos_overlap hstart hstop s hs]
    by_cases hbefore : s.start ≤ p.start
    · rw [Period.clamp_of_le h.le hbefore]
      omega
    · by_cases hafter : p.stop ≤ s.start
      · rw [Period.clamp_of_ge hafter, Period.clamp_of_ge (Instant.le_trans hafter (h.start_le_finish s hs))]
        omega
      · have hinside := haligned s hs (Int.not_le.mp hbefore) (Int.not_le.mp hafter)
        rw [Period.clamp_of_between (Int.le_of_lt (Int.not_le.mp hbefore))
          (Int.le_of_lt (Int.not_le.mp hafter))]
        omega
  rw [List.map_congr_left hparts,
    sum_differences_of_chain (fun t => ((p.clamp t).ticks - p.start.ticks) / 1000000) h.chain,
    Period.clamp_of_ge h.stop_le, Period.clamp_of_le h.le h.start_le]
  unfold Span.wholeMillis
  rw [hlength, Int.tdiv_eq_ediv_of_nonneg (by omega)]
  omega

end Accepts

/-! ## What is lost of a millisecond -/

/-- The nanoseconds that a sample has of a period beyond whole milliseconds. -/
def fraction (p : Period) (s : Sample) : Int := (s.overlap p).nanos % 1000000

theorem sum_fraction_nonneg (p : Period) (l : List Sample) : 0 ≤ (l.map (fraction p)).sum := by
  apply List.sum_nonneg
  intro n hn
  obtain ⟨s, -, rfl⟩ := List.mem_map.mp hn
  exact Int.emod_nonneg _ (by decide)

/-- Only samples with a part in the period have a fraction of a millisecond to lose. -/
theorem sum_fraction_le (p : Period) (l : List Sample) :
    (l.map (fraction p)).sum ≤ ((clip p l).length : Int) * 999999 := by
  induction l with
  | nil => simp
  | cons s l ih =>
    rw [List.map_cons, List.sum_cons, clip_cons]
    by_cases hmeets : s.meets p = true
    · have hfraction : fraction p s < 1000000 := Int.emod_lt_of_pos _ (by decide)
      rw [if_pos hmeets, List.length_cons]
      omega
    · have hzero : s.overlap p = Span.zero := by
        by_contra hne
        exact hmeets (meets_of_overlap p.start.le_refl p.stop.le_refl hne)
      have hfraction : fraction p s = 0 := by
        unfold fraction
        rw [hzero]
        rfl
      rw [if_neg hmeets, hfraction]
      omega

/-- How the weights of a mean, in whole milliseconds, add up to the length that they are divided by. -/
structure Divides (p : Period) (l : List Sample) (ws : List Weight) : Prop where
  /-- There is one weight for each sample. -/
  weights : ws.Perm (l.map (Weight.ofSample p))
  /-- To the nanosecond, the samples share out the period. -/
  sharesOut : (l.map fun s => (s.overlap p).nanos).sum = p.length.nanos
  /-- What is shorter than a millisecond, and nothing else, is divided by zero. -/
  divisor : p.length.wholeMillis ≠ 0 ↔ 1000000 ≤ p.length.nanos
  /-- The weights fall short of the length by what the lost fractions come to. -/
  lost : p.length.wholeMillis - (ws.map Weight.millis).sum = (l.map (fraction p)).sum / 1000000
  few : p.length.wholeMillis - (ws.map Weight.millis).sum < (clip p l).length
  addUp : (ws.map Weight.millis).sum = p.length.wholeMillis ↔ (l.map (fraction p)).sum < 1000000
  /-- Nothing is lost if samples start at whole milliseconds of the period only. -/
  aligned : (∀ s ∈ l, p.start < s.start → s.start < p.stop →
    (s.start.ticks - p.start.ticks) % 1000000 = 0) → (ws.map Weight.millis).sum = p.length.wholeMillis

theorem Accepts.divides {p : Period} {l : List Sample} {first : Sample} {rest : List Sample}
    (h : Accepts p l first rest) (hp : p.start < p.stop) (hstart : p.start.isLeap = false)
    (hstop : p.stop.isLeap = false) : Divides p l ((first :: rest).map (Weight.ofSample p)) := by
  have hmillis : ((first :: rest).map (Weight.ofSample p)).map Weight.millis =
      (first :: rest).map fun s => (s.overlap p).wholeMillis := List.map_map
  have hlength : p.length.nanos = p.stop.ticks - p.start.ticks := Instant.nanos_since hstop hstart
  have hpos := (Instant.lt_iff_ticks_lt hstart hstop).mp hp
  have htotal : p.length.wholeMillis = p.length.nanos / 1000000 := Int.tdiv_eq_ediv_of_nonneg (by omega)
  have hsharesOut : (l.map fun s => (s.overlap p).nanos).sum = p.length.nanos := by
    rw [← (h.perm.map _).sum_eq]
    exact h.sum_overlap hstart hstop
  have hlost : p.length.wholeMillis - (((first :: rest).map (Weight.ofSample p)).map Weight.millis).sum =
      (l.map (fraction p)).sum / 1000000 := by
    have hdivision : _ + (l.map (fraction p)).sum = _ :=
      sum_div_add_mod (fun s => (s.overlap p).nanos) 1000000 l
    rw [hmillis, List.map_congr_left (h.wholeMillis_overlap hstart hstop), (h.perm.map _).sum_eq, htotal]
    omega
  have hnonneg := sum_fraction_nonneg p l
  have hfraction := sum_fraction_le p l
  obtain ⟨b, kept, -, hkept⟩ := h.clip
  have hclip : (Series.clip p l).length = kept.length + 1 := hkept.perm.length_eq.symm
  constructor
  case weights => exact h.perm.map _
  case sharesOut => exact hsharesOut
  case divisor => omega
  case lost => exact hlost
  case few => omega
  case addUp => omega
  case aligned =>
    intro haligned
    rw [hmillis]
    exact h.sum_wholeMillis hstart hstop fun s hs => haligned s (h.mem_iff.mp hs)

/-- **The weights of a mean.** Over a period that lasts, the mean of a series divides by the length of the
period weights that add up to it but for the fractions of milliseconds. -/
theorem mean_weights {p : Period} {l : List Sample} {r : Float} (hne : l ≠ []) (hp : p.start < p.stop)
    (hstart : p.start.isLeap = false) (hstop : p.stop.isLeap = false) (h : mean p l = .ok r) :
    ∃ ws, r = Weight.periodMean (Float.ofInt p.length.wholeMillis) ws ∧ Divides p l ws := by
  obtain ⟨first, rest, haccepts⟩ := accepts_of_mean hne h
  refine ⟨_, ?_, haccepts.divides hp hstart hstop⟩
  rw [haccepts.mean_of_lasting hp] at h
  exact (Except.ok.inj h).symm

/-- Two samples listed backwards that meet at a whole millisecond of the period. -/
theorem mean_weights_descending :
    let middle : Instant := ⟨300, 5, by decide, by decide, by decide⟩
    let five : Span := ⟨300000000000, by decide⟩
    let l : List Sample := [⟨"x", middle, five, 2.0⟩, ⟨"x", ⟨0, 5, by decide, by decide, by decide⟩, five, 1.0⟩]
    let p : Period :=
      ⟨⟨120, 2000005, by decide, by decide, by decide⟩, ⟨420, 999999, by decide, by decide, by decide⟩⟩
    l ≠ [] ∧ p.start < p.stop ∧ p.start.isLeap = false ∧ p.stop.isLeap = false ∧
      ∃ r ws, mean p l = .ok r ∧ r = Weight.periodMean (Float.ofInt 299998) ws ∧ Divides p l ws ∧
        (ws.map Weight.millis).sum = 299998 := by
  intro middle five l p
  obtain ⟨r, h⟩ : ∃ r, mean p l = .ok r := ok_of_isSome (by decide +kernel)
  have htotal : p.length.wholeMillis = 299998 := by decide
  obtain ⟨ws, hr, hdivides⟩ := mean_weights (List.cons_ne_nil _ _) (by decide) (by decide) (by decide) h
  have haligned := hdivides.aligned (by decide)
  rw [htotal] at hr haligned
  exact ⟨List.cons_ne_nil _ _, by decide, by decide, by decide, r, ws, h, hr, hdivides, haligned⟩

/-- A period of half a millisecond is divided by zero. A millisecond that two samples share, both rated
one, has no weight at all. Two samples add up to a second more than a period from a leap second on, since
what is counted from a leap second depends on the time of day. -/
theorem mean_weights_off_total :
    let half : Span := ⟨500000, by decide⟩
    let middle : Instant := ⟨0, 500000, by decide, by decide, by decide⟩
    let whole : Sample := ⟨"x", Instant.epoch, ⟨3600000000000, by decide⟩, 42.0⟩
    let halves : List Sample := [⟨"x", Instant.epoch, half, 1.0⟩, ⟨"x", middle, half, 1.0⟩]
    let millisecond : Period := ⟨Instant.epoch, ⟨0, 1000000, by decide, by decide, by decide⟩⟩
    let noon : List Sample := [⟨"x", ⟨43200, 0, by decide, by decide, by decide⟩, ⟨300000000000, by decide⟩, 1.0⟩,
      ⟨"x", ⟨43500, 0, by decide, by decide, by decide⟩, ⟨86400000000000, by decide⟩, 1.0⟩]
    let leap : Period :=
      ⟨⟨43259, 1500000000, by decide, by decide, by decide⟩, ⟨126000, 0, by decide, by decide, by decide⟩⟩
    (Period.length ⟨Instant.epoch, middle⟩).wholeMillis = 0 ∧
      (mean ⟨Instant.epoch, middle⟩ [whole]).toOption.map Float.isNaN = some true ∧
      millisecond.length.wholeMillis = 1 ∧
      (halves.map fun s => (s.overlap millisecond).wholeMillis).sum = 0 ∧
      (mean millisecond halves).toOption = some 0.0 ∧
      (mean leap noon).toOption.isSome = true ∧
      (noon.map fun s => (s.overlap leap).wholeMillis).sum = leap.length.wholeMillis + 1000 := by
  decide +kernel

end Series

end CarbonIntensity
