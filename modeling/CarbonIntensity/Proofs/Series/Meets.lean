import CarbonIntensity.Proofs.Time.Instant
import CarbonIntensity.Sample

/-!
# Samples with a part in a period

A sample has a part in a period only if it starts by the end of the period and ends after its start.
Where it starts before an instant and is not longer than a step, it ends by the end of that step.

Away from leap seconds and from the last instant, having a part in a period is a comparison of counts of
nanoseconds, in which no end is cut off at the range of instants:

    s.meets p = p.touchedBy s.start s.duration.nanos      (meets_eq_touchedBy)
-/

namespace CarbonIntensity

/-- The interval of so many nanoseconds from an instant has a part in the period; a period of one instant
has to be contained. -/
def Period.touchedBy (p : Period) (t : Instant) (length : Int) : Bool :=
  if p.start = p.stop then t.ticks ≤ p.start.ticks && p.start.ticks < t.ticks + length
  else t.ticks < p.stop.ticks && p.start.ticks < t.ticks + length

namespace Sample

theorem start_le_of_meets {s : Sample} {p : Period} (h : s.meets p = true) : s.start ≤ p.stop := by
  unfold meets covers at h
  split at h
  · next heq =>
    rw [Bool.and_eq_true, decide_eq_true_iff] at h
    rw [← heq]
    exact h.1
  · rw [Bool.and_eq_true, decide_eq_true_iff, Instant.lt_def] at h
    exact Instant.le_def.mpr (Int.le_of_lt h.1)

theorem lt_finish_of_meets {s : Sample} {p : Period} (h : s.meets p = true) : p.start < s.finish := by
  unfold meets covers at h
  split at h
  · rw [Bool.and_eq_true, decide_eq_true_iff, decide_eq_true_iff] at h
    exact h.2
  · rw [Bool.and_eq_true, decide_eq_true_iff, decide_eq_true_iff] at h
    exact h.2

/-- A sample that starts earlier and is not longer than the step does not end after it. -/
theorem finish_le_of_start_lt {s : Sample} {w u : Instant} {step : Span} (hw : w.isLeap = false)
    (hu : u.isLeap = false) (hstep : u.ticks = w.ticks + step.nanos) (hpos : Span.zero ≤ step)
    (hd : s.duration ≤ step) (hlt : s.start < w) : s.finish ≤ u := by
  unfold finish finish?
  cases hend : s.start.add? s.duration with
  | some e => exact Instant.add?_le_of_lt hw hu hstep hpos hd hlt hend
  | none =>
    by_cases hneg : s.duration < Span.zero
    · rw [if_pos hneg]
      exact u.earliest_le
    · have hnonneg : Span.zero ≤ s.duration := Int.not_lt.mp hneg
      have hsome := Instant.add?_isSome_of_lt hw hu hstep hnonneg hd hlt
      rw [hend] at hsome
      cases hsome

theorem lt_finish_iff {s : Sample} {t : Instant} (hs : s.start.isLeap = false) (ht : t.isLeap = false)
    (hpos : Span.zero ≤ s.duration) (hlate : t < Instant.latest) :
    t < s.finish ↔ t.ticks < s.start.ticks + s.duration.nanos := by
  unfold finish finish?
  cases hend : s.start.add? s.duration with
  | some e =>
    show t < e ↔ _
    rw [Instant.lt_iff_ticks_lt ht (Instant.isLeap_of_add? hs hend), Instant.ticks_of_add? hs hend]
  | none =>
    rw [if_neg (show ¬s.duration < Span.zero from Int.not_lt.mpr hpos)]
    -- The end is beyond the last instant, so that it is after `t` either way.
    refine iff_of_true hlate ?_
    have hlate' := (Instant.lt_iff_ticks_lt ht (show Instant.latest.isLeap = false by decide)).mp hlate
    have hout := mt (Instant.add?_isSome_iff hs hpos).mpr (by rw [hend]; decide)
    omega

theorem meets_eq_touchedBy {s : Sample} {p : Period} (hs : s.start.isLeap = false)
    (hstart : p.start.isLeap = false) (hstop : p.stop.isLeap = false) (hpos : Span.zero ≤ s.duration)
    (hlate : p.start < Instant.latest) : s.meets p = p.touchedBy s.start s.duration.nanos := by
  have hend := lt_finish_iff hs hstart hpos hlate
  unfold meets covers Period.touchedBy
  by_cases heq : p.start = p.stop
  · rw [if_pos heq, if_pos heq, decide_eq_decide.mpr hend,
      decide_eq_decide.mpr (Instant.le_iff_ticks_le hs hstart)]
  · rw [if_neg heq, if_neg heq, decide_eq_decide.mpr hend,
      decide_eq_decide.mpr (Instant.lt_iff_ticks_lt hs hstop)]

end Sample

end CarbonIntensity
