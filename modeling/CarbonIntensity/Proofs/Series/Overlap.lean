import CarbonIntensity.Proofs.Time.Instant
import CarbonIntensity.Sample

/-!
# How long a sample and a period last together

Away from leap seconds the common part of a sample and a period is a difference of counts of
nanoseconds:

    (s.overlap p).nanos = s.shared p.start.ticks p.stop.ticks      (nanos_overlap)

It is also the difference of the ends of the sample, moved into the period where they are outside of it:

    (s.overlap p).nanos = (p.clamp s.finish).ticks - (p.clamp s.start).ticks      (nanos_overlap_eq_sub)
-/

namespace CarbonIntensity

namespace Period

/-- The instant of the period that is next to the given one. -/
def clamp (p : Period) (t : Instant) : Instant := min (max t p.start) p.stop

variable {p : Period} {t : Instant}

theorem rank_clamp : (p.clamp t).rank = min (max t.rank p.start.rank) p.stop.rank := by
  unfold clamp
  rw [Instant.rank_min, Instant.rank_max]

theorem clamp_of_le (hp : p.start ≤ p.stop) (h : t ≤ p.start) : p.clamp t = p.start := by
  apply Instant.rank_injective
  rw [rank_clamp]
  rw [Instant.le_def] at *
  omega

theorem clamp_of_ge (h : p.stop ≤ t) : p.clamp t = p.stop := by
  apply Instant.rank_injective
  rw [rank_clamp]
  rw [Instant.le_def] at *
  omega

theorem clamp_of_between (hlower : p.start ≤ t) (hupper : t ≤ p.stop) : p.clamp t = t := by
  apply Instant.rank_injective
  rw [rank_clamp]
  rw [Instant.le_def] at *
  omega

theorem clamp_mono {u : Instant} (h : t ≤ u) : p.clamp t ≤ p.clamp u := by
  rw [Instant.le_def] at *
  rw [rank_clamp, rank_clamp]
  omega

theorem isLeap_clamp (hstart : p.start.isLeap = false) (hstop : p.stop.isLeap = false)
    (ht : p.start.SteadyFrom t) : (p.clamp t).isLeap = false := by
  refine Instant.isLeap_min ?_ hstop
  rcases ht with ht | ht
  · exact Instant.isLeap_max ht hstart
  · have hmax : max t p.start = p.start := if_pos (Int.le_of_lt ht)
    rw [hmax]
    exact hstart

end Period

namespace Sample

theorem covers_iff {s : Sample} {t : Instant} : s.covers t = true ↔ s.start ≤ t ∧ t < s.finish := by
  unfold covers
  rw [Bool.and_eq_true, decide_eq_true_iff, decide_eq_true_iff]

/-- The nanoseconds of a sample between two counts of ticks. -/
def shared (s : Sample) (lower upper : Int) : Int :=
  max 0 (min s.finish.ticks upper - max s.start.ticks lower)

theorem shared_nonneg (s : Sample) (lower upper : Int) : 0 ≤ s.shared lower upper := Int.le_max_left ..

theorem steadyFrom_finish {w : Instant} {s : Sample} (hw : w.isLeap = false) (hs : w.SteadyFrom s.start) :
    w.SteadyFrom s.finish := by
  unfold finish finish?
  cases hend : s.start.add? s.duration with
  | some t => exact hs.add? hw hend
  | none =>
    left
    rw [Option.getD_none]
    split
    · rfl
    · rfl

theorem isLeap_finish {s : Sample} (hs : s.start.isLeap = false) : s.finish.isLeap = false :=
  (steadyFrom_finish (w := Instant.earliest) rfl (.inl hs)).resolve_right
    (Int.not_lt.mpr (Instant.earliest_le _))

/-- A common part lies between the later of the starts and the earlier of the ends. -/
theorem lt_of_overlap {s : Sample} {p : Period} (h : s.overlap p ≠ Span.zero) :
    max s.start p.start < min s.finish p.stop :=
  Decidable.byContradiction fun hle => h (if_neg hle)

theorem nanos_overlap {s : Sample} {p : Period} (hs : s.start.isLeap = false)
    (hstart : p.start.isLeap = false) (hstop : p.stop.isLeap = false) :
    (s.overlap p).nanos = s.shared p.start.ticks p.stop.ticks := by
  have hlower := Instant.isLeap_max hs hstart
  have hupper := Instant.isLeap_min (isLeap_finish hs) hstop
  have hticksLower := Instant.ticks_max hs hstart
  have hticksUpper := Instant.ticks_min (isLeap_finish hs) hstop
  unfold overlap shared
  simp only
  split
  · next h =>
    rw [Instant.lt_iff_ticks_lt hlower hupper] at h
    rw [Instant.nanos_since hupper hlower]
    omega
  · next h =>
    rw [Instant.lt_iff_ticks_lt hlower hupper] at h
    rw [Span.nanos_zero]
    omega

theorem nanos_overlap_eq_sub {s : Sample} {p : Period} (hp : p.start ≤ p.stop)
    (hstart : p.start.isLeap = false) (hstop : p.stop.isLeap = false) (hs : s.start ≤ s.finish)
    (hsteady : p.start.SteadyFrom s.start) :
    (s.overlap p).nanos = (p.clamp s.finish).ticks - (p.clamp s.start).ticks := by
  have hlower := Period.isLeap_clamp hstart hstop hsteady
  have hupper := Period.isLeap_clamp hstart hstop (steadyFrom_finish hstart hsteady)
  rw [Instant.le_def] at hp hs
  by_cases hlt : max s.start p.start < min s.finish p.stop
  · have hoverlap : s.overlap p = (min s.finish p.stop).since (max s.start p.start) := if_pos hlt
    rw [Instant.lt_def, Instant.rank_max, Instant.rank_min] at hlt
    have hfrom : max s.start p.start = p.clamp s.start := by
      apply Instant.rank_injective
      rw [Period.rank_clamp, Instant.rank_max]
      omega
    have hto : min s.finish p.stop = p.clamp s.finish := by
      apply Instant.rank_injective
      rw [Period.rank_clamp, Instant.rank_min]
      omega
    rw [hoverlap, hfrom, hto, Instant.nanos_since hupper hlower]
  · have hoverlap : s.overlap p = Span.zero := if_neg hlt
    rw [Instant.lt_def, Instant.rank_max, Instant.rank_min] at hlt
    have hsame : p.clamp s.finish = p.clamp s.start := by
      apply Instant.rank_injective
      rw [Period.rank_clamp, Period.rank_clamp]
      omega
    rw [hoverlap, hsame, Span.nanos_zero, Int.sub_self]

end Sample

end CarbonIntensity
