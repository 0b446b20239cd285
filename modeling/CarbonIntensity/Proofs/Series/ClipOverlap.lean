import CarbonIntensity.Proofs.Series.Clip
import CarbonIntensity.WattTime.Payload

/-!
# Clipping and the common part

A sample has a part in a period that lasts if it starts before the end of the period and ends after its
start. Mostly this says that sample and period last together for some time, but it holds of two more kinds
of samples, which are kept although they have no common part with the period (`meets_iff_overlap`):

* those that do not go forward in time and lie strictly inside the period, such as a sample of no length;
* those whose common part with the period is a leap second at the end of a day and less of the next second,
  of which the leap second is not counted.

Among samples that go forward, and outside leap seconds, clipping keeps exactly those that last together
with the period (`clip_of_overlap`).
-/

namespace CarbonIntensity

namespace Sample

/-- The sample does not go forward in time, and the period starts before its end and ends after its start. -/
def idlesIn (p : Period) (s : Sample) : Bool :=
  p.start < s.finish && s.finish ≤ s.start && s.start < p.stop

/-- The common part with the period starts in a leap second that is not counted. -/
def skipsLeapIn (p : Period) (s : Sample) : Bool :=
  (max s.start p.start).skipsLeap (min s.finish p.stop)

variable {s : Sample} {p : Period}

theorem idlesIn_eq_true_iff :
    s.idlesIn p = true ↔ p.start < s.finish ∧ s.finish ≤ s.start ∧ s.start < p.stop := by
  unfold idlesIn
  rw [Bool.and_eq_true, Bool.and_eq_true, decide_eq_true_iff, decide_eq_true_iff, decide_eq_true_iff,
    and_assoc]

/-- A sample and a period last together if the common part goes forward and its leap second is counted. -/
theorem zero_lt_overlap_iff : Span.zero < s.overlap p ↔
    max s.start p.start < min s.finish p.stop ∧ s.skipsLeapIn p = false := by
  unfold overlap skipsLeapIn
  simp only
  split
  · next hlt =>
    rw [Instant.zero_lt_since_iff hlt]
    exact (and_iff_right hlt).symm
  · next hge => exact iff_of_false (Int.lt_irrefl 0) fun h => hge h.1

/-- A common part that goes forward is counted if neither the sample nor the period starts in a leap second. -/
theorem skipsLeapIn_eq_false (hs : s.start.isLeap = false) (hp : p.start.isLeap = false) :
    s.skipsLeapIn p = false := by
  rw [← Bool.not_eq_true]
  intro hskips
  have hleap := Instant.isLeap_of_skipsLeap hskips
  rw [Instant.isLeap_max hs hp] at hleap
  cases hleap

/-- A sample has a part in a period exactly if they last together or it is of one of the two other kinds. -/
theorem meets_iff_overlap (hp : p.start < p.stop) : s.meets p = true ↔
    Span.zero < s.overlap p ∨ s.idlesIn p = true ∨ s.skipsLeapIn p = true := by
  have hcommon : max s.start p.start < min s.finish p.stop ↔
      (s.start < p.stop ∧ p.start < s.finish) ∧ s.start < s.finish := by
    simp only [Instant.lt_def, Instant.rank_max, Instant.rank_min] at hp ⊢
    omega
  rw [Series.meets_iff hp, idlesIn_eq_true_iff, zero_lt_overlap_iff]
  constructor
  · rintro ⟨hstart, hfinish⟩
    by_cases hlt : s.start < s.finish
    · cases hskips : s.skipsLeapIn p with
      | false => exact .inl ⟨hcommon.mpr ⟨⟨hstart, hfinish⟩, hlt⟩, rfl⟩
      | true => exact .inr (.inr rfl)
    · exact .inr (.inl ⟨hfinish, Int.not_lt.mp hlt, hstart⟩)
  · rintro (⟨hlt, -⟩ | ⟨hfinish, -, hstart⟩ | hskips)
    · exact (hcommon.mp hlt).1
    · exact ⟨hstart, hfinish⟩
    · exact (hcommon.mp (Instant.lt_of_skipsLeap hskips)).1

/-- A sample of no length ends where it starts. -/
theorem finish_of_zero (h : s.duration = Span.zero) : s.finish = s.start := by
  unfold finish finish?
  rw [h, Instant.add?_zero]
  rfl

theorem overlap_of_zero (h : s.duration = Span.zero) : s.overlap p = Span.zero := by
  refine if_neg fun hlt => ?_
  rw [finish_of_zero h, Instant.lt_def, Instant.rank_max, Instant.rank_min] at hlt
  omega

end Sample

namespace WattTime

/-- A point that is alone and does not say its frequency gives a sample of no length. -/
theorem GridData.history_of_onePoint {d : GridData} {x : DataPoint} (hd : d.points = [x])
    (hx : x.frequency = none) (location : String) : d.history location = [x.sample location Span.zero] := by
  unfold history DataPoint.ownDuration?
  rw [hd, List.map_singleton, hx]
  rfl

end WattTime

namespace Series

open WattTime (GridData DataPoint)

/-- **What clipping keeps.** In a period that lasts, clipping keeps in their order the samples that last
together with the period, those that lie in it without going forward in time, and those whose common part
with it is lost in a leap second. Of samples that go forward, none of which starts in a leap second, it
keeps exactly those that last together with the period. The one sample of a history of one point without
frequency never lasts together with the period, and it is kept exactly if it lies strictly inside. -/
theorem clip_of_overlap {p : Period} (hp : p.start < p.stop) :
    (∀ l, clip p l = l.filter fun s =>
      Span.zero < s.overlap p ∨ s.idlesIn p = true ∨ s.skipsLeapIn p = true) ∧
    (∀ l, (∀ s ∈ l, s.start < s.finish ∧ s.start.isLeap = false) → p.start.isLeap = false →
      clip p l = l.filter fun s => Span.zero < s.overlap p) ∧
    ∀ (d : GridData) (x : DataPoint) (location : String), d.points = [x] → x.frequency = none →
      ∃ s, d.history location = [s] ∧ s.overlap p = Span.zero ∧
        clip p [s] = if p.start < x.time ∧ x.time < p.stop then [s] else [] := by
  refine ⟨fun l => ?_, fun l hl hleap => ?_, fun d x location hd hx => ?_⟩
  · apply List.filter_congr
    intro s _
    rw [Bool.eq_iff_iff, decide_eq_true_iff, Sample.meets_iff_overlap hp]
  · apply List.filter_congr
    intro s hs
    obtain ⟨hlt, hs⟩ := hl s hs
    rw [Bool.eq_iff_iff, decide_eq_true_iff, Sample.meets_iff_overlap hp,
      Sample.skipsLeapIn_eq_false hs hleap, Sample.idlesIn_eq_true_iff]
    constructor
    · rintro (hoverlap | ⟨-, hidle, -⟩ | hskips)
      · exact hoverlap
      · exact absurd hlt (Int.not_lt.mpr hidle)
      · cases hskips
    · exact .inl
  · have hzero : (x.sample location Span.zero).duration = Span.zero := rfl
    refine ⟨_, GridData.history_of_onePoint hd hx location, Sample.overlap_of_zero hzero, ?_⟩
    rw [clip_cons, clip_nil]
    refine if_congr ?_ rfl rfl
    rw [meets_iff hp, Sample.finish_of_zero hzero]
    exact and_comm

/-- A sample of five minutes, and the one of a point inside the period, alone and without frequency. -/
theorem clip_of_overlap_onePoint :
    let p : Period := ⟨Instant.epoch, ⟨600, 0, by decide, by decide, by decide⟩⟩
    let x : DataPoint := ⟨⟨300, 0, by decide, by decide, by decide⟩, 1000.0, none⟩
    let d : GridData := ⟨[x], {}⟩
    let l : List Sample := [⟨"x", ⟨420, 0, by decide, by decide, by decide⟩, ⟨300000000000, by decide⟩, 1.0⟩]
    p.start < p.stop ∧ (∀ s ∈ l, s.start < s.finish ∧ s.start.isLeap = false) ∧ p.start.isLeap = false ∧
      clip p l = (l.filter fun s => Span.zero < s.overlap p) ∧ d.points = [x] ∧ x.frequency = none ∧
      ∃ s, d.history "x" = [s] ∧ s.overlap p = Span.zero ∧ clip p [s] = [s] := by
  intro p x d l
  have hp : p.start < p.stop := by decide
  obtain ⟨-, hforward, hpoint⟩ := clip_of_overlap hp
  have hl : ∀ s ∈ l, s.start < s.finish ∧ s.start.isLeap = false := by decide
  obtain ⟨s, hs, hoverlap, hclip⟩ := hpoint d x "x" rfl rfl
  rw [if_pos (by decide)] at hclip
  exact ⟨hp, hl, by decide, hforward l hl (by decide), rfl, rfl, s, hs, hoverlap, hclip⟩

/-- A sample of no length inside the period is kept, although it has no common part with it. -/
theorem clip_keeps_no_overlap :
    let p : Period := ⟨Instant.epoch, ⟨600, 0, by decide, by decide, by decide⟩⟩
    let x : DataPoint := ⟨⟨300, 0, by decide, by decide, by decide⟩, 1000.0, none⟩
    let d : GridData := ⟨[x], {}⟩
    p.start < p.stop ∧ (clip p (d.history "x")).length = 1 ∧
      ((d.history "x").filter fun s => Span.zero < s.overlap p) = [] := by
  intro p x d
  have hnone : ((d.history "x").filter fun s => Span.zero < s.overlap p).length = 0 := by decide
  exact ⟨by decide, by decide, List.length_eq_zero_iff.mp hnone⟩

end Series

end CarbonIntensity
