import CarbonIntensity.Proofs.Series.Overlap
import Mathlib.Algebra.BigOperators.Group.List.Basic
import Mathlib.Algebra.Ring.Int.Defs
import Mathlib.Data.List.Chain

/-!
# Splitting a period

A period that is cut at instants inside of it falls into periods that follow one another. What a sample
has in common with them adds up to what it has in common with the whole,

    ((Period.between start cuts).map fun p => (s.overlap p).nanos).sum
      = (s.overlap ⟨start, cuts.getLastD start⟩).nanos      (sum_overlap_between)

whichever way the sample runs and wherever its end had to stop. One cut is the step of the induction
(nanos_overlap_add), and that is the sum of two stretches of a line, cut at a point between their ends.
-/

namespace CarbonIntensity

namespace Instant

/-- Instants in their order, none of them in a leap second. -/
structure Ordered (l : List Instant) : Prop where
  sorted : l.Pairwise (· ≤ ·)
  steady : ∀ t ∈ l, t.isLeap = false

theorem Ordered.tail {t : Instant} {l : List Instant} (h : Ordered (t :: l)) : Ordered l where
  sorted := h.sorted.tail
  steady t ht := h.steady t (List.mem_cons_of_mem _ ht)

theorem getLastD_mem (t : Instant) (l : List Instant) : l.getLastD t ∈ t :: l := by
  induction l generalizing t with
  | nil => exact List.mem_cons_self
  | cons u l ih =>
    rw [List.getLastD_cons]
    exact List.mem_cons_of_mem _ (ih u)

theorem Ordered.le_last {t : Instant} {l : List Instant} (h : Ordered (t :: l)) : t ≤ l.getLastD t := by
  rcases List.mem_cons.mp (getLastD_mem t l) with heq | hmem
  · rw [heq]
    exact le_refl t
  · exact List.rel_of_pairwise_cons h.sorted hmem

end Instant

namespace Period

/-- The periods between instants that follow one another, from the start on. -/
def between (start : Instant) : List Instant → List Period
  | [] => []
  | cut :: rest => ⟨start, cut⟩ :: between cut rest

end Period

namespace Sample

variable {s : Sample}

/-! ## Stretches of ticks -/

/-- A cut between two ends parts the ticks of a sample, and none are lost or counted twice. -/
theorem shared_add (s : Sample) {lower cut upper : Int} (hlower : lower ≤ cut) (hupper : cut ≤ upper) :
    s.shared lower upper = s.shared lower cut + s.shared cut upper := by
  unfold shared
  omega

theorem shared_self (s : Sample) (t : Int) : s.shared t t = 0 := by
  unfold shared
  omega

theorem shared_le (s : Sample) {lower upper : Int} (h : lower ≤ upper) :
    s.shared lower upper ≤ upper - lower := by
  unfold shared
  omega

theorem shared_le_of_start_le (s : Sample) (lower upper : Int) (h : s.start.ticks ≤ s.finish.ticks) :
    s.shared lower upper ≤ s.finish.ticks - s.start.ticks := by
  unfold shared
  omega

theorem shared_of_inside (s : Sample) {lower upper : Int} (h : s.start.ticks ≤ s.finish.ticks)
    (hlower : lower ≤ s.start.ticks) (hupper : s.finish.ticks ≤ upper) :
    s.shared lower upper = s.finish.ticks - s.start.ticks := by
  unfold shared
  omega

theorem ticks_finish (hs : s.start.isLeap = false) (hend : s.finish?.isSome = true) :
    s.finish.ticks = s.start.ticks + s.duration.nanos := by
  obtain ⟨t, ht⟩ := Option.isSome_iff_exists.mp hend
  have hfinish : s.finish = t := by
    unfold finish
    rw [ht]
    rfl
  rw [hfinish]
  exact Instant.ticks_of_add? hs ht

/-! ## One cut -/

theorem nanos_overlap_add (hs : s.start.isLeap = false) {a b c : Instant} (ha : a.isLeap = false)
    (hb : b.isLeap = false) (hc : c.isLeap = false) (hab : a ≤ b) (hbc : b ≤ c) :
    (s.overlap ⟨a, c⟩).nanos = (s.overlap ⟨a, b⟩).nanos + (s.overlap ⟨b, c⟩).nanos := by
  rw [nanos_overlap hs ha hc, nanos_overlap hs ha hb, nanos_overlap hs hb hc]
  exact s.shared_add ((Instant.le_iff_ticks_le ha hb).mp hab) ((Instant.le_iff_ticks_le hb hc).mp hbc)

/-! ## The whole -/

section Bounds

variable {p : Period} (hs : s.start.isLeap = false) (hstart : p.start.isLeap = false)
  (hstop : p.stop.isLeap = false)

include hs hstart hstop

theorem zero_le_overlap : Span.zero ≤ s.overlap p := by
  rw [Span.le_def, nanos_overlap hs hstart hstop]
  exact s.shared_nonneg _ _

theorem overlap_le_length (hp : p.start ≤ p.stop) : s.overlap p ≤ p.length := by
  have hlength : p.length.nanos = p.stop.ticks - p.start.ticks := Instant.nanos_since hstop hstart
  rw [Span.le_def, nanos_overlap hs hstart hstop, hlength]
  exact s.shared_le ((Instant.le_iff_ticks_le hstart hstop).mp hp)

theorem overlap_le_duration (hforward : Span.zero ≤ s.duration) (hend : s.finish?.isSome = true) :
    s.overlap p ≤ s.duration := by
  have hfinish := ticks_finish hs hend
  have hpos : 0 ≤ s.duration.nanos := hforward
  have hle := s.shared_le_of_start_le p.start.ticks p.stop.ticks (by omega)
  rw [Span.le_def, nanos_overlap hs hstart hstop]
  omega

theorem overlap_of_inside (hforward : Span.zero ≤ s.duration) (hend : s.finish?.isSome = true)
    (hlower : p.start ≤ s.start) (hupper : s.finish ≤ p.stop) : s.overlap p = s.duration := by
  have hfinish := ticks_finish hs hend
  have hpos : 0 ≤ s.duration.nanos := hforward
  rw [Instant.le_iff_ticks_le hstart hs] at hlower
  rw [Instant.le_iff_ticks_le (isLeap_finish hs) hstop] at hupper
  apply Span.eq_of_nanos
  rw [nanos_overlap hs hstart hstop, s.shared_of_inside (by omega) hlower hupper]
  omega

end Bounds

/-! ## Any number of cuts -/

theorem sum_overlap_between (hs : s.start.isLeap = false) {start : Instant} {cuts : List Instant}
    (h : Instant.Ordered (start :: cuts)) :
    ((Period.between start cuts).map fun p => (s.overlap p).nanos).sum =
      (s.overlap ⟨start, cuts.getLastD start⟩).nanos := by
  induction cuts generalizing start with
  | nil =>
    have hstart := h.steady start List.mem_cons_self
    show (0 : Int) = (s.overlap ⟨start, start⟩).nanos
    rw [nanos_overlap hs hstart hstart, shared_self]
  | cons cut rest ih =>
    have hstart := h.steady start List.mem_cons_self
    have hcut := h.tail.steady cut List.mem_cons_self
    have hlast := h.tail.steady _ (Instant.getLastD_mem cut rest)
    have hle : start ≤ cut := List.rel_of_pairwise_cons h.sorted List.mem_cons_self
    rw [Period.between, List.map_cons, List.sum_cons, ih h.tail, List.getLastD_cons,
      nanos_overlap_add hs hstart hcut hlast hle h.tail.le_last]

/-- **Windows share out a sample.** Cut once, a period has as much of a sample as its two parts have. That
is nothing negative, no more than the period lasts, and for a sample that runs forward to an end in range no
more than the sample lasts. Hence periods that follow one another have as much of it as all of them in one,
and the whole of it if it lies in there. -/
theorem overlap_additive (hs : s.start.isLeap = false) :
    (∀ a b c : Instant, Instant.Ordered [a, b, c] →
      (s.overlap ⟨a, c⟩).nanos = (s.overlap ⟨a, b⟩).nanos + (s.overlap ⟨b, c⟩).nanos ∧
        Span.zero ≤ s.overlap ⟨a, c⟩ ∧ s.overlap ⟨a, c⟩ ≤ c.since a ∧
        (Span.zero ≤ s.duration → s.finish?.isSome = true → s.overlap ⟨a, c⟩ ≤ s.duration)) ∧
      ∀ (start : Instant) (cuts : List Instant), Instant.Ordered (start :: cuts) →
        ((Period.between start cuts).map fun p => (s.overlap p).nanos).sum =
            (s.overlap ⟨start, cuts.getLastD start⟩).nanos ∧
          (Span.zero ≤ s.duration → s.finish?.isSome = true → start ≤ s.start →
            s.finish ≤ cuts.getLastD start →
            ((Period.between start cuts).map fun p => (s.overlap p).nanos).sum = s.duration.nanos) := by
  constructor
  · intro a b c h
    have ha := h.steady a (by simp)
    have hb := h.steady b (by simp)
    have hc := h.steady c (by simp)
    have hab : a ≤ b := List.rel_of_pairwise_cons h.sorted (by simp)
    have hac : a ≤ c := List.rel_of_pairwise_cons h.sorted (by simp)
    have hbc : b ≤ c := List.rel_of_pairwise_cons h.tail.sorted (by simp)
    exact ⟨nanos_overlap_add hs ha hb hc hab hbc, zero_le_overlap hs ha hc,
      overlap_le_length hs ha hc hac, overlap_le_duration hs ha hc⟩
  · intro start cuts h
    have hstart := h.steady start List.mem_cons_self
    have hstop := h.steady _ (Instant.getLastD_mem start cuts)
    have hsum := sum_overlap_between hs h
    refine ⟨hsum, fun hforward hend hlower hupper => ?_⟩
    rw [hsum, overlap_of_inside hs hstart hstop hforward hend hlower hupper]

/-- A sample of an hour, cut at half past and at its end, and one whose end had to stop at the last
instant. -/
theorem overlap_additive_half_hours :
    let hour : Sample := ⟨"x", ⟨600, 0, by decide, by decide, by decide⟩, Span.minutes 60, 1.0⟩
    let endless : Sample := ⟨"x", Instant.epoch, Span.longest, 1.0⟩
    let half : Instant := ⟨1800, 0, by decide, by decide, by decide⟩
    let stop : Instant := ⟨4200, 0, by decide, by decide, by decide⟩
    Instant.Ordered [Instant.epoch, half, stop, stop] ∧
      ((Period.between Instant.epoch [half, stop, stop]).map fun p => (hour.overlap p).nanos).sum =
        hour.duration.nanos ∧
      endless.finish? = none ∧
      (endless.overlap ⟨Instant.epoch, Instant.latest⟩).nanos =
        (endless.overlap ⟨Instant.epoch, half⟩).nanos +
          (endless.overlap ⟨half, Instant.latest⟩).nanos := by
  intro hour endless half stop
  have hcuts : Instant.Ordered [Instant.epoch, half, stop, stop] := ⟨by decide, by decide⟩
  have hlatest : Instant.Ordered [Instant.epoch, half, Instant.latest] := ⟨by decide, by decide⟩
  have hour_steady : hour.start.isLeap = false := by decide
  have endless_steady : endless.start.isLeap = false := by decide
  have hshared := (overlap_additive hour_steady).2 Instant.epoch [half, stop, stop] hcuts
  exact ⟨hcuts, hshared.2 (by decide) (by decide) (by decide) (by decide), by decide,
    ((overlap_additive endless_steady).1 _ _ _ hlatest).1⟩

end Sample

end CarbonIntensity
