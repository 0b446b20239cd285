import CarbonIntensity.Proofs.Series.Chain
import CarbonIntensity.Proofs.Series.Overlap
import Mathlib.Algebra.BigOperators.Group.List.Basic
import Mathlib.Algebra.Ring.Int.Defs
import Mathlib.Data.List.Chain

/-!
# Contiguous series

A series of samples that last is refused for a gap exactly if it is contiguous in neither direction.
If it is contiguous, its samples share out the time from the first start to the last end: each instant
is in one sample, and the parts that the samples have in a period make up the period.

All of it follows, for a chain in the order of time, by induction along the chain. What is left of a
chain without its first sample starts at the end of that sample.
-/

namespace CarbonIntensity.Series

/-- The second sample is the later one and starts where the first one ends. -/
def Follows (a b : Sample) : Prop := a.start < b.start ∧ Touches a b

/-- One sample follows the other, forwards or backwards in time. -/
def Contiguous (l : List Sample) : Prop := l.IsChain Follows ∨ l.reverse.IsChain Follows

theorem isChain_follows_iff {l : List Sample} (hl : ∀ s ∈ l, s.Lasts) :
    l.IsChain Follows ↔ l.IsChain Touches := by
  constructor
  · intro h
    exact h.imp fun a b hab => hab.2
  · intro h
    apply h.imp_of_mem_imp
    intro a b ha _ hab
    have hlt := Sample.start_lt_finish (hl a ha)
    rw [← hab.start_eq] at hlt
    exact ⟨hlt, hab⟩

/-! ## Chains in the order of time -/

section Forwards

variable {a : Sample} {rest : List Sample}

/-- The rest of a chain starts at the end of its first sample or later. -/
theorem finish_le_of_mem_rest (hl : ∀ s ∈ a :: rest, s.start ≤ s.finish)
    (hc : (a :: rest).IsChain Touches) : ∀ s ∈ rest, a.finish ≤ s.start := by
  induction rest generalizing a with
  | nil => simp
  | cons b rest ih =>
    obtain ⟨htouch, hc⟩ := List.isChain_cons_cons.mp hc
    have hl' := List.forall_mem_of_forall_mem_cons hl
    intro s hs
    rw [← htouch.start_eq]
    rcases List.mem_cons.mp hs with rfl | hs
    · exact Int.le_refl s.start.rank
    · exact Instant.le_trans (hl' b (by simp)) (ih hl' hc s hs)

/-- The samples of a chain start one after another. -/
theorem start_pairwise_of_chain {l : List Sample} (hl : ∀ s ∈ l, s.start < s.finish)
    (hc : l.IsChain Touches) : l.Pairwise fun s t => s.start < t.start := by
  induction l with
  | nil => exact .nil
  | cons a rest ih =>
    have hle := finish_le_of_mem_rest (fun s hs => Int.le_of_lt (hl s hs)) hc
    refine List.pairwise_cons.mpr ⟨fun s hs => ?_, ih (List.forall_mem_of_forall_mem_cons hl) hc.tail⟩
    exact Int.lt_of_lt_of_le (hl a (by simp)) (hle s hs)

theorem start_lt_stop (hl : ∀ s ∈ a :: rest, s.Lasts) (hc : (a :: rest).IsChain Touches) :
    a.start < (extent a rest).stop := by
  induction rest generalizing a with
  | nil => exact Sample.start_lt_finish (hl a (by simp))
  | cons b rest ih =>
    obtain ⟨htouch, hc⟩ := List.isChain_cons_cons.mp hc
    have ha := Sample.start_lt_finish (hl a (by simp))
    have hb : b.start < (extent a (b :: rest)).stop := ih (List.forall_mem_of_forall_mem_cons hl) hc
    rw [← htouch.start_eq] at ha
    rw [Instant.lt_def] at *
    omega

/-- The samples of a chain lie in its extent. -/
theorem mem_extent (hl : ∀ s ∈ a :: rest, s.Lasts) (hc : (a :: rest).IsChain Touches) :
    ∀ s ∈ a :: rest, a.start ≤ s.start ∧ s.finish ≤ (extent a rest).stop := by
  induction rest generalizing a with
  | nil =>
    intro s hs
    obtain rfl := List.mem_singleton.mp hs
    exact ⟨Int.le_refl s.start.rank, Int.le_refl s.finish.rank⟩
  | cons b rest ih =>
    obtain ⟨htouch, hc'⟩ := List.isChain_cons_cons.mp hc
    have hl' := List.forall_mem_of_forall_mem_cons hl
    have ha := Sample.start_lt_finish (hl a (by simp))
    rw [← htouch.start_eq, Instant.lt_def] at ha
    have hstop : (extent a (b :: rest)).stop = (extent b rest).stop := rfl
    intro s hs
    rw [hstop]
    rcases List.mem_cons.mp hs with rfl | hs
    · have hb := start_lt_stop hl' hc'
      rw [← htouch.start_eq]
      rw [Instant.lt_def] at hb
      exact ⟨Int.le_refl s.start.rank, Int.le_of_lt hb⟩
    · obtain ⟨hstart, hfinish⟩ := ih hl' hc' s hs
      rw [Instant.le_def] at hstart
      refine ⟨?_, hfinish⟩
      rw [Instant.le_def]
      omega

/-- Each instant of a chain is in exactly one of its samples. -/
theorem filter_covers_of_chain (hl : ∀ s ∈ a :: rest, s.start ≤ s.finish)
    (hc : (a :: rest).IsChain Touches) {t : Instant} (hlower : a.start ≤ t) (hupper : t < (extent a rest).stop) :
    ∃ s, (a :: rest).filter (·.covers t) = [s] := by
  induction rest generalizing a with
  | nil =>
    have hcovers : a.covers t = true := Sample.covers_iff.mpr ⟨hlower, hupper⟩
    exact ⟨a, by rw [List.filter_cons, if_pos hcovers, List.filter_nil]⟩
  | cons b rest ih =>
    have hrest := finish_le_of_mem_rest hl hc
    obtain ⟨htouch, hc⟩ := List.isChain_cons_cons.mp hc
    by_cases h : t < a.finish
    · have hcovers : a.covers t = true := Sample.covers_iff.mpr ⟨hlower, h⟩
      have hnone : (b :: rest).filter (·.covers t) = [] := by
        apply List.filter_eq_nil_iff.mpr
        intro s hs
        have hle := hrest s hs
        rw [Sample.covers_iff, Instant.le_def]
        rw [Instant.le_def] at hle
        rw [Instant.lt_def] at h
        omega
      exact ⟨a, by rw [List.filter_cons, if_pos hcovers, hnone]⟩
    · have hcovers : ¬a.covers t = true := fun hin => h (Sample.covers_iff.mp hin).2
      rw [List.filter_cons, if_neg hcovers]
      refine ih (List.forall_mem_of_forall_mem_cons hl) hc ?_ hupper
      rw [htouch.start_eq, Instant.le_def]
      rw [Instant.lt_def] at h
      omega

/-- A sum of differences along a chain is the difference of its ends. -/
theorem sum_differences_of_chain (f : Instant → Int) (hc : (a :: rest).IsChain Touches) :
    ((a :: rest).map fun s => f s.finish - f s.start).sum = f (extent a rest).stop - f a.start := by
  induction rest generalizing a with
  | nil =>
    rw [List.map_cons, List.map_nil, List.sum_cons, List.sum_nil, Int.add_zero]
    rfl
  | cons b rest ih =>
    obtain ⟨htouch, hc⟩ := List.isChain_cons_cons.mp hc
    have hstop : (extent a (b :: rest)).stop = (extent b rest).stop := rfl
    rw [List.map_cons, List.sum_cons, ih hc, hstop, htouch.start_eq]
    omega

/-- The samples of a chain share out a period inside of it. -/
theorem sum_overlap_of_chain (hl : ∀ s ∈ a :: rest, s.start ≤ s.finish)
    (hc : (a :: rest).IsChain Touches) {p : Period} (hstart : p.start.isLeap = false)
    (hstop : p.stop.isLeap = false) (hsteady : ∀ s ∈ a :: rest, p.start.SteadyFrom s.start)
    (hlower : a.start ≤ p.start) (hle : p.start ≤ p.stop) (hupper : p.stop ≤ (extent a rest).stop) :
    ((a :: rest).map fun s => (s.overlap p).nanos).sum = p.length.nanos := by
  have hparts : ∀ s ∈ a :: rest,
      (s.overlap p).nanos = (p.clamp s.finish).ticks - (p.clamp s.start).ticks := fun s hs =>
    Sample.nanos_overlap_eq_sub hle hstart hstop (hl s hs) (hsteady s hs)
  have hlength : p.length.nanos = p.stop.ticks - p.start.ticks := Instant.nanos_since hstop hstart
  rw [List.map_congr_left hparts, sum_differences_of_chain (fun t => (p.clamp t).ticks) hc,
    Period.clamp_of_ge hupper, Period.clamp_of_le hle hlower, hlength]

end Forwards

/-! ## The mean of a contiguous series -/

theorem isInside_iff {p data : Period} : isInside p data = true ↔
    data.start ≤ p.start ∧ p.stop ≤ data.stop ∧ p.start ≤ p.stop ∧ p.start < data.stop := by
  unfold isInside
  simp only [Bool.and_eq_true, decide_eq_true_iff, and_assoc]

/-- The series has a mean over the periods inside the data, and its samples share out the data. -/
structure SharesOut (l : List Sample) (data : Period) : Prop where
  inside (p : Period) : isInside p data = true → ∃ r, mean p l = .ok r
  outside (p : Period) : isInside p data = false → mean p l = .error (.outsideData p data)
  /-- Each instant of the data is in exactly one sample. -/
  covered (t : Instant) : data.start ≤ t → t < data.stop → ∃ s, l.filter (·.covers t) = [s]
  /-- The mean at an instant is the rating of the one sample there. -/
  atInstant (t : Instant) (r : Float) :
    mean ⟨t, t⟩ l = .ok r → ∃ s, l.filter (·.covers t) = [s] ∧ r = s.rating
  /-- The parts of a period that the samples have make up the period. -/
  measured (p : Period) : p.start.isLeap = false → p.stop.isLeap = false → data.start ≤ p.start →
    p.start ≤ p.stop → p.stop ≤ data.stop → (l.map fun s => (s.overlap p).nanos).sum = p.length.nanos

theorem chainMean_inside {p : Period} {a : Sample} {rest : List Sample}
    (h : isInside p (extent a rest) = true) : ∃ r, chainMean p (a :: rest) = .ok r := by
  show ∃ r, (if isInside p (extent a rest) = true then _ else _) = Except.ok r
  rw [if_pos h]
  by_cases heq : p.start = p.stop
  · rw [if_pos heq]
    split
    · exact ⟨_, rfl⟩
    · exact ⟨_, rfl⟩
  · rw [if_neg heq]
    exact ⟨_, rfl⟩

theorem chainMean_outside {p : Period} {a : Sample} {rest : List Sample}
    (h : isInside p (extent a rest) = false) :
    chainMean p (a :: rest) = .error (.outsideData p (extent a rest)) := by
  show (if isInside p (extent a rest) = true then _ else _) = _
  rw [if_neg (by rw [h]; decide)]

theorem chainMean_ne_gap (p : Period) (l : List Sample) (a b : Period) :
    chainMean p l ≠ .error (.gap a b) := by
  cases l with
  | nil =>
    intro h
    cases h
  | cons first rest =>
    intro h
    cases hin : isInside p (extent first rest) with
    | true =>
      obtain ⟨r, hr⟩ := chainMean_inside hin
      rw [hr] at h
      cases h
    | false =>
      rw [chainMean_outside hin] at h
      cases h

theorem chainMean_atInstant {t : Instant} {r : Float} {a s : Sample} {rest : List Sample}
    (hs : (a :: rest).filter (·.covers t) = [s]) (h : chainMean ⟨t, t⟩ (a :: rest) = .ok r) :
    r = s.rating := by
  have hfind : (a :: rest).find? (·.covers t) = some s := by
    rw [← List.head?_filter, hs]
    rfl
  unfold chainMean at h
  simp only at h
  split at h
  · rw [if_pos trivial] at h
    rw [hfind] at h
    exact (Except.ok.inj h).symm
  · cases h

/-- A series in the order of time or against it, given what its mean is in the order of time. -/
theorem sharesOut_of_perm {l : List Sample} {a : Sample} {rest : List Sample}
    (hperm : l.Perm (a :: rest)) (hmean : ∀ p, mean p l = chainMean p (a :: rest))
    (hl : ∀ s ∈ a :: rest, s.Lasts) (hleap : ∀ s ∈ a :: rest, s.start.isLeap = false)
    (hc : (a :: rest).IsChain Touches) : SharesOut l (extent a rest) := by
  have hcovered : ∀ t, a.start ≤ t → t < (extent a rest).stop →
      ∃ s, l.filter (·.covers t) = [s] ∧ (a :: rest).filter (·.covers t) = [s] := by
    intro t hlower hupper
    obtain ⟨s, hs⟩ := filter_covers_of_chain (fun s hs => Sample.start_le_finish (hl s hs)) hc hlower hupper
    have hfilter := hperm.filter (·.covers t)
    rw [hs] at hfilter
    exact ⟨s, List.perm_singleton.mp hfilter, hs⟩
  constructor
  case inside =>
    intro p hp
    rw [hmean p]
    exact chainMean_inside hp
  case outside =>
    intro p hp
    rw [hmean p]
    exact chainMean_outside hp
  case covered =>
    intro t hlower hupper
    obtain ⟨s, hs, -⟩ := hcovered t hlower hupper
    exact ⟨s, hs⟩
  case atInstant =>
    intro t r h
    rw [hmean] at h
    cases hin : isInside ⟨t, t⟩ (extent a rest) with
    | false =>
      rw [chainMean_outside hin] at h
      cases h
    | true =>
      obtain ⟨hlower, -, -, hupper⟩ := isInside_iff.mp hin
      obtain ⟨s, hs, hs'⟩ := hcovered t hlower hupper
      exact ⟨s, hs, chainMean_atInstant hs' h⟩
  case measured =>
    intro p hstart hstop hlower hle hupper
    rw [(hperm.map _).sum_eq]
    exact sum_overlap_of_chain (fun s hs => Sample.start_le_finish (hl s hs)) hc hstart hstop
      (fun s hs => .inl (hleap s hs)) hlower hle hupper

/-- **The gate of the mean.** A series of samples that last is refused for a gap exactly if neither it
nor its reverse is a chain in which each sample follows the one before. Otherwise its samples share out
the time from the start of that chain to its end. -/
theorem mean_gate {l : List Sample} (hne : l ≠ []) (hl : ∀ s ∈ l, s.Lasts)
    (hleap : ∀ s ∈ l, s.start.isLeap = false) :
    (∀ p, (∃ a b, mean p l = .error (.gap a b)) ↔ ¬Contiguous l) ∧
      (Contiguous l → ∃ first rest, (first :: rest = l ∨ first :: rest = l.reverse) ∧
        (first :: rest).IsChain Follows ∧ SharesOut l (extent first rest)) := by
  have hl' : ∀ s ∈ l.reverse, s.Lasts := fun s hs => hl s (List.mem_reverse.mp hs)
  have hleap' : ∀ s ∈ l.reverse, s.start.isLeap = false := fun s hs => hleap s (List.mem_reverse.mp hs)
  constructor
  · intro p
    unfold Contiguous
    rw [isChain_follows_iff hl, isChain_follows_iff hl', not_or]
    constructor
    · rintro ⟨a, b, hgap⟩
      constructor
      · intro hc
        rw [mean_of_chain p hl hc] at hgap
        exact chainMean_ne_gap p l a b hgap
      · intro hr
        rw [mean_of_reverse_chain p hl hr] at hgap
        exact chainMean_ne_gap p l.reverse a b hgap
    · rintro ⟨hc, hr⟩
      exact mean_of_broken p (fun s hs => (hl s hs).1) hc hr
  · rintro (hc | hr)
    · obtain ⟨first, rest, rfl⟩ := List.exists_cons_of_ne_nil hne
      have htouch := (isChain_follows_iff hl).mp hc
      exact ⟨first, rest, .inl rfl, hc,
        sharesOut_of_perm (.refl _) (fun p => mean_of_chain p hl htouch) hl hleap htouch⟩
    · have htouch := (isChain_follows_iff hl').mp hr
      have hmean := fun p => mean_of_reverse_chain p hl htouch
      have hperm := (List.reverse_perm l).symm
      obtain ⟨first, rest, hcons⟩ := List.exists_cons_of_ne_nil (mt List.reverse_eq_nil_iff.mp hne)
      rw [hcons] at hr htouch hperm hl' hleap'
      refine ⟨first, rest, .inr hcons.symm, hr, ?_⟩
      refine sharesOut_of_perm hperm (fun p => ?_) hl' hleap' htouch
      rw [hmean p, hcons]

/-- Two samples listed against the order of time share out their ten minutes. -/
theorem mean_gate_descending :
    let middle : Instant := ⟨300, 0, by decide, by decide, by decide⟩
    let five : Span := ⟨300000000000, by decide⟩
    let l : List Sample := [⟨"x", middle, five, 2.0⟩, ⟨"x", Instant.epoch, five, 1.0⟩]
    l ≠ [] ∧ (∀ s ∈ l, s.Lasts) ∧ (∀ s ∈ l, s.start.isLeap = false) ∧ Contiguous l ∧
      ∃ first rest, (first :: rest = l ∨ first :: rest = l.reverse) ∧
        (first :: rest).IsChain Follows ∧ SharesOut l (extent first rest) := by
  intro middle five l
  have hl : ∀ s ∈ l, s.Lasts := by
    intro s hs
    have hpos : ∀ s ∈ l, Span.zero < s.duration := by decide
    have hend : ∀ s ∈ l, s.finish?.isSome := by decide
    exact ⟨hpos s hs, hend s hs⟩
  have hleap : ∀ s ∈ l, s.start.isLeap = false := by decide
  have hcontiguous : Contiguous l := by
    refine .inr (List.isChain_cons_cons.mpr ⟨⟨?_, ?_⟩, .singleton _⟩)
    · show Instant.epoch < middle
      decide
    · show middle = Sample.finish ⟨"x", Instant.epoch, five, 1.0⟩
      decide
  have hne : l ≠ [] := List.cons_ne_nil _ _
  exact ⟨hne, hl, hleap, hcontiguous, (mean_gate hne hl hleap).2 hcontiguous⟩

end CarbonIntensity.Series
