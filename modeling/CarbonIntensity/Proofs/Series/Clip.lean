import CarbonIntensity.Proofs.Series.Partition
import CarbonIntensity.Series.Basic

/-!
# Clipping a contiguous series

What is left of a chain in a period inside its data is a chain that reaches over the period, however
short it is (`clip_of_chain`). This is two inductions along the chain. Samples that end by the start of
the period are left out first. After them the samples are kept up to the first one that starts at the end
of the period or later, and none that follows it is kept (`clip_of_reached`).

What has a common part with a period inside of `p` is never clipped (`filter_clip`).
-/

namespace CarbonIntensity.Series

theorem meets_iff {s : Sample} {p : Period} (hp : p.start < p.stop) :
    s.meets p = true ↔ s.start < p.stop ∧ p.start < s.finish := by
  unfold Sample.meets
  rw [if_neg (Instant.ne_of_lt hp), Bool.and_eq_true, decide_eq_true_iff, decide_eq_true_iff]

@[simp] theorem clip_nil (p : Period) : clip p [] = [] := rfl

theorem clip_cons (p : Period) (s : Sample) (l : List Sample) :
    clip p (s :: l) = if s.meets p = true then s :: clip p l else clip p l := List.filter_cons

/-- A period of one instant leaves the samples that the instant is in. -/
theorem clip_of_instant {p : Period} (hp : p.start = p.stop) (l : List Sample) :
    clip p l = l.filter (·.covers p.start) :=
  List.filter_congr fun _ _ => if_pos hp

/-- A sample that lasts in a part of a period has a part in the period. -/
theorem meets_of_overlap {p q : Period} {s : Sample} (hlower : p.start ≤ q.start)
    (hupper : q.stop ≤ p.stop) (h : s.overlap q ≠ Span.zero) : s.meets p = true := by
  have hlt := Sample.lt_of_overlap h
  rw [Instant.lt_def, Instant.rank_max, Instant.rank_min] at hlt
  rw [Instant.le_def] at hlower hupper
  refine (meets_iff ?_).mpr ⟨?_, ?_⟩
  all_goals
    rw [Instant.lt_def]
    omega

/-- Of the samples that last in a part of a period none are clipped. -/
theorem filter_clip {p q : Period} (hlower : p.start ≤ q.start) (hupper : q.stop ≤ p.stop)
    {f : Sample → Bool} (hf : ∀ s, f s = true → s.overlap q ≠ Span.zero) (l : List Sample) :
    (clip p l).filter f = l.filter f := by
  unfold clip
  rw [List.filter_filter]
  apply List.filter_congr
  intro s _
  cases hfs : f s with
  | false => rfl
  | true =>
    rw [meets_of_overlap hlower hupper (hf s hfs)]
    rfl

section Forwards

variable {p : Period} {a : Sample} {rest : List Sample}

/-- A chain whose first sample has a part in the period is kept up to the end of the period. -/
theorem clip_of_reached (hl : ∀ s ∈ a :: rest, s.start ≤ s.finish) (hc : (a :: rest).IsChain Touches)
    (hp : p.start < p.stop) (hfinish : p.start < a.finish) (hstart : a.start < p.stop)
    (hupper : p.stop ≤ (extent a rest).stop) :
    ∃ kept, clip p (a :: rest) = a :: kept ∧ (a :: kept).IsChain Touches ∧
      p.stop ≤ (extent a kept).stop := by
  have hmeets : a.meets p = true := (meets_iff hp).mpr ⟨hstart, hfinish⟩
  induction rest generalizing a with
  | nil =>
    refine ⟨[], ?_, .singleton a, hupper⟩
    rw [clip_cons, if_pos hmeets, clip_nil]
  | cons b rest ih =>
    have hrest := finish_le_of_mem_rest hl hc
    obtain ⟨htouch, hc⟩ := List.isChain_cons_cons.mp hc
    have hl' := List.forall_mem_of_forall_mem_cons hl
    have hclip : clip p (a :: b :: rest) = a :: clip p (b :: rest) := by
      rw [clip_cons, if_pos hmeets]
    by_cases hnext : b.start < p.stop
    · have hfinish' : p.start < b.finish := by
        rw [← htouch.start_eq] at hfinish
        exact Int.lt_of_lt_of_le hfinish (hl' b (by simp))
      obtain ⟨kept, hkept, hchain, hreach⟩ :=
        ih hl' hc hfinish' hnext hupper ((meets_iff hp).mpr ⟨hnext, hfinish'⟩)
      refine ⟨b :: kept, by rw [hclip, hkept], ?_, hreach⟩
      exact List.isChain_cons_cons.mpr ⟨htouch, hchain⟩
    · have hnone : clip p (b :: rest) = [] := by
        apply List.filter_eq_nil_iff.mpr
        intro s hs
        have hle := hrest s hs
        rw [meets_iff hp, ← htouch.start_eq, Instant.lt_def] at *
        rw [Instant.le_def] at hle
        omega
      refine ⟨[], by rw [hclip, hnone], .singleton a, ?_⟩
      show p.stop ≤ a.finish
      rw [← htouch.start_eq, Instant.le_def]
      rw [Instant.lt_def] at hnext
      omega

theorem clip_of_first (hl : ∀ s ∈ a :: rest, s.start ≤ s.finish) (hc : (a :: rest).IsChain Touches)
    (hp : p.start < p.stop) (hlower : a.start ≤ p.start) (hreached : p.start < a.finish)
    (hupper : p.stop ≤ (extent a rest).stop) :
    ∃ b kept, clip p (a :: rest) = b :: kept ∧ (b :: kept).IsChain Touches ∧
      isInside p (extent b kept) = true := by
  have hstart : a.start < p.stop := by
    rw [Instant.le_def] at hlower
    rw [Instant.lt_def] at *
    omega
  obtain ⟨kept, hkept, hchain, hreach⟩ := clip_of_reached hl hc hp hreached hstart hupper
  have hlate : p.start < (extent a kept).stop := by
    rw [Instant.lt_def] at *
    exact Int.lt_of_lt_of_le hp hreach
  exact ⟨a, kept, hkept, hchain, isInside_iff.mpr ⟨hlower, hreach, Int.le_of_lt hp, hlate⟩⟩

/-- What is left of a chain in a period inside of it is a chain around the period. -/
theorem clip_of_chain (hl : ∀ s ∈ a :: rest, s.start ≤ s.finish) (hc : (a :: rest).IsChain Touches)
    (hp : p.start < p.stop) (hlower : a.start ≤ p.start) (hupper : p.stop ≤ (extent a rest).stop) :
    ∃ b kept, clip p (a :: rest) = b :: kept ∧ (b :: kept).IsChain Touches ∧
      isInside p (extent b kept) = true := by
  induction rest generalizing a with
  | nil =>
    have hreached : p.start < a.finish := by
      rw [Instant.lt_def] at *
      exact Int.lt_of_lt_of_le hp hupper
    exact clip_of_first hl hc hp hlower hreached hupper
  | cons b rest ih =>
    by_cases hreached : p.start < a.finish
    · exact clip_of_first hl hc hp hlower hreached hupper
    · have hmeets : ¬a.meets p = true := fun h => hreached ((meets_iff hp).mp h).2
      obtain ⟨htouch, hc⟩ := List.isChain_cons_cons.mp hc
      have hlower' : b.start ≤ p.start := by
        rw [htouch.start_eq]
        exact Int.not_lt.mp hreached
      rw [clip_cons, if_neg hmeets]
      exact ih (List.forall_mem_of_forall_mem_cons hl) hc hlower' hupper

end Forwards

end CarbonIntensity.Series
