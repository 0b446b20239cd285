import CarbonIntensity.Proofs.Series.Chain

/-!
# The mean over a period

The mean does not depend on the direction in which a series is listed:

    (mean p l.reverse).mapError kind = (mean p l).mapError kind      (mean_reverse)

The ends of all samples have to be in range. An end that was cut off at the last instant can coincide
with the start of its sample, and then a series may be a chain in one direction only.
-/

namespace CarbonIntensity

namespace SeriesFault

inductive Kind where
  | invalid
  | gap
  | outsideData
  | overflow
deriving DecidableEq

/-- A fault without the samples and periods that it names. -/
def kind : SeriesFault → Kind
  | invalid _ => .invalid
  | gap _ _ => .gap
  | outsideData _ _ => .outsideData
  | overflow => .overflow

theorem kind_emptySample (s : Sample) : (emptySample s).kind = .invalid := rfl

end SeriesFault

namespace Series

/-- A series and its reverse both have the same mean, to the bit, or both fail with a fault of the
same kind. -/
theorem mean_reverse (p : Period) (l : List Sample) (ends : ∀ s ∈ l, s.finish?.isSome) :
    (mean p l.reverse).mapError SeriesFault.kind = (mean p l).mapError SeriesFault.kind := by
  by_cases hempty : ∃ s ∈ l, s.duration ≤ Span.zero
  · have hempty' : ∃ s ∈ l.reverse, s.duration ≤ Span.zero := by
      obtain ⟨s, hs, hd⟩ := hempty
      exact ⟨s, List.mem_reverse.mpr hs, hd⟩
    obtain ⟨s, -, hs⟩ := mean_of_empty_sample p hempty
    obtain ⟨t, -, ht⟩ := mean_of_empty_sample p hempty'
    rw [hs, ht, Except.mapError, Except.mapError, SeriesFault.kind_emptySample, SeriesFault.kind_emptySample]
  · have hpos : ∀ s ∈ l, Span.zero < s.duration := by
      intro s hs
      rw [Span.lt_def]
      by_contra hd
      exact hempty ⟨s, hs, by rw [Span.le_def]; omega⟩
    have hl : ∀ s ∈ l, s.Lasts := fun s hs => ⟨hpos s hs, ends s hs⟩
    have hl' : ∀ s ∈ l.reverse, s.Lasts := fun s hs => hl s (List.mem_reverse.mp hs)
    -- The two chains are those of `l` and of its reverse, so that reversing `l` swaps them.
    by_cases hc : l.IsChain Touches
    · have hr : l.reverse.reverse.IsChain Touches := by rwa [List.reverse_reverse]
      rw [mean_of_chain p hl hc, mean_of_reverse_chain p hl' hr, List.reverse_reverse]
    · by_cases hr : l.reverse.IsChain Touches
      · rw [mean_of_reverse_chain p hl hr, mean_of_chain p hl' hr]
      · obtain ⟨a, b, hab⟩ := mean_of_broken p hpos hc hr
        obtain ⟨a', b', hab'⟩ := mean_of_broken p (fun s hs => (hl' s hs).1) hr
          (by rwa [List.reverse_reverse])
        rw [hab, hab']
        rfl

/-- Two samples listed backwards, and a period that has a part of both. -/
theorem mean_reverse_descending :
    let middle : Instant := ⟨300, 0, by decide, by decide, by decide⟩
    let five : Span := ⟨300000000000, by decide⟩
    let l : List Sample := [⟨"x", middle, five, 2.0⟩, ⟨"x", Instant.epoch, five, 1.0⟩]
    let p : Period := ⟨⟨120, 0, by decide, by decide, by decide⟩, ⟨420, 5, by decide, by decide, by decide⟩⟩
    (∀ s ∈ l, s.finish?.isSome) ∧
      (mean p l.reverse).mapError SeriesFault.kind = (mean p l).mapError SeriesFault.kind := by
  intro middle five l p
  have ends : ∀ s ∈ l, s.finish?.isSome := by decide
  exact ⟨ends, mean_reverse p l ends⟩

end Series

end CarbonIntensity
