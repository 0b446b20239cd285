import CarbonIntensity.Proofs.Time.Instant
import CarbonIntensity.Series.Rolling
import Mathlib.Data.List.Basic

/-!
# Samples in the order of time

Sorting by time keeps samples of equal time as they come. So it starts with the sample that is listed
first of those with the earliest start.
-/

namespace CarbonIntensity.Series

theorem start_le_trans (a b c : Sample) (hab : decide (a.start ≤ b.start) = true)
    (hbc : decide (b.start ≤ c.start) = true) : decide (a.start ≤ c.start) = true :=
  decide_eq_true (Instant.le_trans (of_decide_eq_true hab) (of_decide_eq_true hbc))

theorem start_le_total (a b : Sample) :
    (decide (a.start ≤ b.start) || decide (b.start ≤ a.start)) = true := by
  rw [Bool.or_eq_true, decide_eq_true_iff, decide_eq_true_iff]
  exact Int.le_total ..

theorem chronological_perm (series : List Sample) : (chronological series).Perm series :=
  List.mergeSort_perm ..

theorem chronological_pairwise (series : List Sample) :
    (chronological series).Pairwise fun a b => a.start ≤ b.start := by
  have hsorted := List.pairwise_mergeSort start_le_trans start_le_total series
  exact hsorted.imp fun h => of_decide_eq_true h

theorem chronological_pairwise_lt {series : List Sample}
    (hdistinct : series.Pairwise fun a b => a.start ≠ b.start) :
    (chronological series).Pairwise fun a b => a.start < b.start := by
  have hdistinct' := ((chronological_perm series).pairwise_iff fun hne => hne.symm).mpr hdistinct
  exact (chronological_pairwise series).imp₂ (fun _ _ => Instant.lt_of_le_of_ne) hdistinct'

/-- Samples that all start at other times have one order of time only. -/
theorem chronological_of_perm {series ordered : List Sample}
    (hsorted : ordered.Pairwise fun a b => a.start < b.start) (hperm : series.Perm ordered) :
    chronological series = ordered := by
  have hdistinct : series.Pairwise fun a b => a.start ≠ b.start :=
    (hperm.pairwise_iff fun hne => hne.symm).mpr (hsorted.imp Instant.ne_of_lt)
  have hperm' := (chronological_perm series).trans hperm
  refine List.Perm.eq_of_pairwise (fun a b _ _ hab hba => ?_) (chronological_pairwise_lt hdistinct) hsorted
    hperm'
  exact absurd hba (Int.not_lt.mpr (Int.le_of_lt hab))

theorem chronological_eq_of_perm {series series' : List Sample}
    (hdistinct : series.Pairwise fun a b => a.start ≠ b.start) (hperm : series.Perm series') :
    chronological series = chronological series' := by
  have hdistinct' := (hperm.pairwise_iff fun hne => hne.symm).mp hdistinct
  exact chronological_of_perm (chronological_pairwise_lt hdistinct')
    (hperm.trans (chronological_perm series').symm)

/-- No sample of the series starts earlier. -/
def isEarliest (series : List Sample) (s : Sample) : Bool := series.all fun t => s.start ≤ t.start

theorem isEarliest_iff {series : List Sample} {s : Sample} :
    isEarliest series s = true ↔ ∀ t ∈ series, s.start ≤ t.start := by
  unfold isEarliest
  rw [List.all_eq_true]
  constructor
  · intro h t ht
    exact of_decide_eq_true (h t ht)
  · intro h t ht
    exact decide_eq_true (h t ht)

/-- Sorting keeps samples of equal time as they come, the earliest ones among them. -/
theorem filter_isEarliest_chronological (series : List Sample) :
    (chronological series).filter (isEarliest series) = series.filter (isEarliest series) := by
  have hpairwise : (series.filter (isEarliest series)).Pairwise
      fun a b => decide (a.start ≤ b.start) = true := by
    apply List.pairwise_of_forall_mem_list
    intro a ha b hb
    rw [decide_eq_true_iff]
    exact isEarliest_iff.mp (List.mem_filter.mp ha).2 b (List.mem_filter.mp hb).1
  have hsublist : (series.filter (isEarliest series)).Sublist (chronological series) :=
    List.sublist_mergeSort start_le_trans start_le_total hpairwise List.filter_sublist
  have hfiltered := hsublist.filter (isEarliest series)
  rw [List.filter_filter] at hfiltered
  simp only [Bool.and_self] at hfiltered
  exact (hfiltered.eq_of_length ((chronological_perm series).filter _).length_eq.symm).symm

theorem find?_of_chronological {series : List Sample} {first : Sample} {rest : List Sample}
    (h : chronological series = first :: rest) :
    series.find? (isEarliest series) = some first := by
  have hearliest : isEarliest series first = true := by
    rw [isEarliest_iff]
    intro t ht
    have hsorted := chronological_pairwise series
    have hmem := (chronological_perm series).mem_iff.mpr ht
    rw [h] at hsorted hmem
    rcases List.mem_cons.mp hmem with rfl | hmem
    · exact Int.le_refl t.start.rank
    · exact List.rel_of_pairwise_cons hsorted hmem
  rw [← List.head?_filter, ← filter_isEarliest_chronological, h, List.filter_cons, if_pos hearliest,
    List.head?_cons]

/-- The sample that a series starts with, of several at one time the one listed first, and the instant
that it ends at. -/
structure Spans (series : List Sample) (first : Sample) (dataStop : Instant) : Prop where
  first : series.find? (isEarliest series) = some first
  within : ∀ s ∈ series, s.finish ≤ dataStop
  reached : ∃ s ∈ series, s.finish = dataStop

theorem foldl_max_finish (rest : List Sample) (t : Instant) :
    let u := rest.foldl (fun t s => max t s.finish) t
    t ≤ u ∧ (∀ s ∈ rest, s.finish ≤ u) ∧ (u = t ∨ ∃ s ∈ rest, s.finish = u) := by
  induction rest generalizing t with
  | nil => exact ⟨Int.le_refl t.rank, by simp, .inl rfl⟩
  | cons a rest ih =>
    obtain ⟨hle, hrest, hreached⟩ := ih (max t a.finish)
    rw [Instant.le_def, Instant.rank_max] at hle
    refine ⟨?_, ?_, ?_⟩
    · rw [Instant.le_def]
      exact Int.le_trans (Int.le_max_left ..) hle
    · intro s hs
      rcases List.mem_cons.mp hs with rfl | hs
      · rw [Instant.le_def]
        exact Int.le_trans (Int.le_max_right ..) hle
      · exact hrest s hs
    · rcases hreached with hmax | ⟨s, hs, hfinish⟩
      · show (rest.foldl _ (max t a.finish) = t) ∨ _
        rw [hmax]
        show (if t ≤ a.finish then a.finish else t) = t ∨ _
        by_cases h : t ≤ a.finish
        · rw [if_pos h]
          exact .inr ⟨a, List.mem_cons_self .., (hmax.trans (if_pos h)).symm⟩
        · rw [if_neg h]
          exact .inl rfl
      · exact .inr ⟨s, List.mem_cons_of_mem a hs, hfinish⟩

theorem spans_of_chronological {series : List Sample} {first : Sample} {rest : List Sample}
    (h : chronological series = first :: rest) :
    Spans series first (rest.foldl (fun t s => max t s.finish) first.finish) := by
  obtain ⟨hfirst, hrest, hreached⟩ := foldl_max_finish rest first.finish
  have hmem : ∀ s, s ∈ series ↔ s = first ∨ s ∈ rest := by
    intro s
    rw [← (chronological_perm series).mem_iff, h, List.mem_cons]
  constructor
  case first => exact find?_of_chronological h
  case within =>
    intro s hs
    rcases (hmem s).mp hs with rfl | hs
    · exact hfirst
    · exact hrest s hs
  case reached =>
    rcases hreached with heq | ⟨s, hs, hfinish⟩
    · exact ⟨first, (hmem first).mpr (.inl rfl), heq.symm⟩
    · exact ⟨s, (hmem s).mpr (.inr hs), hfinish⟩

end CarbonIntensity.Series
