import CarbonIntensity.Proofs.Lists
import CarbonIntensity.Proofs.Outcome
import CarbonIntensity.Proofs.Series.Chronological
import CarbonIntensity.Proofs.Series.Partition
import CarbonIntensity.Series.Basic

/-!
# The order in which samples are listed

Windows are made of the samples in the order of time. If all samples start at other times, there is one
such order, so that it does not matter how the samples are listed:

    series.Perm series' → rolling w series = rolling w series'      (rolling_perm)

The samples of a chain start one after another. Listed backwards they have the same windows, clipped or
not, and the same mean.
-/

namespace CarbonIntensity.Series

/-! ## Windows -/

section Windows

variable {w : Windows} {series series' : List Sample}

/-- Of a series, windows only look at its samples in the order of time. -/
theorem rolling_congr (hsize : Span.zero < w.size) (h : chronological series = chronological series') :
    rolling w series = rolling w series' := by
  have hpos : ¬w.size ≤ Span.zero := Int.not_le.mpr hsize
  unfold rolling
  rw [if_neg hpos, if_neg hpos, h]

/-- **Windows whatever the order of listing.** Samples that start at pairwise distinct times have the same
windows, or fail with the same fault, in whatever order they are listed. -/
theorem rolling_perm (hsize : Span.zero < w.size)
    (hdistinct : series.Pairwise fun a b => a.start ≠ b.start) (h : series.Perm series') :
    rolling w series = rolling w series' :=
  rolling_congr hsize (chronological_eq_of_perm hdistinct h)

/-- Three samples, of which two overlap and all have other lengths and locations, listed in two orders. -/
theorem rolling_perm_overlapping :
    let five : Span := ⟨300000000000, by decide⟩
    let a : Sample := ⟨"a", Instant.epoch, ⟨420000000000, by decide⟩, 1.5⟩
    let b : Sample := ⟨"b", ⟨300, 0, by decide, by decide, by decide⟩, ⟨120000000000, by decide⟩, 0.1⟩
    let c : Sample := ⟨"c", ⟨600, 0, by decide, by decide, by decide⟩, five, 3.7⟩
    let w : Windows := ⟨five, none, none, some ⟨240000000000, by decide⟩⟩
    Span.zero < w.size ∧ [c, a, b].Pairwise (fun s t => s.start ≠ t.start) ∧ [c, a, b].Perm [a, b, c] ∧
      ∃ windows, windows.length = 3 ∧ rolling w [c, a, b] = .ok windows ∧
        rolling w [a, b, c] = .ok windows := by
  intro five a b c w
  have hdistinct : [c, a, b].Pairwise fun s t => s.start ≠ t.start := by decide
  have hperm : [c, a, b].Perm [a, b, c] := (List.perm_append_singleton c [a, b]).symm
  have hsame : rolling w [c, a, b] = rolling w [a, b, c] := rolling_perm (by decide) hdistinct hperm
  have hsorted : chronological [a, b, c] = [a, b, c] := chronological_of_perm (by decide) (.refl _)
  have hcount : (rolling w [a, b, c]).toOption.map List.length = some 3 := by
    unfold rolling
    rw [hsorted]
    decide +kernel
  obtain ⟨windows, hwindows, hlength⟩ := ok_of_toOption_map hcount
  exact ⟨by decide, hdistinct, hperm, windows, hlength, hsame.trans hwindows, hwindows⟩

end Windows

/-! ## Chains listed backwards -/

section Backwards

variable {l : List Sample}

/-- The samples of a chain start one after another, not only neighbours. -/
theorem start_lt_of_follows (hc : l.IsChain Follows) : l.Pairwise fun a b => a.start < b.start := by
  have hlt : (l.map fun s => s.start.rank).IsChain (· < ·) := by
    rw [List.isChain_map]
    exact hc.imp fun a b hab => hab.1
  have hpairwise := List.pairwise_map.mp (List.isChain_iff_pairwise.mp hlt)
  exact hpairwise

theorem rolling_reverse {w : Windows} (hsize : Span.zero < w.size)
    (hdistinct : l.Pairwise fun a b => a.start ≠ b.start) : rolling w l.reverse = rolling w l :=
  rolling_congr hsize (chronological_eq_of_perm hdistinct (List.reverse_perm l).symm).symm

theorem clip_reverse (p : Period) : clip p l.reverse = (clip p l).reverse := List.filter_reverse

theorem runsBackwards_of_follows (hc : l.IsChain Follows) : runsBackwards l = false := by
  match l, hc with
  | [], _ => rfl
  | [_], _ => rfl
  | a :: b :: rest, hc =>
    have hlt : a.start < b.start := (List.isChain_cons_cons.mp hc).1.1
    exact decide_eq_false (Int.not_lt.mpr (Int.le_of_lt hlt))

theorem runsBackwards_of_reverse_follows (hmany : 2 ≤ l.length) (hc : l.reverse.IsChain Follows) :
    runsBackwards l = true := by
  match l, hmany, hc with
  | a :: b :: rest, _, hc =>
    have hlt : b.start < a.start := (List.isChain_cons_cons.mp (List.isChain_reverse.mp hc)).1.1
    exact decide_eq_true hlt

/-- The first two samples of a chain tell its direction, also if the last sample is cut off at the last
instant. -/
theorem mean_reverse_of_follows (hpos : ∀ s ∈ l, Span.zero < s.duration) (hc : l.IsChain Follows)
    (p : Period) : mean p l.reverse = mean p l := by
  have htouch : l.IsChain Touches := hc.imp fun a b hab => hab.2
  by_cases hmany : 2 ≤ l.length
  · have hc' : l.reverse.reverse.IsChain Follows := by rwa [List.reverse_reverse]
    have htouch' : l.reverse.reverse.IsChain Touches := by rwa [List.reverse_reverse]
    have hback := runsBackwards_of_reverse_follows (by rwa [List.length_reverse]) hc'
    rw [mean_of_positive p hpos, mean_of_positive p fun s hs => hpos s (List.mem_reverse.mp hs),
      runsBackwards_of_follows hc, hback, (firstGap?_forwards_iff l).mpr htouch,
      (firstGap?_backwards_iff l.reverse).mpr htouch']
    show chainMean p l.reverse.reverse = chainMean p l
    rw [List.reverse_reverse]
  · rw [reverse_of_few hmany]

end Backwards

end CarbonIntensity.Series
