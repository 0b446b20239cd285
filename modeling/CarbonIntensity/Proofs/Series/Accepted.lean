import CarbonIntensity.Proofs.Outcome
import CarbonIntensity.Proofs.Series.Clip
import CarbonIntensity.Proofs.Series.Meets

/-!
# Series with a mean

A series that has a mean over a period is empty, or it lists a chain of samples around the period,
forwards or backwards (`accepts_of_mean`). What is left of it in the period is such a series again, so
that clipping a series costs no mean:

    mean p l = .ok r → ∃ r', mean p (clip p l) = .ok r'      (mean_clip)

Ends may be out of range here and instants in leap seconds. A sample that is cut off at the last instant
can then start there too. Such samples come last and have no part in any period with a mean, so that a
chain around a period runs forwards in all others (`start_lt_finish_of_chain`).
-/

namespace CarbonIntensity

namespace Sample

/-- A sample of positive length starts before its end, unless it is cut off where it starts or before. -/
theorem start_lt_finish_or {s : Sample} (hpos : Span.zero < s.duration) :
    s.start < s.finish ∨ (Instant.latest ≤ s.start ∧ s.finish = Instant.latest) := by
  cases hend : s.finish? with
  | some t => exact .inl (start_lt_finish ⟨hpos, by rw [hend]; rfl⟩)
  | none =>
    have hfinish : s.finish = Instant.latest := by
      unfold finish
      rw [hend, Option.getD_none]
      exact if_neg (Int.not_lt.mpr (Int.le_of_lt hpos))
    rw [hfinish]
    rcases Int.lt_or_le s.start.rank Instant.latest.rank with hlt | hle
    · exact .inl hlt
    · exact .inr ⟨hle, rfl⟩

theorem finish_le_latest {s : Sample} (hs : s.start ≤ Instant.latest) : s.finish ≤ Instant.latest := by
  have hlatest : Instant.latest.isLeap = false := by decide
  rcases steadyFrom_finish hlatest (Instant.steadyFrom_of_le hlatest hs) with hleap | hlt
  · exact (Instant.le_iff_ticks_le hleap hlatest).mpr (Instant.ticks_le_latest hleap)
  · exact Int.le_of_lt hlt

end Sample

namespace Series

/-! ## Chains that reach the last instant -/

section Forwards

variable {a : Sample} {rest : List Sample}

theorem start_le_latest_of_chain (hc : (a :: rest).IsChain Touches) (ha : a.start ≤ Instant.latest) :
    ∀ s ∈ a :: rest, s.start ≤ Instant.latest := by
  induction rest generalizing a with
  | nil =>
    intro s hs
    obtain rfl := List.mem_singleton.mp hs
    exact ha
  | cons b rest ih =>
    obtain ⟨htouch, hc⟩ := List.isChain_cons_cons.mp hc
    have hb : b.start ≤ Instant.latest := by
      rw [htouch.start_eq]
      exact Sample.finish_le_latest ha
    intro s hs
    rcases List.mem_cons.mp hs with rfl | hs
    · exact ha
    · exact ih hc hb s hs

/-- A chain does not get past the last instant once one of its samples is cut off there. -/
theorem stop_eq_latest_of_chain (hpos : ∀ s ∈ a :: rest, Span.zero < s.duration)
    (hc : (a :: rest).IsChain Touches) {s : Sample} (hs : s ∈ a :: rest) (hstuck : ¬s.start < s.finish) :
    (extent a rest).stop = Instant.latest := by
  induction rest generalizing a s with
  | nil =>
    obtain rfl := List.mem_singleton.mp hs
    exact ((Sample.start_lt_finish_or (hpos s hs)).resolve_left hstuck).2
  | cons b rest ih =>
    obtain ⟨htouch, hc'⟩ := List.isChain_cons_cons.mp hc
    have hpos' := List.forall_mem_of_forall_mem_cons hpos
    rcases List.mem_cons.mp hs with rfl | hs
    · have hb : b.start = Instant.latest :=
        htouch.start_eq.trans ((Sample.start_lt_finish_or (hpos s (by simp))).resolve_left hstuck).2
      have hstuck' : ¬b.start < b.finish := by
        have hle := Sample.finish_le_latest (s := b) (Int.le_of_eq (congrArg Instant.rank hb))
        rw [hb]
        exact Int.not_lt.mpr hle
      exact ih hpos' hc' (by simp) hstuck'
    · exact ih hpos' hc' hs hstuck

/-- The samples of a chain that starts before it stops run forwards, but for those that start at its
stop. -/
theorem start_lt_finish_of_chain (hpos : ∀ s ∈ a :: rest, Span.zero < s.duration)
    (hc : (a :: rest).IsChain Touches) (hlt : a.start < (extent a rest).stop) {s : Sample}
    (hs : s ∈ a :: rest) :
    s.start < s.finish ∨ (s.start = (extent a rest).stop ∧ s.finish = (extent a rest).stop) := by
  by_cases hstuck : s.start < s.finish
  · exact .inl hstuck
  · right
    obtain ⟨hlate, hfinish⟩ := (Sample.start_lt_finish_or (hpos s hs)).resolve_left hstuck
    rw [stop_eq_latest_of_chain hpos hc hs hstuck] at hlt ⊢
    exact ⟨Instant.le_antisymm (start_le_latest_of_chain hc (Int.le_of_lt hlt) s hs) hlate, hfinish⟩

end Forwards

/-! ## What a mean says of the series -/

/-- The series has a mean over the period. In the order of time it is `first :: rest`. -/
structure Accepts (p : Period) (l : List Sample) (first : Sample) (rest : List Sample) : Prop where
  order : first :: rest = l ∨ first :: rest = l.reverse
  positive : ∀ s ∈ first :: rest, Span.zero < s.duration
  chain : (first :: rest).IsChain Touches
  inside : isInside p (extent first rest) = true
  mean_eq : mean p l = chainMean p (first :: rest)

theorem accepts_of_mean {p : Period} {l : List Sample} {r : Float} (hne : l ≠ []) (h : mean p l = .ok r) :
    ∃ first rest, Accepts p l first rest := by
  have hpos : ∀ s ∈ l, Span.zero < s.duration := by
    intro s hs
    by_contra hempty
    obtain ⟨e, -, he⟩ := mean_of_empty_sample p ⟨s, hs, Int.not_lt.mp hempty⟩
    rw [he] at h
    cases h
  have hmean := mean_of_positive p hpos
  cases hgap : firstGap? (runsBackwards l) l with
  | some ab =>
    rw [hgap] at hmean
    rw [hmean] at h
    cases h
  | none =>
    rw [hgap] at hmean
    -- Either way the series is a chain in the order that the mean adds in.
    obtain ⟨ordered, horder, hc, hmean⟩ : ∃ ordered, (ordered = l ∨ ordered = l.reverse) ∧
        ordered.IsChain Touches ∧ mean p l = chainMean p ordered := by
      cases hback : runsBackwards l with
      | false =>
        rw [hback] at hgap hmean
        exact ⟨l, .inl rfl, (firstGap?_forwards_iff l).mp hgap, hmean⟩
      | true =>
        rw [hback] at hgap hmean
        exact ⟨l.reverse, .inr rfl, (firstGap?_backwards_iff l).mp hgap, hmean⟩
    have hmem : ∀ s ∈ ordered, s ∈ l := by
      intro s hs
      rcases horder with rfl | rfl
      · exact hs
      · exact List.mem_reverse.mp hs
    have hne' : ordered ≠ [] := by
      rcases horder with rfl | rfl
      · exact hne
      · exact mt List.reverse_eq_nil_iff.mp hne
    obtain ⟨first, rest, rfl⟩ := List.exists_cons_of_ne_nil hne'
    refine ⟨first, rest, horder, fun s hs => hpos s (hmem s hs), hc, ?_, hmean⟩
    by_contra hout
    rw [hmean, chainMean_outside (Bool.eq_false_iff.mpr hout)] at h
    cases h

namespace Accepts

variable {p : Period} {l : List Sample} {first : Sample} {rest : List Sample}

theorem mem_iff (h : Accepts p l first rest) {s : Sample} : s ∈ first :: rest ↔ s ∈ l := by
  rcases h.order with heq | heq
  · rw [heq]
  · rw [heq, List.mem_reverse]

theorem perm (h : Accepts p l first rest) : (first :: rest).Perm l := by
  rcases h.order with heq | heq
  · rw [heq]
  · rw [heq]
    exact List.reverse_perm l

theorem start_le (h : Accepts p l first rest) : first.start ≤ p.start := (isInside_iff.mp h.inside).1

theorem stop_le (h : Accepts p l first rest) : p.stop ≤ (extent first rest).stop :=
  (isInside_iff.mp h.inside).2.1

theorem le (h : Accepts p l first rest) : p.start ≤ p.stop := (isInside_iff.mp h.inside).2.2.1

theorem lt_stop (h : Accepts p l first rest) : p.start < (extent first rest).stop :=
  (isInside_iff.mp h.inside).2.2.2

theorem start_lt_stop (h : Accepts p l first rest) : first.start < (extent first rest).stop :=
  Int.lt_of_le_of_lt h.start_le h.lt_stop

theorem start_le_finish (h : Accepts p l first rest) : ∀ s ∈ first :: rest, s.start ≤ s.finish := by
  intro s hs
  rcases start_lt_finish_of_chain h.positive h.chain h.start_lt_stop hs with hlt | ⟨hstart, hfinish⟩
  · exact Int.le_of_lt hlt
  · rw [hstart, hfinish]
    exact Int.le_refl _

/-- The samples with a part in the period run forwards. -/
theorem start_lt_finish_of_meets (h : Accepts p l first rest) {s : Sample} (hs : s ∈ first :: rest)
    (hmeets : s.meets p = true) : s.start < s.finish := by
  refine (start_lt_finish_of_chain h.positive h.chain h.start_lt_stop hs).resolve_right fun hend => ?_
  have hlt : s.start < (extent first rest).stop := by
    by_cases hp : p.start = p.stop
    · have hupper := Sample.start_le_of_meets hmeets
      rw [← hp] at hupper
      exact Int.lt_of_le_of_lt hupper h.lt_stop
    · exact Int.lt_of_lt_of_le ((meets_iff (Instant.lt_of_le_of_ne h.le hp)).mp hmeets).1 h.stop_le
  rw [hend.1] at hlt
  exact Instant.lt_irrefl _ hlt

/-- Over a period that lasts the mean adds up the ratings of all samples. -/
theorem mean_of_lasting (h : Accepts p l first rest) (hp : p.start < p.stop) :
    mean p l = .ok (Weight.periodMean (Float.ofInt p.length.wholeMillis)
      ((first :: rest).map (Weight.ofSample p))) := by
  rw [h.mean_eq]
  show (if isInside p (extent first rest) = true then _ else _) = _
  rw [if_pos h.inside, if_neg (Instant.ne_of_lt hp)]

/-- At an instant the mean is the rating of the one sample there. -/
theorem mean_of_instant (h : Accepts p l first rest) (hp : p.start = p.stop) :
    ∃ s, clip p (first :: rest) = [s] ∧ mean p l = .ok s.rating := by
  obtain ⟨s, hs⟩ := filter_covers_of_chain h.start_le_finish h.chain h.start_le h.lt_stop
  refine ⟨s, (clip_of_instant hp _).trans hs, ?_⟩
  obtain ⟨r, hr⟩ := chainMean_inside h.inside
  have hperiod : p = ⟨p.start, p.start⟩ := by
    obtain ⟨start, stop⟩ := p
    obtain rfl : start = stop := hp
    rfl
  have hrating : r = s.rating := by
    rw [hperiod] at hr
    exact chainMean_atInstant hs hr
  rw [h.mean_eq, hr, hrating]

/-- What is left of the series in the period has a mean over it again. -/
theorem clip (h : Accepts p l first rest) :
    ∃ b kept, Series.clip p (first :: rest) = b :: kept ∧ Accepts p (Series.clip p l) b kept := by
  obtain ⟨b, kept, hclip, hchain, hinside⟩ : ∃ b kept, Series.clip p (first :: rest) = b :: kept ∧
      (b :: kept).IsChain Touches ∧ isInside p (extent b kept) = true := by
    by_cases hp : p.start = p.stop
    · obtain ⟨s, hs, -⟩ := h.mean_of_instant hp
      have hcovers : s.covers p.start = true := by
        have hmem : s ∈ Series.clip p (first :: rest) := by rw [hs]; exact List.mem_singleton_self s
        rw [clip_of_instant hp] at hmem
        exact (List.mem_filter.mp hmem).2
      obtain ⟨hstart, hfinish⟩ := Sample.covers_iff.mp hcovers
      refine ⟨s, [], hs, .singleton s, isInside_iff.mpr ⟨hstart, ?_, h.le, hfinish⟩⟩
      rw [← hp]
      exact Int.le_of_lt hfinish
    · exact clip_of_chain h.start_le_finish h.chain (Instant.lt_of_le_of_ne h.le hp) h.start_le h.stop_le
  refine ⟨b, kept, hclip, ?_⟩
  have horder : b :: kept = Series.clip p l ∨ b :: kept = (Series.clip p l).reverse := by
    rw [← hclip]
    rcases h.order with heq | heq
    · exact .inl (by rw [heq])
    · exact .inr (by rw [heq]; exact List.filter_reverse)
  have hpos : ∀ s ∈ Series.clip p l, Span.zero < s.duration := fun s hs =>
    h.positive s (h.mem_iff.mpr (mem_clip.mp hs).1)
  have hforwards : ∀ s ∈ Series.clip p l, s.start < s.finish := fun s hs =>
    h.start_lt_finish_of_meets (h.mem_iff.mpr (mem_clip.mp hs).1) (mem_clip.mp hs).2
  refine ⟨horder, ?_, hchain, hinside, mean_of_ordered p hpos hforwards horder hchain⟩
  intro s hs
  rw [← hclip] at hs
  exact h.positive s (mem_clip.mp hs).1

theorem clip_has_mean (h : Accepts p l first rest) : ∃ r, mean p (Series.clip p l) = .ok r := by
  obtain ⟨b, kept, -, hkept⟩ := h.clip
  rw [hkept.mean_eq]
  exact chainMean_inside hkept.inside

end Accepts

/-! ## The mean of what is left in the period -/

/-- A contiguous series has a mean over every period that lasts and lies in its data. -/
theorem mean_of_contiguous {l : List Sample} (hl : ∀ s ∈ l, s.Lasts) (hc : Contiguous l) {p : Period}
    (hp : p.start < p.stop) (hlower : ∃ s ∈ l, s.start ≤ p.start) (hupper : ∃ s ∈ l, p.stop ≤ s.finish) :
    ∃ r, mean p l = .ok r := by
  obtain ⟨s, hs, hstart⟩ := hlower
  obtain ⟨t, ht, hfinish⟩ := hupper
  have inside : ∀ ordered : List Sample, (∀ s, s ∈ ordered ↔ s ∈ l) → ordered.IsChain Touches →
      ∃ r, chainMean p ordered = .ok r := by
    intro ordered hmem htouch
    have hl' : ∀ s ∈ ordered, s.Lasts := fun s hs => hl s ((hmem s).mp hs)
    obtain ⟨a, rest, rfl⟩ := List.exists_cons_of_ne_nil (List.ne_nil_of_mem ((hmem s).mpr hs))
    have hfirst := (mem_extent hl' htouch s ((hmem s).mpr hs)).1
    have hlast := Instant.le_trans hfinish (mem_extent hl' htouch t ((hmem t).mpr ht)).2
    exact chainMean_inside (isInside_iff.mpr ⟨Instant.le_trans hfirst hstart, hlast, Int.le_of_lt hp,
      Int.lt_of_lt_of_le hp hlast⟩)
  rcases hc with hc | hc
  · have htouch := (isChain_follows_iff hl).mp hc
    rw [mean_of_chain p hl htouch]
    exact inside l (fun s => Iff.rfl) htouch
  · have htouch := (isChain_follows_iff fun s hs => hl s (List.mem_reverse.mp hs)).mp hc
    rw [mean_of_reverse_chain p hl htouch]
    exact inside l.reverse (fun s => List.mem_reverse) htouch

theorem mean_clip_of_contiguous {l : List Sample} (hl : ∀ s ∈ l, s.Lasts) (hc : Contiguous l)
    {p : Period} (hp : p.start < p.stop) (hlower : ∃ s ∈ l, s.start ≤ p.start)
    (hupper : ∃ s ∈ l, p.stop ≤ s.finish) : ∃ r, mean p (clip p l) = .ok r := by
  obtain ⟨r, hr⟩ := mean_of_contiguous hl hc hp hlower hupper
  obtain ⟨s, hs, -⟩ := hlower
  obtain ⟨first, rest, haccepts⟩ := accepts_of_mean (List.ne_nil_of_mem hs) hr
  exact haccepts.clip_has_mean

/-- **Clipping before averaging.** A series that has a mean over a period has one after clipping too. At
an instant it is the same one. Over a period that lasts both means divide by the same length and add in
the same order, and the terms of the samples that last in the period are the same. -/
theorem mean_clip {p : Period} {l : List Sample} {r : Float} (h : mean p l = .ok r) :
    (∃ r', mean p (clip p l) = .ok r') ∧
      (l = [] ∨ p.start = p.stop → mean p (clip p l) = .ok r) ∧
      (l ≠ [] → p.start < p.stop →
        ∃ ordered, (ordered = l ∨ ordered = l.reverse) ∧ ordered.IsChain Touches ∧
          let total := Float.ofInt p.length.wholeMillis
          let weights := ordered.map (Weight.ofSample p)
          let weights' := (clip p ordered).map (Weight.ofSample p)
          mean p l = .ok (Weight.periodMean total weights) ∧
            mean p (clip p l) = .ok (Weight.periodMean total weights') ∧
            (clip p ordered).filter (·.overlap p ≠ Span.zero) =
              ordered.filter (·.overlap p ≠ Span.zero) ∧
            weights'.filter (·.millis ≠ 0) = weights.filter (·.millis ≠ 0)) := by
  by_cases hne : l = []
  · subst hne
    exact ⟨⟨r, h⟩, fun _ => h, fun hne => absurd rfl hne⟩
  obtain ⟨first, rest, haccepts⟩ := accepts_of_mean hne h
  obtain ⟨b, kept, hclip, hkept⟩ := haccepts.clip
  have hsame : ∀ f : Sample → Bool, (∀ s, f s = true → s.overlap p ≠ Span.zero) →
      (clip p (first :: rest)).filter f = (first :: rest).filter f := fun f hf =>
    filter_clip p.start.le_refl p.stop.le_refl hf _
  refine ⟨haccepts.clip_has_mean, ?_, ?_⟩
  · intro hinstant
    have hp := hinstant.resolve_left hne
    -- The one sample at the instant is all that is kept, and it is kept again.
    obtain ⟨s, hs, hmean⟩ := haccepts.mean_of_instant hp
    obtain ⟨s', hs', hmean'⟩ := hkept.mean_of_instant hp
    rw [hclip] at hs
    rw [hs] at hs'
    have hmem : s' ∈ clip p [s] := by
      rw [hs']
      exact List.mem_singleton_self s'
    obtain rfl := List.mem_singleton.mp (mem_clip.mp hmem).1
    rw [hmean', ← hmean, h]
  · intro _ hp
    refine ⟨first :: rest, haccepts.order, haccepts.chain, haccepts.mean_of_lasting hp, ?_, ?_, ?_⟩
    · rw [hclip]
      exact hkept.mean_of_lasting hp
    · exact hsame _ fun s hs => of_decide_eq_true hs
    · rw [List.filter_map, List.filter_map]
      refine congrArg (List.map (Weight.ofSample p)) (hsame _ fun s hs hzero => of_decide_eq_true hs ?_)
      show (s.overlap p).wholeMillis = 0
      rw [hzero, Span.wholeMillis_zero]

/-- Three samples listed backwards, of which a period leaves two. -/
theorem mean_clip_descending :
    let five : Span := ⟨300000000000, by decide⟩
    let l : List Sample := [⟨"x", ⟨600, 0, by decide, by decide, by decide⟩, five, 3.0⟩,
      ⟨"x", ⟨300, 0, by decide, by decide, by decide⟩, five, 2.0⟩, ⟨"x", Instant.epoch, five, 1.0⟩]
    let p : Period := ⟨⟨120, 1, by decide, by decide, by decide⟩, ⟨420, 0, by decide, by decide, by decide⟩⟩
    (clip p l).length = 2 ∧ ∃ r, mean p l = .ok r ∧ (∃ r', mean p (clip p l) = .ok r') ∧
      ∃ ordered, (ordered = l ∨ ordered = l.reverse) ∧ ordered.IsChain Touches ∧
        let total := Float.ofInt p.length.wholeMillis
        let weights := ordered.map (Weight.ofSample p)
        let weights' := (clip p ordered).map (Weight.ofSample p)
        mean p l = .ok (Weight.periodMean total weights) ∧
          mean p (clip p l) = .ok (Weight.periodMean total weights') ∧
          (clip p ordered).filter (·.overlap p ≠ Span.zero) =
            ordered.filter (·.overlap p ≠ Span.zero) ∧
          weights'.filter (·.millis ≠ 0) = weights.filter (·.millis ≠ 0) := by
  intro five l p
  obtain ⟨r, h⟩ : ∃ r, mean p l = .ok r := ok_of_isSome (by decide +kernel)
  obtain ⟨hok, -, hterms⟩ := mean_clip h
  exact ⟨by decide, r, h, hok, hterms (List.cons_ne_nil _ _) (by decide)⟩

end Series

end CarbonIntensity
