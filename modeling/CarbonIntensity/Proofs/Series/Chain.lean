import CarbonIntensity.Series.Mean
import Mathlib.Data.List.Chain

/-!
# Chains of samples

A series is a chain if each sample starts where the one before it ends. `firstGap?` finds nothing
exactly in chains, and in the other direction exactly in reversed ones:

    firstGap? false l = none ↔ l.IsChain Touches            (firstGap?_forwards_iff)
    firstGap? true l = none ↔ l.reverse.IsChain Touches     (firstGap?_backwards_iff)

The direction is read off the first two samples only. If all samples last, a chain reads as forwards
and a reversed one as backwards, so that `mean` is decided by the whole series:

    l.IsChain Touches → mean p l = chainMean p l                      (mean_of_chain)
    l.reverse.IsChain Touches → mean p l = chainMean p l.reverse      (mean_of_reverse_chain)
    neither → mean p l = .error (.gap a b)                            (mean_of_broken)
-/

namespace CarbonIntensity

/-- The sample has a positive length, and its end is in range. -/
def Sample.Lasts (s : Sample) : Prop := Span.zero < s.duration ∧ s.finish?.isSome

theorem Sample.start_lt_finish {s : Sample} (h : s.Lasts) : s.start < s.finish := by
  obtain ⟨hpos, hend⟩ := h
  obtain ⟨t, ht⟩ := Option.isSome_iff_exists.mp hend
  have hfin : s.finish = t := by
    unfold finish
    rw [ht]
    rfl
  rw [hfin]
  exact Instant.rank_lt_of_add? hpos ht

theorem Sample.start_le_finish {s : Sample} (h : s.Lasts) : s.start ≤ s.finish :=
  Int.le_of_lt (start_lt_finish h)

namespace Series

/-- The second sample starts where the first one ends. -/
def Touches (a b : Sample) : Prop := b.start = a.finish

theorem Touches.start_eq {a b : Sample} (h : Touches a b) : b.start = a.finish := h

/-! ## Gaps -/

theorem firstGap?_forwards_iff (l : List Sample) :
    firstGap? false l = none ↔ l.IsChain Touches := by
  induction l with
  | nil => simp [firstGap?]
  | cons a t ih =>
    cases t with
    | nil => simp [firstGap?]
    | cons b rest =>
      rw [List.isChain_cons_cons, ← ih]
      show (if b.start = a.finish then _ else _) = none ↔ b.start = a.finish ∧ _
      by_cases h : b.start = a.finish
      · rw [if_pos h]
        simp [h]
      · rw [if_neg h]
        simp [h]

theorem firstGap?_backwards_iff (l : List Sample) :
    firstGap? true l = none ↔ l.reverse.IsChain Touches := by
  rw [List.isChain_reverse]
  induction l with
  | nil => simp [firstGap?]
  | cons a t ih =>
    cases t with
    | nil => simp [firstGap?]
    | cons b rest =>
      rw [List.isChain_cons_cons, ← ih]
      show (if b.finish = a.start then _ else _) = none ↔ a.start = b.finish ∧ _
      by_cases h : b.finish = a.start
      · rw [if_pos h]
        simp [h]
      · rw [if_neg h]
        simp [Ne.symm h]

/-! ## The direction of a chain -/

theorem runsBackwards_of_chain {l : List Sample} (hl : ∀ s ∈ l, s.start < s.finish)
    (hc : l.IsChain Touches) : runsBackwards l = false := by
  match l, hl, hc with
  | [], _, _ => rfl
  | [_], _, _ => rfl
  | a :: b :: rest, hl, hc =>
    have htouch : b.start = a.finish := (List.isChain_cons_cons.mp hc).1
    have hlt := hl a (by simp)
    show decide (b.start < a.start) = false
    rw [htouch, decide_eq_false_iff_not, Instant.lt_def]
    rw [Instant.lt_def] at hlt
    omega

/-- A series of at most one sample is its own reverse, whatever its direction reads as. -/
theorem runsBackwards_of_reverse_chain {l : List Sample} (hl : ∀ s ∈ l, s.start < s.finish)
    (hc : l.reverse.IsChain Touches) : runsBackwards l = true ∨ l.reverse = l := by
  match l, hl, hc with
  | [], _, _ => exact .inr rfl
  | [_], _, _ => exact .inr rfl
  | a :: b :: rest, hl, hc =>
    left
    have htouch : a.start = b.finish :=
      (List.isChain_cons_cons.mp (List.isChain_reverse.mp hc)).1
    have hlt := hl b (by simp)
    show decide (b.start < a.start) = true
    rw [htouch, decide_eq_true_eq]
    exact hlt

/-! ## The mean of a chain, of a reversed one, and of any other series -/

theorem mean_of_empty_sample (p : Period) {l : List Sample} (h : ∃ s ∈ l, s.duration ≤ Span.zero) :
    ∃ s ∈ l, mean p l = .error (.emptySample s) := by
  obtain ⟨s, hs, hd⟩ := h
  unfold mean
  cases hf : l.find? (·.duration ≤ Span.zero) with
  | none =>
    exfalso
    have := List.find?_eq_none.mp hf s hs
    simp [hd] at this
  | some e =>
    have he := List.mem_of_find?_eq_some hf
    refine ⟨e, he, ?_⟩
    rw [if_neg (by simpa using List.ne_nil_of_mem he)]

/-- Of samples of positive length only the gaps and the direction count. -/
theorem mean_of_positive (p : Period) {l : List Sample} (hl : ∀ s ∈ l, Span.zero < s.duration) :
    mean p l =
      match firstGap? (runsBackwards l) l with
      | some (a, b) => .error (.gap ⟨a.start, a.finish⟩ ⟨b.start, b.finish⟩)
      | none => chainMean p (if runsBackwards l then l.reverse else l) := by
  cases l with
  | nil => rfl
  | cons a t =>
    have hf : (a :: t).find? (·.duration ≤ Span.zero) = none := by
      rw [List.find?_eq_none]
      intro s hs
      have := hl s hs
      rw [Span.lt_def] at this
      rw [decide_eq_true_eq, Span.le_def]
      omega
    unfold mean
    rw [hf]
    rfl

/-- The mean of a series that is a chain in the order of time, listed in that order or against it. -/
theorem mean_of_ordered (p : Period) {l ordered : List Sample} (hpos : ∀ s ∈ l, Span.zero < s.duration)
    (hl : ∀ s ∈ l, s.start < s.finish) (horder : ordered = l ∨ ordered = l.reverse)
    (hc : ordered.IsChain Touches) : mean p l = chainMean p ordered := by
  have forwards : l.IsChain Touches → mean p l = chainMean p l := by
    intro hc
    rw [mean_of_positive p hpos, runsBackwards_of_chain hl hc, (firstGap?_forwards_iff l).mpr hc]
    rfl
  rcases horder with rfl | rfl
  · exact forwards hc
  · rcases runsBackwards_of_reverse_chain hl hc with hback | hself
    · rw [mean_of_positive p hpos, hback, (firstGap?_backwards_iff l).mpr hc]
      rfl
    · rw [hself] at hc ⊢
      exact forwards hc

theorem mean_of_chain (p : Period) {l : List Sample} (hl : ∀ s ∈ l, s.Lasts)
    (hc : l.IsChain Touches) : mean p l = chainMean p l :=
  mean_of_ordered p (fun s hs => (hl s hs).1) (fun s hs => Sample.start_lt_finish (hl s hs)) (.inl rfl) hc

theorem mean_of_reverse_chain (p : Period) {l : List Sample} (hl : ∀ s ∈ l, s.Lasts)
    (hc : l.reverse.IsChain Touches) : mean p l = chainMean p l.reverse :=
  mean_of_ordered p (fun s hs => (hl s hs).1) (fun s hs => Sample.start_lt_finish (hl s hs)) (.inr rfl) hc

theorem mean_of_broken (p : Period) {l : List Sample} (hl : ∀ s ∈ l, Span.zero < s.duration)
    (hc : ¬l.IsChain Touches) (hr : ¬l.reverse.IsChain Touches) :
    ∃ a b, mean p l = .error (.gap a b) := by
  rw [mean_of_positive p hl]
  cases hg : firstGap? (runsBackwards l) l with
  | some ab => exact ⟨_, _, rfl⟩
  | none =>
    exfalso
    cases hb : runsBackwards l with
    | false => exact hc ((firstGap?_forwards_iff l).mp (hb ▸ hg))
    | true => exact hr ((firstGap?_backwards_iff l).mp (hb ▸ hg))

end Series

end CarbonIntensity
