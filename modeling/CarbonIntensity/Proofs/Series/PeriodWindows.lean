import CarbonIntensity.Proofs.Series.Rolling
import CarbonIntensity.Proofs.Series.Weights
import CarbonIntensity.Proofs.Series.Windows
import Mathlib.Algebra.BigOperators.Ring.List
import Mathlib.Algebra.Field.Rat

/-!
# Windows over a period of the data

Windows that are asked for over a period inside the data start and stop with the period, whatever else
the series holds (`rolling_of_reach`). So nothing that is clipped is missed by them,

    rolling ⟨size, p.start, p.stop, tick⟩ (clip p l) = rolling ⟨size, p.start, p.stop, tick⟩ l      (rolling_clip)

and a window of the length of the period is the only one. It is made of the same weights as the mean over
the period, so that both ratings are the same but for the rounding of floats (`rolling_over_period`).
-/

namespace CarbonIntensity

/-- No part of a millisecond has passed. -/
def Instant.onMillisecond (t : Instant) : Bool := t.nano % 1000000 = 0

theorem Instant.ticks_of_onMillisecond {t : Instant} (h : t.onMillisecond = true) : t.ticks % 1000000 = 0 := by
  have hnano : t.nano % 1000000 = 0 := of_decide_eq_true h
  unfold ticks giga
  omega

namespace Series

theorem rolling_of_reach {series : List Sample} {first : Sample} {rest : List Sample} {p : Period}
    {size step : Span} {tick : Option Span} (hsize : Span.zero < size)
    (hchron : chronological series = first :: rest) (hlower : first.start ≤ p.start)
    (hupper : ∃ s ∈ series, p.stop ≤ s.finish)
    (hstride : Windows.stride ⟨size, some p.start, some p.stop, tick⟩ first = step)
    (forward : Span.zero < step) :
    rolling ⟨size, some p.start, some p.stop, tick⟩ series =
      match p.start.add? size with
      | none => .error (.windowOutOfRange size p.start)
      | some _ => (grid size step forward p.stop p.start).filterMapM (window (chronological series)) := by
  subst hstride
  have horigin : Windows.origin ⟨size, some p.start, some p.stop, tick⟩ first = p.start := by
    show max p.start first.start = p.start
    apply Instant.rank_injective
    rw [Instant.rank_max]
    rw [Instant.le_def] at hlower
    omega
  have hlimit : Windows.limit ⟨size, some p.start, some p.stop, tick⟩ first rest = p.stop := by
    obtain ⟨s, hs, hstop⟩ := hupper
    have hwithin := (spans_of_chronological hchron).within s hs
    show min p.stop _ = p.stop
    apply Instant.rank_injective
    rw [Instant.rank_min]
    rw [Instant.le_def] at hstop hwithin
    omega
  have hrolling := rolling_of_chronological (w := ⟨size, some p.start, some p.stop, tick⟩) hsize hchron
  rw [dif_pos forward, horigin, hlimit] at hrolling
  exact hrolling

/-! ## Clipping before windows -/

/-- Clipping takes nothing from a window inside the period. -/
theorem window_clip {p q : Period} (hlower : p.start ≤ q.start) (hupper : q.stop ≤ p.stop)
    (l : List Sample) : window (clip p l) q = window l q := by
  have hinside : inside (clip p l) q = inside l q := by
    refine filter_clip hlower hupper (fun s hs hzero => ?_) l
    have hpos : 0 < (s.overlap q).wholeMillis := of_decide_eq_true hs
    rw [hzero] at hpos
    exact Int.lt_irrefl 0 hpos
  unfold window
  rw [hinside]

/-- The distance between windows is positive whatever is asked for. -/
theorem stride_pos {w : Windows} {first : Sample} (h : Span.zero < first.duration) :
    Span.zero < w.stride first := by
  unfold Windows.stride
  split
  · split
    · assumption
    · exact h
  · exact h

/-- **Clipping before windows.** Over a period of the data, a series in the order of time has the same
windows after clipping, if the distance between them is given or all samples are equally long. -/
theorem rolling_clip {l : List Sample} (hl : ∀ s ∈ l, s.Lasts) (hc : l.IsChain Follows) {p : Period}
    (hp : p.start < p.stop) (hlower : ∃ s ∈ l.head?, s.start ≤ p.start)
    (hupper : ∃ s ∈ l.getLast?, p.stop ≤ s.finish) {size : Span} (hsize : Span.zero < size)
    {tick : Option Span} (htick : (∃ step, tick = some step ∧ Span.zero < step) ∨
      ∀ s ∈ l, ∀ t ∈ l, s.duration = t.duration) :
    rolling ⟨size, some p.start, some p.stop, tick⟩ (clip p l) =
      rolling ⟨size, some p.start, some p.stop, tick⟩ l := by
  obtain ⟨first, hfirst, hlower⟩ := hlower
  obtain ⟨last, hlast, hupper⟩ := hupper
  obtain ⟨rest, rfl⟩ := List.head?_eq_some_iff.mp hfirst
  have htouch := (isChain_follows_iff hl).mp hc
  have hforwards : ∀ s ∈ first :: rest, s.start < s.finish := fun s hs => Sample.start_lt_finish (hl s hs)
  have hstop : p.stop ≤ (extent first rest).stop := by
    rw [List.getLast?_eq_some_getLast (List.cons_ne_nil _ _)] at hlast
    cases hlast
    exact hupper
  obtain ⟨b, kept, hclip, hchain, hinside⟩ :=
    clip_of_chain (fun s hs => Int.le_of_lt (hforwards s hs)) htouch hp hlower hstop
  obtain ⟨hlower', hstop', -, -⟩ := isInside_iff.mp hinside
  have hmem : ∀ s ∈ b :: kept, s ∈ first :: rest := by
    intro s hs
    rw [← hclip] at hs
    exact (mem_clip.mp hs).1
  -- Both series are in the order of time already.
  have hchron : chronological (first :: rest) = first :: rest :=
    chronological_of_perm (start_pairwise_of_chain hforwards htouch) (.refl _)
  have hchron' : chronological (b :: kept) = b :: kept :=
    chronological_of_perm (start_pairwise_of_chain (fun s hs => hforwards s (hmem s hs)) hchain) (.refl _)
  have hstride : Windows.stride ⟨size, some p.start, some p.stop, tick⟩ b =
      Windows.stride ⟨size, some p.start, some p.stop, tick⟩ first := by
    rcases htick with ⟨step, rfl, hstep⟩ | hequal
    · unfold Windows.stride
      simp only
      rw [if_pos hstep, if_pos hstep]
    · unfold Windows.stride
      rw [hequal b (hmem b (by simp)) first (by simp)]
  have forward : Span.zero < Windows.stride ⟨size, some p.start, some p.stop, tick⟩ first :=
    stride_pos (hl first (by simp)).1
  rw [hclip, rolling_of_reach hsize hchron' hlower' ⟨_, List.getLast_mem _, hstop'⟩ hstride forward,
    rolling_of_reach hsize hchron hlower ⟨_, List.getLast_mem _, hstop⟩ rfl forward, hchron, hchron']
  cases p.start.add? size with
  | none => rfl
  | some stop =>
    refine filterMapM_congr fun q hq => ?_
    rw [← hclip]
    exact window_clip (start_le_of_mem_grid hq) (window_of_mem_grid hq).2 _

/-- Four samples and windows of three minutes over six minutes that take part of two of them. -/
theorem rolling_clip_ascending :
    let five : Span := ⟨300000000000, by decide⟩
    let l : List Sample := [⟨"x", Instant.epoch, five, 1.0⟩,
      ⟨"x", ⟨300, 0, by decide, by decide, by decide⟩, five, 2.0⟩,
      ⟨"x", ⟨600, 0, by decide, by decide, by decide⟩, five, 3.0⟩,
      ⟨"x", ⟨900, 0, by decide, by decide, by decide⟩, five, 4.0⟩]
    let p : Period := ⟨⟨420, 7, by decide, by decide, by decide⟩, ⟨780, 0, by decide, by decide, by decide⟩⟩
    let size : Span := ⟨180000000000, by decide⟩
    (∀ s ∈ l, s.Lasts) ∧ l.IsChain Follows ∧ p.start < p.stop ∧ (∃ s ∈ l.head?, s.start ≤ p.start) ∧
      (∃ s ∈ l.getLast?, p.stop ≤ s.finish) ∧ Span.zero < size ∧
      (∀ s ∈ l, ∀ t ∈ l, s.duration = t.duration) ∧ (clip p l).length = 2 ∧
      rolling ⟨size, some p.start, some p.stop, none⟩ (clip p l) =
        rolling ⟨size, some p.start, some p.stop, none⟩ l := by
  intro five l p size
  have hl : ∀ s ∈ l, s.Lasts := by
    have hpos : ∀ s ∈ l, Span.zero < s.duration := by decide
    have hend : ∀ s ∈ l, s.finish?.isSome := by decide
    exact fun s hs => ⟨hpos s hs, hend s hs⟩
  have hc : l.IsChain Follows := by
    refine (isChain_follows_iff hl).mpr ((firstGap?_forwards_iff l).mp ?_)
    have hnone : (firstGap? false l).isNone = true := by decide
    exact Option.isNone_iff_eq_none.mp hnone
  have hlower : ∃ s ∈ l.head?, s.start ≤ p.start := ⟨_, rfl, by decide⟩
  have hupper : ∃ s ∈ l.getLast?, p.stop ≤ s.finish := ⟨_, rfl, by decide⟩
  have hequal : ∀ s ∈ l, ∀ t ∈ l, s.duration = t.duration := by decide
  exact ⟨hl, hc, by decide, hlower, hupper, by decide, hequal, by decide,
    rolling_clip hl hc (by decide) hlower hupper (by decide) (.inr hequal)⟩

/-! ## Weights that count -/

/-- The weights that have milliseconds. -/
def counted (ws : List Weight) : List Weight := ws.filter (0 < ·.millis)

theorem counted_cons (w : Weight) (ws : List Weight) :
    counted (w :: ws) = if 0 < w.millis then w :: counted ws else counted ws := by
  unfold counted
  rw [List.filter_cons]
  simp only [decide_eq_true_eq]

section Counted

variable {ws : List Weight}

theorem sum_counted {M : Type} [AddCommMonoid M] (hws : ∀ w ∈ ws, 0 ≤ w.millis) {f : Weight → M}
    (hf : ∀ w, w.millis = 0 → f w = 0) : ((counted ws).map f).sum = (ws.map f).sum := by
  induction ws with
  | nil => rfl
  | cons w ws ih =>
    have ih := ih (List.forall_mem_of_forall_mem_cons hws)
    have hnonneg := hws w (by simp)
    rw [counted_cons, List.map_cons, List.sum_cons, ← ih]
    by_cases hpos : 0 < w.millis
    · rw [if_pos hpos, List.map_cons, List.sum_cons]
    · rw [if_neg hpos, hf w (by omega), zero_add]

theorem exists_counted (hws : ∀ w ∈ ws, 0 ≤ w.millis) (hsum : (ws.map Weight.millis).sum ≠ 0) :
    ∃ w ∈ ws, 0 < w.millis := by
  by_contra hnone
  refine hsum (List.sum_eq_zero fun m hm => ?_)
  obtain ⟨w, hw, rfl⟩ := List.mem_map.mp hm
  have hnonneg := hws w hw
  have hle : ¬0 < w.millis := fun hlt => hnone ⟨w, hw, hlt⟩
  omega

theorem counted_pos : ∀ w ∈ counted ws, 0 < w.millis := fun _ hw =>
  of_decide_eq_true (List.mem_filter.mp hw).2

/-- Milliseconds that make up a span fit into 64 bits. -/
theorem totalMillis?_counted (hws : ∀ w ∈ ws, 0 ≤ w.millis) {d : Span}
    (hsum : (ws.map Weight.millis).sum = d.wholeMillis) (hd : 0 ≤ d.nanos) :
    Weight.totalMillis? (counted ws) = some d.wholeMillis := by
  have hcounted : ((counted ws).map Weight.millis).sum = d.wholeMillis :=
    (sum_counted hws fun w hw => hw).trans hsum
  have hwhole : d.wholeMillis = d.nanos / 1000000 := Int.tdiv_eq_ediv_of_nonneg hd
  have hfits := d.inRange
  unfold Span.limit at hfits
  rw [Weight.totalMillis?_eq fun w hw => Int.le_of_lt (counted_pos w hw), hcounted, hwhole]
  exact Integer.inWord?_of_lt (by omega) (by rw [twoTo_63]; omega)

/-- Dividing each term is dividing the sum, in exact numbers. -/
theorem sum_counted_div (hws : ∀ w ∈ ws, 0 ≤ w.millis) (value : Float → ℚ) (total : Int) :
    ((counted ws).map fun w => value w.rating * w.millis).sum / total =
      (ws.map fun w => value w.rating * w.millis / total).sum := by
  have hzero : ∀ w : Weight, w.millis = 0 → value w.rating * (w.millis : ℚ) = 0 := by
    intro w hw
    rw [hw, Int.cast_zero, mul_zero]
  rw [sum_counted hws hzero]
  simp only [div_eq_mul_inv]
  exact (List.sum_map_mul_right ..).symm

/-- A window is rated by the weights that count, in the order of its samples. -/
theorem windowWeights_eq_counted (ordered : List Sample) (p : Period) :
    windowWeights ordered p = counted (ordered.map (Weight.ofSample p)) := by
  unfold windowWeights counted
  rw [List.filter_map]
  rfl

theorem window_of_weights {ordered : List Sample} {p : Period}
    (h : ∃ w ∈ ordered.map (Weight.ofSample p), 0 < w.millis) {rating : Float}
    (hrating : Weight.windowMean? (counted (ordered.map (Weight.ofSample p))) = some rating) :
    ∃ location, window ordered p = .ok (some ⟨location, p.start, p.length, rating⟩) := by
  obtain ⟨w, hw, hpos⟩ := h
  obtain ⟨s, hs, rfl⟩ := List.mem_map.mp hw
  have hmem : s ∈ inside ordered p := List.mem_filter.mpr ⟨hs, decide_eq_true hpos⟩
  rw [← windowWeights_eq_counted] at hrating
  unfold windowWeights at hrating
  refine ⟨((inside ordered p).getLast (List.ne_nil_of_mem hmem)).location, ?_⟩
  unfold window
  rw [List.getLast?_eq_some_getLast (List.ne_nil_of_mem hmem)]
  simp only [hrating]

end Counted

/-! ## One window over the period -/

namespace Accepts

variable {p : Period} {l : List Sample} {first : Sample} {rest : List Sample}

theorem weights_nonneg (h : Accepts p l first rest) (hstart : p.start.isLeap = false)
    (hstop : p.stop.isLeap = false) : ∀ w ∈ (first :: rest).map (Weight.ofSample p), 0 ≤ w.millis := by
  intro w hw
  obtain ⟨s, hs, rfl⟩ := List.mem_map.mp hw
  exact Int.tdiv_nonneg (h.nanos_nonneg hstart hstop s hs) (by decide)

/-- A window of the length of the period is the only one. -/
theorem rolling_of_length (h : Accepts p l first rest) (hl : ∀ s ∈ first :: rest, s.Lasts)
    (hp : p.start < p.stop) (hstart : p.start.isLeap = false) (hstop : p.stop.isLeap = false)
    (hsome : ∃ w ∈ (first :: rest).map (Weight.ofSample p), 0 < w.millis) {rating : Float}
    (hrating : Weight.windowMean? (counted ((first :: rest).map (Weight.ofSample p))) = some rating)
    (tick : Option Span) :
    ∃ location, rolling ⟨p.length, some p.start, some p.stop, tick⟩ l =
      .ok [⟨location, p.start, p.length, rating⟩] := by
  have hsize : Span.zero < p.length := by
    have hlength : p.length.nanos = p.stop.ticks - p.start.ticks := Instant.nanos_since hstop hstart
    have hpos := (Instant.lt_iff_ticks_lt hstart hstop).mp hp
    rw [Span.lt_def, Span.nanos_zero]
    omega
  have hforwards : ∀ s ∈ first :: rest, s.start < s.finish := fun s hs => Sample.start_lt_finish (hl s hs)
  have hchron : chronological l = first :: rest :=
    chronological_of_perm (start_pairwise_of_chain hforwards h.chain) h.perm.symm
  have hreach : ∃ s ∈ l, p.stop ≤ s.finish :=
    ⟨_, h.mem_iff.mp (List.getLast_mem (List.cons_ne_nil _ _)), h.stop_le⟩
  have hadd : p.start.add? p.length = some p.stop := Instant.add?_since hstart hstop
  obtain ⟨location, hwindow⟩ := window_of_weights hsome hrating
  refine ⟨location, ?_⟩
  rw [rolling_of_reach hsize hchron h.start_le hreach rfl (stride_pos (h.positive first (by simp))), hadd,
    grid_of_limit _ hstart hadd, hchron]
  show [p].filterMapM (window (first :: rest)) = _
  rw [List.filterMapM_cons, hwindow]
  rfl

end Accepts

/-- The mean of a series over a period and the only window of the series there, made of one list of
weights in the order of time. -/
structure OneWindow (w : Windows) (p : Period) (l ordered : List Sample) (window : Sample) : Prop where
  order : ordered = l ∨ ordered = l.reverse
  chain : ordered.IsChain Follows
  mean_eq : mean p l = .ok (Weight.periodMean (Float.ofInt p.length.wholeMillis)
    (ordered.map (Weight.ofSample p)))
  rolling_eq : rolling w l = .ok [window]
  start : window.start = p.start
  duration : window.duration = p.length
  rating : Weight.windowMean? (counted (ordered.map (Weight.ofSample p))) = some window.rating
  /-- What the window is divided by is what the mean is divided by. -/
  covered : Weight.totalMillis? (counted (ordered.map (Weight.ofSample p))) = some p.length.wholeMillis
  /-- In exact numbers, whatever numbers the ratings are read as, the window is rated as the mean. -/
  alike (value : Float → ℚ) :
    ((counted (ordered.map (Weight.ofSample p))).map fun w => value w.rating * w.millis).sum /
        p.length.wholeMillis =
      ((ordered.map (Weight.ofSample p)).map fun w => value w.rating * w.millis / p.length.wholeMillis).sum

/-- **The mean as a window.** Where samples and period start and stop at whole milliseconds, a series with
samples that has a mean over the period has one window of the length of the period there, made of the
weights of the mean. A series without samples has no window. -/
theorem rolling_over_period {p : Period} {l : List Sample} {r : Float} (h : mean p l = .ok r)
    (hp : p.start < p.stop) (ends : ∀ s ∈ l, s.finish?.isSome) (hstart : p.start.isLeap = false)
    (hstop : p.stop.isLeap = false) (hstarts : ∀ s ∈ l, s.start.onMillisecond = true)
    (hlower : p.start.onMillisecond = true) (hupper : p.stop.onMillisecond = true) (tick : Option Span) :
    (l = [] ∧ rolling ⟨p.length, some p.start, some p.stop, tick⟩ l = .ok []) ∨
      ∃ ordered window, OneWindow ⟨p.length, some p.start, some p.stop, tick⟩ p l ordered window := by
  by_cases hne : l = []
  · left
    subst hne
    exact ⟨rfl, rolling_nil _⟩
  right
  obtain ⟨first, rest, haccepts⟩ := accepts_of_mean hne h
  have hl : ∀ s ∈ first :: rest, s.Lasts := fun s hs =>
    ⟨haccepts.positive s hs, ends s (haccepts.mem_iff.mp hs)⟩
  have hlength : p.length.nanos = p.stop.ticks - p.start.ticks := Instant.nanos_since hstop hstart
  have hpos := (Instant.lt_iff_ticks_lt hstart hstop).mp hp
  have hlower' := Instant.ticks_of_onMillisecond hlower
  have hupper' := Instant.ticks_of_onMillisecond hupper
  -- The period is whole milliseconds, at least one, and all of them are in the weights.
  have hdivides := haccepts.divides hp hstart hstop
  have htotal : p.length.wholeMillis ≠ 0 := hdivides.divisor.mpr (by omega)
  have hsum : (((first :: rest).map (Weight.ofSample p)).map Weight.millis).sum = p.length.wholeMillis := by
    refine hdivides.aligned fun s hs _ _ => ?_
    have hticks := Instant.ticks_of_onMillisecond (hstarts s hs)
    omega
  have hweights := haccepts.weights_nonneg hstart hstop
  have hsome := exists_counted hweights (hsum.trans_ne htotal)
  have hcovered := totalMillis?_counted hweights hsum (by omega)
  obtain ⟨rating, hrating⟩ : ∃ rating,
      Weight.windowMean? (counted ((first :: rest).map (Weight.ofSample p))) = some rating :=
    ⟨_, Weight.windowMean?_of_totalMillis? hcovered⟩
  obtain ⟨location, hrolling⟩ := haccepts.rolling_of_length hl hp hstart hstop hsome hrating tick
  refine ⟨first :: rest, ⟨location, p.start, p.length, rating⟩, ?_⟩
  constructor
  case order => exact haccepts.order
  case chain => exact (isChain_follows_iff hl).mpr haccepts.chain
  case mean_eq => exact haccepts.mean_of_lasting hp
  case rolling_eq => exact hrolling
  case start => rfl
  case duration => rfl
  case rating => exact hrating
  case covered => exact hcovered
  case alike => exact fun value => sum_counted_div hweights value _

/-- Two samples listed backwards, and a period that has a part of both. -/
theorem rolling_over_period_descending :
    let five : Span := ⟨300000000000, by decide⟩
    let l : List Sample :=
      [⟨"x", ⟨300, 0, by decide, by decide, by decide⟩, five, 2.0⟩, ⟨"x", Instant.epoch, five, 1.0⟩]
    let p : Period :=
      ⟨⟨120, 0, by decide, by decide, by decide⟩, ⟨420, 1000000, by decide, by decide, by decide⟩⟩
    p.start < p.stop ∧ (∀ s ∈ l, s.finish?.isSome) ∧ p.start.isLeap = false ∧ p.stop.isLeap = false ∧
      (∀ s ∈ l, s.start.onMillisecond = true) ∧ p.start.onMillisecond = true ∧
      p.stop.onMillisecond = true ∧ ∃ r, mean p l = .ok r ∧
        ∃ ordered window, OneWindow ⟨p.length, some p.start, some p.stop, none⟩ p l ordered window := by
  intro five l p
  have ends : ∀ s ∈ l, s.finish?.isSome := by decide
  have hstarts : ∀ s ∈ l, s.start.onMillisecond = true := by decide
  obtain ⟨r, h⟩ : ∃ r, mean p l = .ok r := ok_of_isSome (by decide +kernel)
  have hwindow := rolling_over_period h (by decide) ends (by decide) (by decide) hstarts (by decide)
    (by decide) none
  exact ⟨by decide, ends, by decide, by decide, hstarts, by decide, by decide, r, h,
    hwindow.resolve_left fun hnil => List.cons_ne_nil _ _ hnil.1⟩

/-- No samples have a mean over five minutes, but no window. -/
theorem no_window_of_nothing :
    let p : Period := ⟨Instant.epoch, ⟨300, 0, by decide, by decide, by decide⟩⟩
    p.start < p.stop ∧ p.start.onMillisecond = true ∧ p.stop.onMillisecond = true ∧ mean p [] = .ok 0.0 ∧
      ¬∃ window, rolling ⟨p.length, some p.start, some p.stop, none⟩ [] = .ok [window] := by
  refine ⟨by decide, by decide, by decide, rfl, ?_⟩
  rintro ⟨window, h⟩
  rw [rolling_nil] at h
  cases h

end Series

end CarbonIntensity
