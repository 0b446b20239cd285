import CarbonIntensity.Proofs.Lists
import CarbonIntensity.Proofs.Series.Chronological
import CarbonIntensity.Proofs.Series.Grid
import CarbonIntensity.Proofs.Series.Rolling

/-!
# Rolling windows in closed form

The windows that are kept are those of the grid in which some sample has a whole millisecond. With the
first sample in the order of time, the end of the data, and

    t₀ = w.origin first,  tick = w.stride first,  stop = w.lastStop dataStop

the windows given out are, in the order of `k`, one for each `k` with `t₀ + k·tick + size ≤ stop` and
such a sample, each rated with the mean weighted by its milliseconds (`rolling_windows`).

Milliseconds are added up in 64 bits. If those of some window of the grid do not fit into them, no window
at all is given out, although the means are there (`rolling_overflows`).
-/

namespace CarbonIntensity

/-! ## Samples with a whole millisecond -/

/-- The sample has a whole millisecond between two counts of ticks. -/
def Sample.hasPart (lower upper : Int) (s : Sample) : Bool := 1000000 ≤ s.shared lower upper

namespace Series

/-- The ratings of the samples with a whole millisecond between two counts of ticks, each with the whole
milliseconds that it has there. -/
def weightsBetween (series : List Sample) (lower upper : Int) : List Weight :=
  (series.map fun s => ⟨s.rating, s.shared lower upper / 1000000⟩).filter (0 < ·.millis)

variable {lower upper : Int} {p : Period}

theorem wholeMillis_overlap {s : Sample} (hs : s.start.isLeap = false) (hp : p.Between lower upper) :
    (s.overlap p).wholeMillis = s.shared lower upper / 1000000 := by
  unfold Span.wholeMillis
  rw [Sample.nanos_overlap hs hp.steadyStart hp.steadyStop, hp.start, hp.stop]
  exact Int.tdiv_eq_ediv_of_nonneg (s.shared_nonneg lower upper)

theorem inside_between {ordered : List Sample} (hs : ∀ s ∈ ordered, s.start.isLeap = false)
    (hp : p.Between lower upper) : inside ordered p = ordered.filter (·.hasPart lower upper) := by
  apply List.filter_congr
  intro s hmem
  rw [wholeMillis_overlap (hs s hmem) hp]
  unfold Sample.hasPart
  rw [decide_eq_decide]
  omega

/-- The weights of a window are those of the samples with a part in it. -/
theorem windowWeights_between {ordered : List Sample} (hs : ∀ s ∈ ordered, s.start.isLeap = false)
    (hp : p.Between lower upper) : windowWeights ordered p = weightsBetween ordered lower upper := by
  have hfilter : ordered.filter (·.hasPart lower upper) =
      ordered.filter ((fun w : Weight => decide (0 < w.millis)) ∘ fun s =>
        ⟨s.rating, s.shared lower upper / 1000000⟩) := by
    apply List.filter_congr
    intro s _
    unfold Sample.hasPart
    rw [Function.comp_apply, decide_eq_decide]
    show _ ↔ 0 < s.shared lower upper / 1000000
    omega
  unfold windowWeights weightsBetween
  rw [inside_between hs hp, List.filter_map, ← hfilter]
  apply List.map_congr_left
  intro s hmem
  unfold Weight.ofSample
  rw [wholeMillis_overlap (hs s (List.mem_filter.mp hmem).1) hp]

theorem exactWindow?_between {ordered : List Sample} (hs : ∀ s ∈ ordered, s.start.isLeap = false)
    (hp : p.Between lower upper) :
    exactWindow? ordered p = (ordered.filter (·.hasPart lower upper)).getLast?.map fun last =>
      ⟨last.location, p.start, p.length, Weight.exactMean (weightsBetween ordered lower upper)⟩ := by
  unfold exactWindow?
  rw [inside_between hs hp, windowWeights_between hs hp]

/-- The milliseconds that samples have between two counts of ticks do not depend on their order. -/
theorem sum_weightsBetween_of_perm {l l' : List Sample} (h : l.Perm l') (lower upper : Int) :
    ((weightsBetween l lower upper).map Weight.millis).sum =
      ((weightsBetween l' lower upper).map Weight.millis).sum :=
  (((h.map _).filter _).map _).sum_eq

/-- A window of samples in the order of time that starts at a count of ticks. -/
structure WindowAt (ordered : List Sample) (size : Span) (lower : Int) (s : Sample) : Prop where
  steady : s.start.isLeap = false
  start : s.start.ticks = lower
  duration : s.duration = size
  /-- It is placed where the last sample with a part in it is. -/
  location : (ordered.filter (·.hasPart lower (lower + size.nanos))).getLast?.map (·.location) =
    some s.location
  rating : s.rating = Weight.exactMean (weightsBetween ordered lower (lower + size.nanos))

/-- The window of a period is there exactly if some sample has a part in the period. -/
theorem exactWindow?_rel {ordered : List Sample} (hs : ∀ s ∈ ordered, s.start.isLeap = false) {size : Span}
    (starts : Nat → Int) (k : Nat) (hp : p.Between (starts k) (starts k + size.nanos)) :
    Option.Rel (fun k s => WindowAt ordered size (starts k) s)
      (Option.guard (fun k => ordered.any (·.hasPart (starts k) (starts k + size.nanos))) k)
      (exactWindow? ordered p) := by
  rw [exactWindow?_between hs hp]
  unfold Option.guard
  cases hlast : (ordered.filter (·.hasPart (starts k) (starts k + size.nanos))).getLast? with
  | none =>
    have hnone := List.filter_eq_nil_iff.mp (List.getLast?_eq_none_iff.mp hlast)
    rw [if_neg (by rw [List.any_eq_true]; exact fun ⟨s, hmem, hpart⟩ => hnone s hmem hpart)]
    exact .none
  | some last =>
    have hmem := List.mem_filter.mp (List.mem_of_getLast? hlast)
    rw [if_pos (List.any_eq_true.mpr ⟨last, hmem⟩), Option.map_some]
    apply Option.Rel.some
    constructor
    case steady => exact hp.steadyStart
    case start => exact hp.start
    case duration =>
      apply Span.eq_of_nanos
      show (p.stop.since p.start).nanos = size.nanos
      rw [Instant.nanos_since hp.steadyStop hp.steadyStart, hp.start, hp.stop]
      omega
    case location =>
      rw [hlast]
      rfl
    case rating => rfl

/-! ## The windows of a series -/

/-- What is given out of a grid: for each `k` whose window stops in time and has a part of some sample,
in the order of `k`, that window. -/
structure Resampled (series : List Sample) (size tick : Span) (origin stop : Instant) (ks : List Nat)
    (windows : List Sample) : Prop where
  increasing : ks.Pairwise (· < ·)
  mem (k : Nat) : k ∈ ks ↔ origin.ticks + k * tick.nanos + size.nanos ≤ stop.ticks ∧
    ∃ s ∈ series, s.hasPart (origin.ticks + k * tick.nanos)
      (origin.ticks + k * tick.nanos + size.nanos) = true
  each : List.Forall₂ (fun (k : Nat) s =>
    WindowAt (chronological series) size (origin.ticks + k * tick.nanos) s) ks windows

theorem resampled_grid {series : List Sample} {size tick : Span} (forward : Span.zero < tick)
    {stop origin : Instant} (hsize : Span.zero ≤ size) (hseries : ∀ s ∈ series, s.start.isLeap = false)
    (hstop : stop.isLeap = false) (horigin : origin.isLeap = false) :
    ∃ ks, Resampled series size tick origin stop ks
      ((grid size tick forward stop origin).filterMap (exactWindow? (chronological series))) := by
  have hmem : ∀ s, s ∈ chronological series ↔ s ∈ series := fun s =>
    (chronological_perm series).mem_iff
  obtain ⟨n, hn, hgrid⟩ := grid_between forward hsize hstop horigin
  refine ⟨(List.range n).filter fun (k : Nat) => (chronological series).any
    (·.hasPart (origin.ticks + k * tick.nanos) (origin.ticks + k * tick.nanos + size.nanos)), ?_⟩
  constructor
  case increasing => exact List.pairwise_lt_range.filter _
  case mem =>
    intro k
    rw [List.mem_filter, List.mem_range, hn k, List.any_eq_true]
    constructor
    · rintro ⟨hle, s, hs, hpart⟩
      exact ⟨hle, s, (hmem s).mp hs, hpart⟩
    · rintro ⟨hle, s, hs, hpart⟩
      exact ⟨hle, s, (hmem s).mpr hs, hpart⟩
  case each =>
    rw [← List.filterMap_eq_filter]
    have hs : ∀ s ∈ chronological series, s.start.isLeap = false := fun s h => hseries s ((hmem s).mp h)
    exact List.rel_filterMap
      (fun k p hp => exactWindow?_rel hs (fun k => origin.ticks + k * tick.nanos) k hp) hgrid

/-- Some window of the grid has milliseconds that do not fit into 64 bits. -/
def Overflows (series : List Sample) (size tick : Span) (origin stop : Instant) : Prop :=
  ∃ k : Nat, origin.ticks + k * tick.nanos + size.nanos ≤ stop.ticks ∧
    twoTo 63 ≤ ((weightsBetween series (origin.ticks + k * tick.nanos)
      (origin.ticks + k * tick.nanos + size.nanos)).map Weight.millis).sum

/-- A window has at most its own length of every sample. -/
theorem not_overflows_of_length {series : List Sample} {size : Span} (hsize : Span.zero ≤ size)
    (hfits : series.length * (size.nanos / 1000000) < twoTo 63) (tick : Span) (origin stop : Instant) :
    ¬Overflows series size tick origin stop := by
  have hpos : 0 ≤ size.nanos := hsize
  rintro ⟨k, -, hlarge⟩
  generalize origin.ticks + k * tick.nanos = lower at hlarge
  have hparts : ∀ millis ∈ (weightsBetween series lower (lower + size.nanos)).map Weight.millis,
      millis ≤ size.nanos / 1000000 := by
    intro millis hmillis
    obtain ⟨w, hw, rfl⟩ := List.mem_map.mp hmillis
    obtain ⟨s, -, rfl⟩ := List.mem_map.mp (List.mem_filter.mp hw).1
    show s.shared lower (lower + size.nanos) / 1000000 ≤ size.nanos / 1000000
    unfold Sample.shared
    omega
  have hsum := List.sum_le_card_nsmul _ _ hparts
  have hcount : (weightsBetween series lower (lower + size.nanos)).length ≤ series.length := by
    unfold weightsBetween
    refine (List.length_filter_le ..).trans ?_
    rw [List.length_map]
  have hmore := Int.mul_le_mul_of_nonneg_right (Int.ofNat_le.mpr hcount)
    (show 0 ≤ size.nanos / 1000000 by omega)
  rw [nsmul_eq_mul, List.length_map] at hsum
  omega

theorem fits_grid_iff {series : List Sample} {size tick : Span} (forward : Span.zero < tick)
    {stop origin : Instant} (hsize : Span.zero ≤ size) (hseries : ∀ s ∈ series, s.start.isLeap = false)
    (hstop : stop.isLeap = false) (horigin : origin.isLeap = false) :
    (∀ p ∈ grid size tick forward stop origin, Fits (chronological series) p) ↔
      ¬Overflows series size tick origin stop := by
  have hperm := chronological_perm series
  have hs : ∀ s ∈ chronological series, s.start.isLeap = false := fun s h => hseries s (hperm.mem_iff.mp h)
  obtain ⟨n, hn, hgrid⟩ := grid_between forward hsize hstop horigin
  have hfits : ∀ (k : Nat) (p : Period), p.Between (origin.ticks + k * tick.nanos)
      (origin.ticks + k * tick.nanos + size.nanos) → (Fits (chronological series) p ↔
        ((weightsBetween series (origin.ticks + k * tick.nanos)
          (origin.ticks + k * tick.nanos + size.nanos)).map Weight.millis).sum < twoTo 63) := by
    intro k p hp
    unfold Fits
    rw [windowWeights_between hs hp, sum_weightsBetween_of_perm hperm]
  rw [← forall_mem_iff_of_forall₂ hgrid fun k p hp => (hfits k p hp).symm]
  unfold Overflows
  simp only [List.mem_range, hn, not_exists, not_and, Int.not_le]

namespace Windows

/-- The instant after which no window stops, given the end of the data. -/
def lastStop (w : Windows) (dataStop : Instant) : Instant :=
  match w.stop with
  | some stop => min stop dataStop
  | none => dataStop

variable {w : Windows}

theorem isLeap_lastStop (hstop : ∀ t, w.stop = some t → t.isLeap = false) {dataStop : Instant}
    (hdata : dataStop.isLeap = false) : (w.lastStop dataStop).isLeap = false := by
  unfold lastStop
  split
  · next stop heq => exact Instant.isLeap_min (hstop stop heq) hdata
  · exact hdata

theorem isLeap_origin (hstart : ∀ t, w.start = some t → t.isLeap = false) {first : Sample}
    (hfirst : first.start.isLeap = false) : (w.origin first).isLeap = false := by
  unfold origin
  split
  · next start heq => exact Instant.isLeap_max (hstart start heq) hfirst
  · exact hfirst

end Windows

theorem rolling_of_chronological {w : Windows} {series : List Sample} (hsize : Span.zero < w.size)
    {first : Sample} {rest : List Sample} (h : chronological series = first :: rest) :
    rolling w series =
      if forward : Span.zero < w.stride first then
        match (w.origin first).add? w.size with
        | none => .error (.windowOutOfRange w.size (w.origin first))
        | some _ =>
          (grid w.size (w.stride first) forward (w.limit first rest) (w.origin first)).filterMapM
            (window (chronological series))
      else .error (.noTick first) := by
  have hpos : ¬w.size ≤ Span.zero := Int.not_le.mpr hsize
  unfold rolling
  rw [if_neg hpos]
  generalize chronological series = ordered at h ⊢
  subst h
  rfl

/-- A series with samples is invalid exactly if its windows are no positive distance apart or the first one
ends out of range. -/
theorem rolling_invalid_iff {w : Windows} {series : List Sample} (hsize : Span.zero < w.size)
    {first : Sample} {rest : List Sample} (hchron : chronological series = first :: rest) :
    (∃ reason, rolling w series = .error (.invalid reason)) ↔
      w.stride first ≤ Span.zero ∨ (w.origin first).add? w.size = none := by
  rw [rolling_of_chronological hsize hchron]
  by_cases forward : Span.zero < w.stride first
  · rw [dif_pos forward]
    cases hadd : (w.origin first).add? w.size with
    | none => exact ⟨fun _ => .inr rfl, fun _ => ⟨_, rfl⟩⟩
    | some stop =>
      constructor
      · rintro ⟨reason, h⟩
        exact absurd h (filterMapM_window_ne_invalid reason)
      · rintro (hback | hnone)
        · exact absurd forward (Int.not_lt.mpr hback)
        · cases hnone
  · rw [dif_neg forward]
    exact ⟨fun _ => .inl (Int.not_lt.mp forward), fun _ => ⟨_, rfl⟩⟩

/-- A series with samples whose first window ends in range either has a window whose milliseconds do not
fit, and then none, or the windows of its grid. -/
theorem rolling_resampled {w : Windows} {series : List Sample} (hsize : Span.zero < w.size)
    (hseries : ∀ s ∈ series, s.start.isLeap = false)
    (hstart : ∀ t, w.start = some t → t.isLeap = false)
    (hstop : ∀ t, w.stop = some t → t.isLeap = false) {first : Sample} {rest : List Sample}
    (hchron : chronological series = first :: rest) (forward : Span.zero < w.stride first)
    (hadd : ((w.origin first).add? w.size).isSome = true) :
    (Overflows series w.size (w.stride first) (w.origin first) (w.limit first rest) →
        rolling w series = .error .overflow) ∧
      (¬Overflows series w.size (w.stride first) (w.origin first) (w.limit first rest) →
        ∃ ks windows, rolling w series = .ok windows ∧
          Resampled series w.size (w.stride first) (w.origin first) (w.limit first rest) ks windows) := by
  obtain ⟨stop, hadd⟩ := Option.isSome_iff_exists.mp hadd
  have hspans := spans_of_chronological hchron
  have hdata : (rest.foldl (fun t s => max t s.finish) first.finish).isLeap = false := by
    obtain ⟨s, hs, hfinish⟩ := hspans.reached
    rw [← hfinish]
    exact Sample.isLeap_finish (hseries s hs)
  have hfirst : first.start.isLeap = false := hseries first (List.mem_of_find?_eq_some hspans.first)
  have hlimit := Windows.isLeap_lastStop hstop hdata
  have horigin := Windows.isLeap_origin hstart hfirst
  have hrolling := rolling_of_chronological hsize hchron
  rw [dif_pos forward, hadd] at hrolling
  have hfits := fits_grid_iff forward (Int.le_of_lt hsize) hseries hlimit horigin
  constructor
  · intro hover
    refine hrolling.trans (filterMapM_window_of_not_fits ?_)
    by_contra hnone
    refine hfits.mp (fun p hp => ?_) hover
    by_contra hlarge
    exact hnone ⟨p, hp, hlarge⟩
  · intro hover
    obtain ⟨ks, hks⟩ := resampled_grid forward (Int.le_of_lt hsize) hseries hlimit horigin
    exact ⟨ks, _, hrolling.trans (filterMapM_window_of_fits (hfits.mpr hover)), hks⟩

/-- **Windows in closed form.** A series with samples is invalid exactly if its windows are no positive
distance apart or the first one ends out of range. Otherwise the windows are given out one for each step of
the grid that has a part of some sample, unless the milliseconds of one of them do not fit into 64 bits. In
that case there are none at all. -/
theorem rolling_windows {w : Windows} {series : List Sample} (hsize : Span.zero < w.size)
    (hseries : ∀ s ∈ series, s.start.isLeap = false)
    (hstart : ∀ t, w.start = some t → t.isLeap = false)
    (hstop : ∀ t, w.stop = some t → t.isLeap = false) :
    (series = [] ∧ rolling w series = .ok []) ∨
      ∃ first dataStop, Spans series first dataStop ∧
        ((∃ reason, rolling w series = .error (.invalid reason)) ↔
          w.stride first ≤ Span.zero ∨ (w.origin first).add? w.size = none) ∧
        (Span.zero < w.stride first → ((w.origin first).add? w.size).isSome = true →
          (Overflows series w.size (w.stride first) (w.origin first) (w.lastStop dataStop) →
            rolling w series = .error .overflow) ∧
          (¬Overflows series w.size (w.stride first) (w.origin first) (w.lastStop dataStop) →
            ∃ ks windows, rolling w series = .ok windows ∧
              Resampled series w.size (w.stride first) (w.origin first) (w.lastStop dataStop) ks
                windows)) := by
  cases hchron : chronological series with
  | nil =>
    have hperm := chronological_perm series
    rw [hchron] at hperm
    obtain rfl := List.nil_perm.mp hperm
    exact .inl ⟨rfl, rolling_nil w⟩
  | cons first rest =>
    exact .inr ⟨first, _, spans_of_chronological hchron, rolling_invalid_iff hsize hchron,
      rolling_resampled hsize hseries hstart hstop hchron⟩

/-- Windows of ten minutes every five, over two samples of five minutes that leave five minutes out
between them. -/
theorem rolling_windows_around_gap :
    let five : Span := ⟨300000000000, by decide⟩
    let ten : Span := ⟨600000000000, by decide⟩
    let later : Instant := ⟨600, 0, by decide, by decide, by decide⟩
    let series : List Sample := [⟨"x", later, five, 2.0⟩, ⟨"x", Instant.epoch, five, 1.0⟩]
    let w : Windows := ⟨ten, none, none, none⟩
    Span.zero < w.size ∧ (∀ s ∈ series, s.start.isLeap = false) ∧
      (∀ t, w.start = some t → t.isLeap = false) ∧ (∀ t, w.stop = some t → t.isLeap = false) ∧
      ∃ first dataStop, Spans series first dataStop ∧
        ∃ ks windows, rolling w series = .ok windows ∧
          Resampled series ten five Instant.epoch dataStop ks windows := by
  intro five ten later series w
  have hsize : Span.zero < w.size := by decide
  have hseries : ∀ s ∈ series, s.start.isLeap = false := by decide
  have hstart : ∀ t, w.start = some t → t.isLeap = false := fun t h => by cases h
  have hstop : ∀ t, w.stop = some t → t.isLeap = false := fun t h => by cases h
  refine ⟨hsize, hseries, hstart, hstop, ?_⟩
  rcases rolling_windows hsize hseries hstart hstop with ⟨hnil, -⟩ | ⟨first, dataStop, hspans, -, hwindows⟩
  · exact absurd hnil (List.cons_ne_nil _ _)
  · have hfirst : first = ⟨"x", Instant.epoch, five, 1.0⟩ := by
      have hfind : series.find? (isEarliest series) = some ⟨"x", Instant.epoch, five, 1.0⟩ := rfl
      rw [hspans.first] at hfind
      exact Option.some.inj hfind
    subst hfirst
    have hfits : ¬Overflows series ten five Instant.epoch dataStop :=
      not_overflows_of_length (by decide) (by decide) five Instant.epoch dataStop
    exact ⟨_, dataStop, hspans, (hwindows (by decide) (by decide)).2 hfits⟩

/-! ## Copies of one sample -/

/-- Copies of a sample have no window of its length if their milliseconds do not fit. -/
theorem rolling_replicate {s : Sample} (hs : s.start.isLeap = false) (hsize : Span.zero < s.duration)
    {stop : Instant} (hadd : s.start.add? s.duration = some stop) (n : Nat)
    (hlarge : twoTo 63 ≤ ((weightsBetween (List.replicate (n + 1) s) s.start.ticks
      (s.start.ticks + s.duration.nanos)).map Weight.millis).sum) :
    rolling ⟨s.duration, none, none, none⟩ (List.replicate (n + 1) s) = .error .overflow := by
  have hfinish : s.finish = stop := by
    unfold Sample.finish Sample.finish?
    rw [hadd]
    rfl
  have hchron : chronological (List.replicate (n + 1) s) = s :: List.replicate n s := by
    apply List.mergeSort_of_pairwise
    rw [List.pairwise_replicate]
    exact .inr (decide_eq_true (Int.le_refl s.start.rank))
  have hlimit : Windows.limit ⟨s.duration, none, none, none⟩ s (List.replicate n s) = stop := by
    show (List.replicate n s).foldl (fun t s => max t s.finish) s.finish = stop
    obtain ⟨-, -, heq | ⟨t, ht, heq⟩⟩ := foldl_max_finish (List.replicate n s) s.finish
    · exact heq.trans hfinish
    · rw [List.eq_of_mem_replicate ht] at heq
      exact heq.symm.trans hfinish
  have hresampled := rolling_resampled (w := ⟨s.duration, none, none, none⟩) hsize
    (fun t ht => by rw [List.eq_of_mem_replicate ht]; exact hs) (fun t h => by cases h)
    (fun t h => by cases h) hchron hsize (Option.isSome_of_eq_some hadd)
  have hticks := Instant.ticks_of_add? hs hadd
  refine hresampled.1 ⟨0, ?_, ?_⟩
  · rw [hlimit]
    show s.start.ticks + ((0 : Nat) : Int) * s.duration.nanos + s.duration.nanos ≤ stop.ticks
    omega
  · show _ ≤ ((weightsBetween _ (s.start.ticks + ((0 : Nat) : Int) * s.duration.nanos)
      (s.start.ticks + ((0 : Nat) : Int) * s.duration.nanos + s.duration.nanos)).map Weight.millis).sum
    rwa [show s.start.ticks + ((0 : Nat) : Int) * s.duration.nanos = s.start.ticks by omega]

/-- All samples last from the first instant to the last and are rated one, so that their mean is one. Their
milliseconds do not fit into 64 bits, and there is no window over them. -/
theorem rolling_overflows :
    let age : Span := ⟨16544868105599999999999, by decide⟩
    let series : List Sample := List.replicate 558 ⟨"x", Instant.earliest, age, 1.0⟩
    rolling ⟨age, none, none, none⟩ series = .error .overflow ∧
      Weight.exactMean (weightsBetween series Instant.earliest.ticks Instant.latest.ticks) = 1.0 := by
  intro age series
  let weight : Weight := ⟨1.0, 16544868105599999⟩
  have hweights : weightsBetween series Instant.earliest.ticks Instant.latest.ticks =
      List.replicate 558 weight := by
    unfold weightsBetween
    rw [List.map_replicate, List.filter_replicate_of_pos (by decide)]
    exact congrArg (fun millis => List.replicate 558 (Weight.mk 1.0 millis)) (by decide)
  have hmillis : ((List.replicate 558 weight).map Weight.millis).sum = 9232036402924799442 := by
    decide +kernel
  constructor
  · refine rolling_replicate (s := ⟨"x", Instant.earliest, age, 1.0⟩) (by decide) (by decide)
      (show Instant.earliest.add? age = some Instant.latest by decide) 557 ?_
    show _ ≤ ((weightsBetween series Instant.earliest.ticks (Instant.earliest.ticks + age.nanos)).map
      Weight.millis).sum
    rw [show Instant.earliest.ticks + age.nanos = Instant.latest.ticks by decide, hweights, hmillis]
    decide
  · have hproducts : (List.replicate 558 weight).foldl (fun sum w => sum + w.product) 0.0 =
        Float.ofInt 9232036402924800000 := by
      have hthird : (List.replicate 186 weight).foldl (fun sum w => sum + w.product) 0.0 =
          Float.ofInt 3077345467641600000 := by decide +kernel
      have hsecond : (List.replicate 186 weight).foldl (fun sum w => sum + w.product)
          (Float.ofInt 3077345467641600000) = Float.ofInt 6154690935283200000 := by decide +kernel
      have hlast : (List.replicate 186 weight).foldl (fun sum w => sum + w.product)
          (Float.ofInt 6154690935283200000) = Float.ofInt 9232036402924800000 := by decide +kernel
      rw [show (558 : Nat) = 186 + 186 + 186 from rfl, foldl_replicate_add, foldl_replicate_add, hthird,
        hsecond, hlast]
    unfold Weight.exactMean
    rw [hweights, hproducts, hmillis]
    decide +kernel

end Series

end CarbonIntensity
