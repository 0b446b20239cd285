import CarbonIntensity.Proofs.Series.Optimum
import CarbonIntensity.Proofs.Series.Rolling
import CarbonIntensity.Service.Forecast

/-!
# Processed forecasts

A forecast that was processed covers the asked period, which lies in its horizon. Its windows have the
asked size, lie in the period and follow one another, and the best of them are picked:

    process names p f = .ok g → Windowed horizon asked p.windowSize g      (process_windowed)

A window whose rating is no number is never among the best, not even if there are no others
(process_optimal_of_nan).
-/

namespace CarbonIntensity.ForecastService

/-- What can be relied on of a processed forecast. -/
structure Windowed (horizon asked : Period) (size : Span) (g : Forecast) : Prop where
  /-- The asked period has a length and lies in the horizon. -/
  inHorizon : horizon.start ≤ asked.start ∧ asked.start < asked.stop ∧ asked.stop ≤ horizon.stop
  bounds : g.dataStart = some asked.start ∧ g.dataStop = some asked.stop
  /-- Every window has the asked size, and it starts and ends in the asked period. -/
  inPeriod : ∀ s ∈ g.data,
    s.duration = size ∧ asked.start ≤ s.start ∧ ∃ e, s.finish? = some e ∧ e ≤ asked.stop
  increasing : g.data.Pairwise fun s t => s.start < t.start
  windowSize : g.windowSize = if g.data.isEmpty then Span.zero else size
  optimal : g.optimal = g.data.filter fun s => Series.IsBest g.data s
  sublist : g.optimal.Sublist g.data

/-! ## Lemmas -/

theorem horizon?_eq_some (data : List Sample) (hne : data ≠ []) :
    horizon? data = some ⟨(data.head hne).start, (data.getLast hne).finish⟩ := by
  unfold horizon?
  rw [List.head?_eq_some_head hne, List.getLast?_eq_some_getLast hne]

theorem holds_iff (p : Period) (t : Instant) : p.holds t = true ↔ p.start ≤ t ∧ t ≤ p.stop := by
  unfold Period.holds
  rw [Bool.and_eq_true, decide_eq_true_iff, decide_eq_true_iff]

/-- Nothing is reported of a period that has a length and lies in the horizon only. -/
theorem rangeFindings_isEmpty {names : DisplayNames} {asked horizon : Period}
    (h : (rangeFindings names asked horizon).isEmpty = true) :
    horizon.start ≤ asked.start ∧ asked.start < asked.stop ∧ asked.stop ≤ horizon.stop := by
  unfold rangeFindings at h
  obtain ⟨hfirst, hstop⟩ := List.append_eq_nil_iff.mp (List.isEmpty_iff.mp h)
  obtain ⟨horder, hstart⟩ := List.append_eq_nil_iff.mp hfirst
  have hlt : ¬asked.stop ≤ asked.start := fun hle => by
    rw [if_pos hle] at horder
    cases horder
  have hholds : horizon.holds asked.start = true := by
    by_contra hout
    rw [if_neg hout] at hstart
    cases hstart
  have hholds' : horizon.holds asked.stop = true := by
    by_contra hout
    rw [if_neg hout] at hstop
    cases hstop
  refine ⟨((holds_iff _ _).mp hholds).1, ?_, ((holds_iff _ _).mp hholds').2⟩
  rw [Instant.le_def] at hlt
  rw [Instant.lt_def]
  omega

theorem process_eq_ok {names : DisplayNames} {p : Parameters} {f g : Forecast} {horizon : Period}
    (hh : horizon? f.data = some horizon) (h : process names p f = .ok g) :
    let asked : Period := ⟨p.startOr horizon.start, p.stopOr horizon.stop⟩
    (rangeFindings names asked horizon).isEmpty = true ∧
      ∃ data, Series.rolling ⟨p.windowSize, some asked.start, some asked.stop, none⟩
          (Series.clip asked f.data) = .ok data ∧
        g = { f with
          dataStart := some asked.start
          dataStop := some asked.stop
          windowSize := (data.head?.map (·.duration)).getD Span.zero
          data := data
          optimal := Series.optimum data } := by
  intro asked
  unfold process at h
  rw [hh] at h
  simp only at h
  split at h
  · next hempty =>
    refine ⟨hempty, ?_⟩
    split at h
    · cases h
    · next data hdata => exact ⟨data, hdata, (Except.ok.inj h).symm⟩
  · cases h

/-! ## Windows in the asked period -/

/-- A processed forecast is windowed over the period asked for, its bounds those of the horizon where
none were given. -/
theorem process_windowed (names : DisplayNames) (p : Parameters) (f g : Forecast)
    (hne : f.data ≠ []) (hsize : Span.zero < p.windowSize)
    (hdata : ∀ s ∈ f.data, s.start.isLeap = false) (hstart : ∀ t, p.start = some t → t.isLeap = false)
    (h : process names p f = .ok g) :
    let horizon : Period := ⟨(f.data.head hne).start, (f.data.getLast hne).finish⟩
    Windowed horizon ⟨p.startOr horizon.start, p.stopOr horizon.stop⟩ p.windowSize g := by
  intro horizon
  obtain ⟨hempty, data, hdata', rfl⟩ := process_eq_ok (horizon?_eq_some f.data hne) h
  have hleap : (p.startOr horizon.start).isLeap = false := by
    unfold Parameters.startOr
    cases ht : p.start with
    | none => exact hdata _ (List.head_mem hne)
    | some t => exact hstart t ht
  have hclip : ∀ s ∈ Series.clip ⟨p.startOr horizon.start, p.stopOr horizon.stop⟩ f.data,
      s.start.isLeap = false := fun s hs => hdata s (Series.mem_clip.mp hs).1
  have hin := fun {s} => Series.mem_rolling (s := s) hsize rfl rfl hleap hclip hdata'
  constructor
  case inHorizon => exact rangeFindings_isEmpty hempty
  case bounds => exact ⟨rfl, rfl⟩
  case inPeriod => exact fun s hs => hin hs
  case increasing => exact Series.rolling_pairwise hsize hdata'
  case windowSize =>
    cases data with
    | nil => rfl
    | cons s rest => exact (hin (List.mem_cons_self ..)).1
  case optimal => exact Series.optimum_eq_filter data
  case sublist =>
    show (Series.optimum data).Sublist data
    rw [Series.optimum_eq_filter]
    exact List.filter_sublist

/-- Three samples of five minutes, not listed in the order of time, and a period in the first one. -/
theorem process_windowed_unordered :
    let five : Span := ⟨300000000000, by decide⟩
    let minute : Span := ⟨60000000000, by decide⟩
    let f : Forecast := {
      location := "x"
      generatedAt := Instant.epoch
      data := [⟨"x", ⟨300, 0, by decide, by decide, by decide⟩, five, 3.0⟩,
        ⟨"x", Instant.epoch, five, 1.0⟩,
        ⟨"x", ⟨600, 0, by decide, by decide, by decide⟩, five, 2.0⟩] }
    let asked : Period :=
      ⟨⟨400, 0, by decide, by decide, by decide⟩, ⟨500, 5, by decide, by decide, by decide⟩⟩
    let p : Parameters := { start := some asked.start, stop := some asked.stop, window := some minute }
    f.data ≠ [] ∧ Span.zero < p.windowSize ∧ (∀ s ∈ f.data, s.start.isLeap = false) ∧
      (∀ t, p.start = some t → t.isLeap = false) ∧
      ∃ g, process DisplayNames.usual p f = .ok g ∧ g.data.length = 1 ∧
        Windowed
          ⟨⟨300, 0, by decide, by decide, by decide⟩, ⟨900, 0, by decide, by decide, by decide⟩⟩
          asked minute g := by
  intro five minute f asked p
  have hne : f.data ≠ [] := List.cons_ne_nil _ _
  have hstart : ∀ t, p.start = some t → t.isLeap = false := by
    intro t ht
    obtain rfl := Option.some.inj ht
    decide
  refine ⟨hne, by decide, by decide, hstart, ?_⟩
  have hrun : (process DisplayNames.usual p f).toOption.map (·.data.length) = some 1 := by
    decide +kernel
  cases h : process DisplayNames.usual p f with
  | error e =>
    rw [h] at hrun
    cases hrun
  | ok g =>
    rw [h] at hrun
    have hwindowed :=
      process_windowed DisplayNames.usual p f g hne (by decide) (by decide) hstart h
    have hstop : (f.data.getLast (List.cons_ne_nil _ _)).finish =
        ⟨900, 0, by decide, by decide, by decide⟩ := by decide
    simp only [hstop] at hwindowed
    exact ⟨g, rfl, Option.some.inj hrun, hwindowed⟩

/-- If no window has a rating that is a number, every window is at most all that have one, but none is
picked. -/
theorem process_optimal_of_nan :
    let five : Span := ⟨300000000000, by decide⟩
    let f : Forecast := {
      location := "x"
      generatedAt := Instant.epoch
      data := [⟨"x", Instant.epoch, five, 0.0 / 0.0⟩] }
    let p : Parameters := { locations := ["x"], window := some five }
    (Validator.usual.require [.locations]).validate p = .ok p ∧ f.data ≠ [] ∧
      Span.zero < p.windowSize ∧ (∀ s ∈ f.data, s.start.isLeap = false) ∧
      ∃ g, process DisplayNames.usual p f = .ok g ∧
        g.optimal ≠
          g.data.filter fun s => ∀ x ∈ g.data, x.rating.isNaN = false → s.rating ≤ x.rating := by
  intro five f p
  refine ⟨rfl, List.cons_ne_nil _ _, by decide, by decide, ?_⟩
  have hrun : ((process DisplayNames.usual p f).toOption.map fun g => (g.data.length, g.optimal.length,
      decide (∀ s ∈ g.data, ∀ x ∈ g.data, x.rating.isNaN = false → s.rating ≤ x.rating))) =
      some (1, 0, true) := by
    decide +kernel
  cases h : process DisplayNames.usual p f with
  | error e =>
    rw [h] at hrun
    cases hrun
  | ok g =>
    rw [h] at hrun
    obtain ⟨hdata, hoptimal, hall⟩ : g.data.length = 1 ∧ g.optimal.length = 0 ∧ _ := by
      simpa only [Except.toOption, Option.map_some, Option.some.injEq, Prod.mk.injEq,
        decide_eq_true_eq] using hrun
    refine ⟨g, rfl, fun heq => ?_⟩
    rw [List.filter_eq_self.mpr fun s hs => decide_eq_true (hall s hs)] at heq
    rw [heq, hdata] at hoptimal
    cases hoptimal

end CarbonIntensity.ForecastService
