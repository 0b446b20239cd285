import CarbonIntensity.ElectricityMaps.Payload
import CarbonIntensity.Proofs.Lists
import CarbonIntensity.Proofs.Outcome
import CarbonIntensity.Proofs.Series.ListingOrder
import CarbonIntensity.Proofs.Service.Forecast
import CarbonIntensity.Proofs.Service.Locations
import CarbonIntensity.Provider.DataFile
import CarbonIntensity.WattTime.Payload

/-!
# Forecasts listed backwards

Most of what is done with a forecast does not depend on the direction in which its samples are listed:

* samples that follow one another have the same mean and the same windows (Forecast.InOrder.bothWays);
* points that lie equally far apart give samples of the same length (WattTime.GridData.forecast_reverse,
  ElectricityMaps.ForecastAnswer.forecast_reverse).

The horizon does depend on it, as it is read off the first sample and the last one. Of two samples or more
that are listed backwards it ends by where it starts, so that no period is inside it, not even the one that
is taken where none is given. A query for forecasts ends at the first of these (current_backwards_of_many)
and does not depend on the direction if there are none (current_backwards_of_few).
-/

namespace CarbonIntensity

/-! ## Listing backwards -/

/-- The forecast with its samples listed in the opposite order. -/
def Forecast.backwards (f : Forecast) : Forecast := { f with data := f.data.reverse }

/-- The provider that lists its current forecasts in the opposite order. -/
def Provider.backwards {σ : Type} (q : Provider σ) : Provider σ :=
  { q with currentForecast := fun location => do return (← q.currentForecast location).backwards }

def ForecastService.backwards {σ : Type} (f : ForecastService σ) : ForecastService σ :=
  { f with provider := f.provider.backwards }

/-- The samples follow one another in the order of time, and each has a length. -/
structure Forecast.InOrder (f : Forecast) : Prop where
  follows : f.data.IsChain Series.Follows
  pos : ∀ s ∈ f.data, Span.zero < s.duration

theorem Provider.start_backwards_ok_iff {σ : Type} {q : Provider σ} {location : String} {s u : σ}
    {f : Forecast} : (q.backwards.currentForecast location).start s = (.ok f, u) ↔
      ∃ listed, (q.currentForecast location).start s = (.ok listed, u) ∧ f = listed.backwards := by
  show Work.start (q.currentForecast location >>= fun listed => pure listed.backwards) s = _ ↔ _
  rw [Work.start_bind_ok_iff]
  constructor
  · rintro ⟨listed, t, hlisted, h⟩
    cases h
    exact ⟨listed, hlisted, rfl⟩
  · rintro ⟨listed, hlisted, rfl⟩
    exact ⟨listed, u, hlisted, rfl⟩

theorem Forecast.backwards_of_few {f : Forecast} (h : f.data.length ≤ 1) : f.backwards = f := by
  unfold backwards
  rw [reverse_of_few (Nat.not_le.mpr (Nat.lt_succ_of_le h))]

/-! ## Means and windows -/

/-- The series has the mean and the windows that it has listed backwards. -/
structure Series.BothWays (l : List Sample) : Prop where
  mean : ∀ p, Series.mean p l.reverse = Series.mean p l
  rolling : ∀ w : Windows, Span.zero < w.size → Series.rolling w l.reverse = Series.rolling w l
  clipped : ∀ (w : Windows) (p : Period), Span.zero < w.size →
    Series.rolling w (clip p l.reverse) = Series.rolling w (clip p l)

theorem Forecast.InOrder.bothWays {f : Forecast} (h : f.InOrder) : Series.BothWays f.data := by
  have hdistinct := (Series.start_lt_of_follows h.follows).imp Instant.ne_of_lt
  constructor
  case mean => exact Series.mean_reverse_of_follows h.pos h.follows
  case rolling => exact fun w hsize => Series.rolling_reverse hsize hdistinct
  case clipped =>
    intro w p hsize
    rw [Series.clip_reverse]
    exact Series.rolling_reverse hsize (hdistinct.filter _)

/-! ## Points of services -/

/-- Each of the instants lies equally far from the one before, whichever is the later one. -/
def EquallyApart (step : Span) (times : List Instant) : Prop :=
  times.IsChain fun a b => (a.since b).abs = step

theorem EquallyApart.reverse {step : Span} {times : List Instant} (h : EquallyApart step times) :
    EquallyApart step times.reverse := by
  unfold EquallyApart at *
  rw [List.isChain_reverse]
  exact h.imp fun a b hab => (Instant.abs_since_comm b a).trans hab

theorem EquallyApart.spacing_eq {step : Span} {times : List Instant} (h : EquallyApart step times)
    (hmany : 2 ≤ times.length) : ElectricityMaps.spacing times = step := by
  match times, h, hmany with
  | first :: second :: rest, h, _ => exact (List.isChain_cons_cons.mp h).1

theorem EquallyApart.spacing_reverse {step : Span} {times : List Instant} (h : EquallyApart step times) :
    ElectricityMaps.spacing times.reverse = ElectricityMaps.spacing times := by
  by_cases hmany : 2 ≤ times.length
  · rw [h.reverse.spacing_eq (by rwa [List.length_reverse]), h.spacing_eq hmany]
  · rw [reverse_of_few hmany]

theorem WattTime.spacing?_eq (points : List DataPoint) : spacing? points =
    if 2 ≤ points.length then some (ElectricityMaps.spacing (points.map (·.time))) else none := by
  match points with
  | [] => rfl
  | [_] => rfl
  | first :: second :: rest => exact (if_pos (Nat.le_add_left 2 rest.length)).symm

/-- Points listed backwards make the forecast of WattTime that lists its samples backwards. -/
theorem WattTime.GridData.forecast_reverse {d : GridData} {step : Span}
    (h : EquallyApart step (d.points.map (·.time))) (location : String) :
    GridData.forecast { d with points := d.points.reverse } location =
      (d.forecast location).map Forecast.backwards := by
  have hspacing : spacing? d.points.reverse = spacing? d.points := by
    rw [spacing?_eq, spacing?_eq, List.length_reverse, List.map_reverse, h.spacing_reverse]
  unfold GridData.forecast
  cases d.info.generatedAt with
  | none => rfl
  | some generatedAt =>
    unfold forecastSamples
    rw [hspacing, List.length_reverse]
    cases spacing? d.points with
    | none => rfl
    | some duration =>
      show Except.ok _ = Except.ok _
      unfold Forecast.backwards
      rw [List.map_reverse]

/-- Points listed backwards make the forecast of Electricity Maps that lists its samples backwards. -/
theorem ElectricityMaps.ForecastAnswer.forecast_reverse {a : ForecastAnswer} {step : Span}
    (h : EquallyApart step (a.points.map (·.time))) (location : String) :
    ForecastAnswer.forecast { a with points := a.points.reverse } location =
      (a.forecast location).backwards := by
  unfold ForecastAnswer.forecast Forecast.backwards
  simp only [List.map_reverse, h.spacing_reverse]

/-! ## The horizon -/

namespace ForecastService

/-- Two samples or more that are listed backwards have a horizon that ends by where it starts. -/
theorem horizon?_reverse {l : List Sample} (hc : l.IsChain Series.Follows) (hmany : 2 ≤ l.length) :
    ∃ horizon, horizon? l.reverse = some horizon ∧ horizon.stop ≤ horizon.start := by
  match l, hc, hmany with
  | a :: b :: rest, hc, _ =>
    have hlater := List.pairwise_cons.mp (Series.start_lt_of_follows (List.isChain_cons_cons.mp hc).2)
    have htouch : b.start = a.finish := (List.isChain_cons_cons.mp hc).1.2
    have hle : b.start ≤ ((b :: rest).getLast (List.cons_ne_nil b rest)).start := by
      rcases List.mem_cons.mp (List.getLast_mem (List.cons_ne_nil b rest)) with hlast | hlast
      · rw [hlast]
        exact Instant.le_refl _
      · exact Int.le_of_lt (hlater.1 _ hlast)
    have hne : (a :: b :: rest).reverse ≠ [] := List.reverse_ne_nil_iff.mpr (List.cons_ne_nil a _)
    refine ⟨_, horizon?_eq_some _ hne, ?_⟩
    rw [List.getLast_reverse, List.head_reverse]
    rwa [htouch] at hle

/-- No period is inside such a horizon, whether it is given or taken from the horizon itself. -/
theorem process_backwards (names : DisplayNames) (p : Parameters) {f : Forecast}
    (hc : f.data.IsChain Series.Follows) (hmany : 2 ≤ f.data.length) :
    ∃ violations, process names p f.backwards = .error (.validation violations) := by
  obtain ⟨horizon, hhorizon, hle⟩ := horizon?_reverse hc hmany
  have hfindings : ¬(rangeFindings names ⟨p.startOr horizon.start, p.stopOr horizon.stop⟩ horizon).isEmpty =
      true := by
    intro hempty
    obtain ⟨hstart, hlt, hstop⟩ := rangeFindings_isEmpty hempty
    rw [Instant.le_def] at hstart hstop hle
    rw [Instant.lt_def] at hlt
    omega
  unfold process
  rw [show f.backwards.data = f.data.reverse from rfl, hhorizon]
  exact ⟨_, if_neg hfindings⟩

/-! ## Queries -/

section

variable {σ : Type} (f : ForecastService σ)

/-- The query is given the forecast `x` of a location: it breaks no rule, and the locations before that one
have an answer. -/
structure ComesTo (q : ForecastQuery) (s : σ) (location : String) (x : Forecast) (u : σ) : Prop where
  kept : ¬(Query.current q).Broken
  asked : ∃ before after answers t, namesGiven q.locations = before ++ location :: after ∧
    Work.InTurn (f.asked q.parameters) s before answers t ∧
    (f.provider.currentForecast location).start t = (.ok x, u)

theorem start_asked_of_ok {p : Parameters} {location : String} {s u : σ} {x : Forecast}
    (h : (f.provider.currentForecast location).start s = (.ok x, u)) :
    (f.asked p location).start s = (process f.names p x, u) := by
  unfold asked
  rw [Work.start_bind, Work.start_mapFault, h]
  rfl

theorem start_asked_of_error {p : Parameters} {location : String} {s u : σ} {failure : Failure}
    (h : (f.provider.currentForecast location).start s = (.error failure, u)) :
    (f.asked p location).start s = (.error (.provider failure), u) := by
  unfold asked
  rw [Work.start_bind, Work.start_mapFault, h]
  rfl

theorem asked_backwards_of_many (p : Parameters) {location : String} {s u : σ} {x : Forecast}
    (hordered : ∀ t x v, (f.provider.currentForecast location).start t = (.ok x, v) → x.InOrder)
    (h : (f.backwards.provider.currentForecast location).start s = (.ok x, u)) (hmany : 2 ≤ x.data.length) :
    ∃ violations, (f.backwards.asked p location).start s = (.error (.validation violations), u) := by
  obtain ⟨listed, hlisted, rfl⟩ := Provider.start_backwards_ok_iff.mp h
  have hmany' : 2 ≤ listed.data.length := by
    rwa [← List.length_reverse]
  obtain ⟨violations, hprocess⟩ := process_backwards f.names p (hordered s listed u hlisted).follows hmany'
  refine ⟨violations, ?_⟩
  rw [f.backwards.start_asked_of_ok h]
  exact congrArg (·, u) hprocess

/-- The direction only matters where a forecast has two samples or more. -/
theorem asked_backwards_of_few (p : Parameters) {location : String} {s : σ}
    (hfew : ∀ x u, (f.backwards.provider.currentForecast location).start s = (.ok x, u) → x.data.length ≤ 1) :
    (f.backwards.asked p location).start s = (f.asked p location).start s := by
  rcases hfetch : (f.provider.currentForecast location).start s with ⟨failure | listed, u⟩
  · have hback : (f.backwards.provider.currentForecast location).start s = (.error failure, u) := by
      show Work.start (f.provider.currentForecast location >>= fun listed => pure listed.backwards) s = _
      rw [Work.start_bind, hfetch]
    rw [f.start_asked_of_error hfetch, f.backwards.start_asked_of_error hback]
  · have hback := Provider.start_backwards_ok_iff.mpr ⟨listed, hfetch, rfl⟩
    have hone : listed.data.length ≤ 1 := by
      have hlength := hfew listed.backwards u hback
      rwa [← List.length_reverse]
    rw [f.start_asked_of_ok hfetch, f.backwards.start_asked_of_ok hback, Forecast.backwards_of_few hone]
    rfl

/-- The first forecast of two samples or more ends a query, whatever start, end and window it gives. -/
theorem current_backwards_of_many {q : ForecastQuery} {s u : σ} {location : String} {x : Forecast}
    (hordered : ∀ t x v, (f.provider.currentForecast location).start t = (.ok x, v) → x.InOrder)
    (hcomes : f.backwards.ComesTo q s location x u) (hmany : 2 ≤ x.data.length) :
    ∃ violations, (f.backwards.current q).start s =
      (.error (.atLocation location (.validation violations)), u) := by
  obtain ⟨hkept, before, after, answers, t, hnames, hbefore, hfetch⟩ := hcomes
  obtain ⟨violations, hasked⟩ := f.asked_backwards_of_many q.parameters hordered hfetch hmany
  refine ⟨violations, ?_⟩
  exact ((f.backwards.current_allOrNothing hkept s).fails _ u).mpr
    ⟨before, location, after, answers, t, _, hnames, hbefore, hasked, rfl⟩

/-- A query that comes to no such forecast has the same outcome in both directions. -/
theorem current_backwards_of_few {q : ForecastQuery} {s : σ}
    (hfew : ∀ location x u, f.backwards.ComesTo q s location x u → x.data.length ≤ 1) :
    (f.backwards.current q).start s = (f.current q).start s := by
  by_cases hq : (Query.current q).Broken
  · rw [f.start_current_of_broken hq, f.backwards.start_current_of_broken hq]
    rfl
  · rw [f.start_current hq, f.backwards.start_current hq]
    refine Work.start_mapM_congr fun before location after answers t hnames hbefore => ?_
    have hbefore' := Work.inTurn_mapFault_iff.mp hbefore
    have hsame := f.asked_backwards_of_few q.parameters fun x u hfetch =>
      hfew location x u ⟨hq, before, after, answers, t, hnames, hbefore', hfetch⟩
    rw [Work.start_mapFault, Work.start_mapFault, hsame]

/-- **Forecasts listed backwards.** Let every forecast of the provider have its samples in the order of time,
each with a length and following the one before. Listed backwards, the first forecast of two samples or more
that a query comes to ends it with violations under the location, whatever start, end and window it gives; a
query that comes to no such forecast has the same outcome in both directions. That is the horizon alone: the
mean and the windows of every forecast are the same in both directions, and points equally far apart that a
service lists backwards make the forecast with its samples listed backwards. -/
theorem current_backwards
    (hordered : ∀ location t x u, (f.provider.currentForecast location).start t = (.ok x, u) → x.InOrder)
    (q : ForecastQuery) (s : σ) :
    (∀ location x u, f.backwards.ComesTo q s location x u → 2 ≤ x.data.length →
      ∃ violations, (f.backwards.current q).start s =
        (.error (.atLocation location (.validation violations)), u)) ∧
    ((∀ location x u, f.backwards.ComesTo q s location x u → x.data.length ≤ 1) →
      (f.backwards.current q).start s = (f.current q).start s) ∧
    (∀ location t x u, (f.provider.currentForecast location).start t = (.ok x, u) →
      Series.BothWays x.data) ∧
    (∀ (d : WattTime.GridData) (step : Span), EquallyApart step (d.points.map (·.time)) →
      ∀ location, WattTime.GridData.forecast { d with points := d.points.reverse } location =
        (d.forecast location).map Forecast.backwards) ∧
    ∀ (a : ElectricityMaps.ForecastAnswer) (step : Span), EquallyApart step (a.points.map (·.time)) →
      ∀ location, ElectricityMaps.ForecastAnswer.forecast { a with points := a.points.reverse } location =
        (a.forecast location).backwards := by
  refine ⟨fun location x u hcomes hmany => f.current_backwards_of_many (hordered location) hcomes hmany,
    fun hfew => f.current_backwards_of_few hfew, fun location t x u h => (hordered location t x u h).bothWays,
    fun d step h location => WattTime.GridData.forecast_reverse h location,
    fun a step h location => ElectricityMaps.ForecastAnswer.forecast_reverse h location⟩

end

/-- A file with a forecast of two samples for one place and of a single sample for another. -/
def twoForecasts : DataFile :=
  let five : Span := Span.minutes 5
  ⟨[], [
    { location := "x"
      generatedAt := Instant.epoch
      data := [⟨"x", Instant.epoch, five, 3.0⟩, ⟨"x", Instant.epoch.addOrLatest five, five, 1.0⟩] },
    { location := "y", generatedAt := Instant.epoch, data := [⟨"y", Instant.epoch, five, 2.0⟩] }]⟩

theorem inOrder_of_twoForecasts {location : String} {t u : Unit} {x : Forecast}
    (h : (twoForecasts.provider.currentForecast location).start t = (.ok x, u)) : x.InOrder := by
  have hmem : x ∈ twoForecasts.forecasts := by
    unfold DataFile.provider at h
    cases hfind : twoForecasts.forecast? location with
    | none =>
      simp only [hfind] at h
      cases h
    | some found =>
      simp only [hfind] at h
      cases h
      exact List.mem_of_find?_eq_some hfind
  rcases List.mem_cons.mp hmem with rfl | hmem
  · exact ⟨.cons_cons ⟨by decide, rfl⟩ (.singleton _), by decide⟩
  · obtain rfl := List.mem_singleton.mp hmem
    exact ⟨.singleton _, by decide⟩

/-- Asks for windows of five minutes in the first five minutes. -/
def firstFive (names : List String) : ForecastQuery where
  locations := names
  stop := some (Instant.epoch.addOrLatest (Span.minutes 5))
  window := some (Span.minutes 5)

/-- The query for both places comes to the forecast of two samples after the other one has been answered. -/
theorem current_backwards_two_forecasts :
    let f : ForecastService Unit := ⟨twoForecasts.provider, DisplayNames.usual⟩
    (∀ location t x u, (f.provider.currentForecast location).start t = (.ok x, u) → x.InOrder) ∧
      (∃ x, f.backwards.ComesTo (firstFive ["y", "x"]) () "x" x () ∧ 2 ≤ x.data.length) ∧
      (∃ violations, (f.backwards.current (firstFive ["y", "x"])).start () =
        (.error (.atLocation "x" (.validation violations)), ())) ∧
      (∀ location x u, f.backwards.ComesTo (firstFive ["y"]) () location x u → x.data.length ≤ 1) ∧
      ∃ g, (f.backwards.current (firstFive ["y"])).start () = (.ok [g], ()) ∧
        (f.current (firstFive ["y"])).start () = (.ok [g], ()) := by
  intro f
  have hordered : ∀ location t x u,
      (f.provider.currentForecast location).start t = (.ok x, u) → x.InOrder :=
    fun _ _ _ _ => inOrder_of_twoForecasts
  have hanswer : ((f.backwards.asked (firstFive ["y", "x"]).parameters "y").start ()).1.toOption.isSome =
      true := by decide +kernel
  have hforward : ((f.current (firstFive ["y", "x"])).start ()).1.toOption.isSome = true := by decide +kernel
  have hsingle : ((f.current (firstFive ["y"])).start ()).1.toOption.map List.length = some 1 := by
    decide +kernel
  obtain ⟨g, hg⟩ := ok_of_isSome hanswer
  obtain ⟨forecasts, hforecasts⟩ := ok_of_isSome hforward
  have hcomes : f.backwards.ComesTo (firstFive ["y", "x"]) () "x"
      (Forecast.backwards (twoForecasts.forecasts[0])) () :=
    ⟨f.not_broken_of_ok (Work.start_eq hforecasts), ["y"], [], [g], (), rfl,
      .cons (Work.start_eq hg) (.nil ()), rfl⟩
  have hone : ∀ location x u, f.backwards.ComesTo (firstFive ["y"]) () location x u → x.data.length ≤ 1 := by
    rintro location x u ⟨-, before, after, answers, t, hnames, -, hfetch⟩
    have hy : location = "y" := by
      have hmem : location ∈ before ++ location :: after := List.mem_append_right _ (List.mem_cons_self ..)
      rw [← hnames] at hmem
      exact List.mem_singleton.mp hmem
    subst hy
    cases hfetch
    decide
  obtain ⟨violations, hviolations⟩ :=
    (current_backwards f hordered (firstFive ["y", "x"]) ()).1 "x" _ () hcomes (by decide)
  have hsame := (current_backwards f hordered (firstFive ["y"]) ()).2.1 hone
  refine ⟨hordered, ⟨_, hcomes, by decide⟩, ⟨violations, hviolations⟩, hone, ?_⟩
  obtain ⟨single, hrun, hlength⟩ := ok_of_toOption_map hsingle
  obtain ⟨g, rfl⟩ := List.length_eq_one_iff.mp hlength
  exact ⟨g, hsame.trans (Work.start_eq hrun), Work.start_eq hrun⟩

/-- A forecast of two samples that follow one another has a window in the order of time, and is refused if
they are listed backwards. -/
theorem current_refused_backwards :
    let f : ForecastService Unit := ⟨twoForecasts.provider, DisplayNames.usual⟩
    (∀ location t x u, (f.provider.currentForecast location).start t = (.ok x, u) → x.InOrder) ∧
      (∃ g, (f.current (firstFive ["x"])).start () = (.ok [g], ()) ∧ g.data.length = 1) ∧
      ∃ violations, (f.backwards.current (firstFive ["x"])).start () =
        (.error (.atLocation "x" (.validation violations)), ()) := by
  intro f
  have hcount : ((f.current (firstFive ["x"])).start ()).1.toOption.map (List.map (·.data.length)) =
      some [1] := by decide +kernel
  obtain ⟨forecasts, hrun, hmap⟩ := ok_of_toOption_map hcount
  obtain ⟨g, rfl, hlength⟩ := List.map_eq_singleton_iff.mp hmap
  exact ⟨fun _ _ _ _ => inOrder_of_twoForecasts, ⟨g, Work.start_eq hrun, hlength⟩, _, rfl⟩

end ForecastService

end CarbonIntensity
