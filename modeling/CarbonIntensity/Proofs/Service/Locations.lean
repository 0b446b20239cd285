import CarbonIntensity.Proofs.Provider.InTurn
import CarbonIntensity.Proofs.Provider.Labels
import CarbonIntensity.Proofs.Series.Optimum
import CarbonIntensity.Proofs.Service.Gate

/-!
# Several locations

A query that passes validation is put for each of its locations in turn, blank names left out. It has a
result exactly if every location has an answer, and the result is made of these answers in the order of
the query. Otherwise the first fault ends it, put under its location:

    AllOrNothing ask combine names s (w.start s)

Over the providers there are, answers bear the locations they were asked for, in whatever state earlier
questions have left them and the cache.

Each location can be searched for its best samples by itself: the best samples of a series in two parts are
the best of the best of each part, and so are the best samples of all locations the best of the best of each
of them (EmissionsService.best_of_each_location).
-/

namespace CarbonIntensity

/-- The names that count as given. -/
def namesGiven (names : List String) : List String := names.filter fun name => !Text.isBlankText name

/-- All locations have an answer and these make up the result, or the first fault is put under its
location and there is no result. -/
structure AllOrNothing {σ α γ : Type} (ask : String → Work Fault σ α) (combine : List α → γ)
    (names : List String) (s : σ) (outcome : Except Fault γ × σ) : Prop where
  succeeds : ∀ result u, outcome = (.ok result, u) ↔
    ∃ answers, Work.InTurn ask s names answers u ∧ result = combine answers
  fails : ∀ fault u, outcome = (.error fault, u) ↔
    ∃ before location after answers t cause, names = before ++ location :: after ∧
      Work.InTurn ask s before answers t ∧ (ask location).start t = (.error cause, u) ∧
      fault = .atLocation location cause

/-- Locations in turn, each fault put under its location. -/
theorem allOrNothing_mapM {σ α γ : Type} (ask : String → Work Fault σ α) (combine : List α → γ)
    (names : List String) (s : σ) :
    AllOrNothing ask combine names s
      (Work.start (do return combine (← names.mapM fun l => (ask l).mapFault (.atLocation l))) s) where
  succeeds result u := by
    rw [Work.start_bind_ok_iff]
    constructor
    · rintro ⟨answers, t, hanswers, hresult⟩
      cases hresult
      exact ⟨answers, Work.inTurn_mapFault_iff.mp (Work.start_mapM_ok_iff.mp hanswers), rfl⟩
    · rintro ⟨answers, hanswers, rfl⟩
      exact ⟨answers, u, Work.start_mapM_ok_iff.mpr (Work.inTurn_mapFault_iff.mpr hanswers), rfl⟩
  fails fault u := by
    rw [Work.start_bind_error_iff]
    constructor
    · rintro (hfault | ⟨answers, t, -, hresult⟩)
      · obtain ⟨before, location, after, answers, t, hnames, hbefore, hlocation⟩ :=
          Work.start_mapM_error_iff.mp hfault
        obtain ⟨cause, hcause, rfl⟩ := Work.start_mapFault_error_iff.mp hlocation
        exact ⟨before, location, after, answers, t, cause, hnames,
          Work.inTurn_mapFault_iff.mp hbefore, hcause, rfl⟩
      · cases hresult
    · rintro ⟨before, location, after, answers, t, cause, hnames, hbefore, hcause, rfl⟩
      refine .inl (Work.start_mapM_error_iff.mpr ⟨before, location, after, answers, t, hnames, ?_, ?_⟩)
      · exact Work.inTurn_mapFault_iff.mpr hbefore
      · exact Work.start_mapFault_error_iff.mpr ⟨cause, hcause, rfl⟩

/-- The fault of a provider, and the location around it. -/
theorem Work.atLocation_eq {σ α : Type} (location : String) (w : Work Failure σ α) :
    w.atLocation location = (w.mapFault .provider).mapFault (.atLocation location) := by
  refine Work.ext fun s => ?_
  unfold Work.atLocation
  rw [start_mapFault, start_mapFault, start_mapFault]
  cases (w.start s).1 <;> rfl

/-! ## Samples -/

namespace EmissionsService

variable {σ : Type} (e : EmissionsService σ)

/-- The samples of a location. -/
def asked (p : Period) (location : String) : Work Fault σ (List Sample) :=
  (e.provider.history location p).mapFault .provider

theorem emissions_allOrNothing {q : EmissionsQuery} (hq : ¬(Query.emissions q).Broken) (s : σ) :
    AllOrNothing (e.asked (period (e.now s) q.parameters)) List.flatten (namesGiven q.locations) s
      ((e.emissions q).start s) := by
  have hpass : e.manyValidator.Passes q.parameters := by
    rw [e.emissions_broken_iff, Classical.not_not] at hq
    exact hq
  have hstart : (e.emissions q).start s =
      Work.start (do return List.flatten (← (namesGiven q.locations).mapM fun l =>
        (e.asked (period (e.now s) q.parameters) l).mapFault (.atLocation l))) s := by
    unfold emissions validated
    rw [Validator.validate_of_passes hpass]
    simp only [Work.atLocation_eq]
    rfl
  rw [hstart]
  exact allOrNothing_mapM _ _ _ s

/-- A query with a result breaks no rule. -/
theorem not_broken_of_ok {q : EmissionsQuery} {s u : σ} {samples : List Sample}
    (h : (e.emissions q).start s = (.ok samples, u)) : ¬(Query.emissions q).Broken := by
  intro hbroken
  have hpass := (e.emissions_broken_iff).mp hbroken
  unfold emissions validated at h
  rw [Validator.validate_of_not_passes hpass] at h
  cases h

theorem allAt_of_inTurn {I : σ → Prop} (hprovider : e.provider.Labels I) {p : Period} {s u : σ}
    {names : List String} {answers : List (List Sample)} (hs : I s)
    (h : Work.InTurn (e.asked p) s names answers u) : List.Forall₂ Series.AllAt names answers := by
  refine h.forall₂ (fun location s hs => ?_) (fun location s samples hs hsamples => ?_) hs
  · exact hprovider.kept s (.history location p) hs
  · have hok : (e.asked p location).start s = (.ok samples, ((e.asked p location).start s).2) :=
      Prod.ext hsamples rfl
    exact hprovider.history location p s samples hs (congrArg (·.1) (Work.start_mapFault_ok_iff.mp hok))

end EmissionsService

/-! ## Forecasts -/

namespace ForecastService

variable {σ : Type} (f : ForecastService σ)

/-- The current forecast of a location, processed. -/
def asked (p : Parameters) (location : String) : Work Fault σ Forecast := do
  let forecast ← (f.provider.currentForecast location).mapFault .provider
  Work.ofExcept (process f.names p forecast)

theorem asked_mapFault (p : Parameters) (location : String) :
    (f.asked p location).mapFault (.atLocation location) = (do
      let forecast ← (f.provider.currentForecast location).atLocation location
      f.processAt p location forecast) := by
  rw [Work.atLocation_eq]
  exact Work.mapFault_bind _ _ _

theorem currentValidator_passes {q : ForecastQuery} (hq : ¬(Query.current q).Broken) :
    f.currentValidator.Passes q.parameters := by
  rw [f.current_broken_iff, Classical.not_not] at hq
  exact hq

/-- A query that breaks a rule ends before any question. -/
theorem start_current_of_broken {q : ForecastQuery} (hq : (Query.current q).Broken) (s : σ) :
    (f.current q).start s =
      (.error (.validation (Validator.report (f.currentValidator.findings q.parameters))), s) := by
  unfold current EmissionsService.validated
  rw [Validator.validate_of_not_passes ((f.current_broken_iff).mp hq)]
  rfl

theorem start_current {q : ForecastQuery} (hq : ¬(Query.current q).Broken) (s : σ) :
    (f.current q).start s =
      Work.start ((namesGiven q.locations).mapM fun l =>
        (f.asked q.parameters l).mapFault (.atLocation l)) s := by
  unfold current EmissionsService.validated
  rw [Validator.validate_of_passes (f.currentValidator_passes hq)]
  simp only [asked_mapFault]
  rfl

theorem current_allOrNothing {q : ForecastQuery} (hq : ¬(Query.current q).Broken) (s : σ) :
    AllOrNothing (f.asked q.parameters) id (namesGiven q.locations) s ((f.current q).start s) := by
  have hstart : (f.current q).start s =
      Work.start (do return id (← (namesGiven q.locations).mapM fun l =>
        (f.asked q.parameters l).mapFault (.atLocation l))) s := by
    rw [f.start_current hq s]
    show _ = Work.start (_ >>= pure) s
    rw [bind_pure]
  rw [hstart]
  exact allOrNothing_mapM _ _ _ s

/-- Processing a forecast does not move it. -/
theorem location_of_process {names : DisplayNames} {p : Parameters} {f g : Forecast}
    (h : process names p f = .ok g) : g.location = f.location := by
  unfold process at h
  split at h
  · cases h
    rfl
  · simp only at h
    split at h
    · split at h
      · cases h
      · cases h
        rfl
    · cases h

theorem not_broken_of_ok {q : ForecastQuery} {s u : σ} {forecasts : List Forecast}
    (h : (f.current q).start s = (.ok forecasts, u)) : ¬(Query.current q).Broken := by
  intro hbroken
  rw [f.start_current_of_broken hbroken s] at h
  cases h

theorem location_of_inTurn {I : σ → Prop} (hprovider : f.provider.Labels I) {p : Parameters} {s u : σ}
    {names : List String} {forecasts : List Forecast} (hs : I s)
    (h : Work.InTurn (f.asked p) s names forecasts u) :
    List.Forall₂ (fun location forecast => forecast.location = location) names forecasts := by
  refine h.forall₂ (fun location s hs => ?_) (fun location s forecast hs hforecast => ?_) hs
  · have hkept : I ((f.provider.currentForecast location).start s).2 :=
      hprovider.kept s (.currentForecast location) hs
    unfold asked
    rw [Work.start_bind, Work.start_mapFault]
    rcases hask : (f.provider.currentForecast location).start s with ⟨failure | fetched, t⟩
    · rw [hask] at hkept
      exact hkept
    · rw [hask] at hkept
      exact hkept
  · obtain ⟨fetched, t, hask, hprocess⟩ := Work.start_bind_ok_iff.mp
      (show (f.asked p location).start s = (.ok forecast, ((f.asked p location).start s).2) from
        Prod.ext hforecast rfl)
    rw [location_of_process (congrArg (·.1) hprocess)]
    exact hprovider.forecast location s fetched hs
      (congrArg (·.1) (Work.start_mapFault_ok_iff.mp hask))

end ForecastService

/-! ## Labels -/

/-- Of queries over the sources that have a result in this state: the samples of each location and its
forecast bear its name. -/
structure Sources.Labelled {σ : Type} (sources : Sources σ) (now : σ → Instant) (s : σ) : Prop where
  emissions : ∀ names q samples u,
    let e : EmissionsService σ := ⟨sources.emissions, now, names⟩
    (e.emissions q).start s = (.ok samples, u) →
      ∃ answers, samples = answers.flatten ∧
        Work.InTurn (e.asked (EmissionsService.period (now s) q.parameters)) s (namesGiven q.locations)
          answers u ∧
        List.Forall₂ Series.AllAt (namesGiven q.locations) answers
  forecasts : ∀ names q forecasts u,
    let f : ForecastService σ := ⟨sources.forecast, names⟩
    (f.current q).start s = (.ok forecasts, u) →
      List.Forall₂ (fun location forecast => forecast.location = location) (namesGiven q.locations)
        forecasts

theorem Sources.Labels.labelled {σ : Type} {I : σ → Prop} {sources : Sources σ} (h : sources.Labels I)
    (now : σ → Instant) {s : σ} (hs : I s) : sources.Labelled now s where
  emissions names q samples u := by
    intro e hok
    have hall := e.emissions_allOrNothing (e.not_broken_of_ok hok) s
    obtain ⟨answers, hturn, rfl⟩ := (hall.succeeds samples u).mp hok
    exact ⟨answers, rfl, hturn, e.allAt_of_inTurn h.emissions hs hturn⟩
  forecasts names q forecasts u := by
    intro f hok
    have hall := f.current_allOrNothing (f.not_broken_of_ok hok) s
    obtain ⟨answers, hturn, rfl⟩ := (hall.succeeds forecasts u).mp hok
    exact f.location_of_inTurn h.forecast hs hturn

/-- The line at the desk, which changes with time. -/
def Desk.lineSlot : Slot Desk Line := ⟨line, fun l d => { d with line := l }⟩

/-- **Several locations.** Over every provider, a query that breaks no rule has a result exactly if all its
locations have an answer, in turn, and is otherwise ended by the first fault. Over the providers there are,
behind the cache or not, and over the sources of all settings, after every run of questions, the answers
bear the locations they were asked for. -/
theorem locations_all_or_nothing :
    (∀ (σ : Type) (e : EmissionsService σ) (q : EmissionsQuery) (s : σ), ¬(Query.emissions q).Broken →
      AllOrNothing (e.asked (EmissionsService.period (e.now s) q.parameters)) List.flatten
        (namesGiven q.locations) s ((e.emissions q).start s)) ∧
    (∀ (σ : Type) (f : ForecastService σ) (q : ForecastQuery) (s : σ), ¬(Query.current q).Broken →
      AllOrNothing (f.asked q.parameters) id (namesGiven q.locations) s ((f.current q).start s)) ∧
    (∀ (q : Provider Session) (lifetime : Option Span) (start : Session)
        (steps : List (Sources.Step Session)), Own q →
      let sources := Sources.ofProvider q Session.now lifetime
      sources.Labelled (fun s => Session.now s.inner) (sources.run Cached.innerSlot ⟨start, []⟩ steps)) ∧
    (∀ (settings : Settings) (files : Files) (line : Line) (sources : Sources Desk) (start : Desk)
        (steps : List (Sources.Step Line)),
      Sources.ofSettings settings files line = .ok (sources, start) →
        sources.Labelled Desk.now (sources.run Desk.lineSlot start steps)) := by
  refine ⟨fun σ e q s hq => e.emissions_allOrNothing hq s,
    fun σ f q s hq => f.current_allOrNothing hq s, fun q lifetime start steps hown => ?_,
    fun settings files line sources start steps hsources => ?_⟩
  · have hlabels := Sources.labels_ofProvider hown lifetime
    exact hlabels.labelled _ (hlabels.run (fun _ _ hs => hs) HistoryCache.labelled_nil steps)
  · obtain ⟨hlabels, hstart⟩ := Sources.labels_ofSettings hsources
    refine hlabels.labelled _ (hlabels.run (fun _ _ hs => hs) ?_ steps)
    rw [hstart]
    exact HistoryCache.labelled_nil

/-- A file with a sample for each of two places. -/
def twoPlaces : DataFile :=
  ⟨[⟨"a", Instant.epoch, Span.minutes 60, 1.0⟩, ⟨"b", Instant.epoch, Span.minutes 60, 2.0⟩], []⟩

/-- Behind the cache, one of the places asked for twice and a blank name left out. -/
theorem locations_all_or_nothing_two_places :
    let sources := Sources.ofProvider twoPlaces.provider Session.now (some (Span.minutes 60))
    let e : EmissionsService (Cached Session) :=
      ⟨sources.emissions, fun s => Session.now s.inner, DisplayNames.usual⟩
    let q : EmissionsQuery := ⟨["a", " ", "b", "a"], some Instant.epoch, none⟩
    let start : Session :=
      ⟨⟨Clock.ofInstant Instant.epoch, .unreachable, []⟩, Memory.fresh (Span.minutes 60)⟩
    ¬(Query.emissions q).Broken ∧ ∃ samples answers u, (e.emissions q).start ⟨start, []⟩ = (.ok samples, u) ∧
      samples.length = 3 ∧ samples = answers.flatten ∧ List.Forall₂ Series.AllAt ["a", "b", "a"] answers := by
  intro sources e q start
  have hlabelled : sources.Labelled (fun s => Session.now s.inner) ⟨start, []⟩ :=
    locations_all_or_nothing.2.2.1 _ (some (Span.minutes 60)) start [] (.dataFile twoPlaces)
  have hcount : ((e.emissions q).start ⟨start, []⟩).1.toOption.map List.length = some 3 := by decide +kernel
  cases hrun : ((e.emissions q).start ⟨start, []⟩).1 with
  | error fault =>
    rw [hrun] at hcount
    cases hcount
  | ok samples =>
    rw [hrun] at hcount
    obtain ⟨answers, hsamples, -, hlabels⟩ :=
      hlabelled.emissions DisplayNames.usual q samples _ (Work.start_eq hrun)
    exact ⟨e.not_broken_of_ok (Work.start_eq hrun), samples, answers, _, Work.start_eq hrun,
      Option.some.inj hcount, hsamples, hlabels⟩

/-! ## The best samples of all locations -/

namespace EmissionsService

variable {σ : Type} (e : EmissionsService σ)

theorem start_best_ok_iff {q : EmissionsQuery} {s u : σ} {samples : List Sample} :
    (e.best q).start s = (.ok samples, u) ↔
      ∃ all, (e.emissions q).start s = (.ok all, u) ∧ samples = Series.optimum all := by
  unfold best
  rw [Work.start_bind_ok_iff]
  constructor
  · rintro ⟨all, t, hall, hbest⟩
    cases hbest
    exact ⟨all, hall, rfl⟩
  · rintro ⟨all, hall, rfl⟩
    exact ⟨all, u, hall, rfl⟩

/-- **The best of the best.** The best samples of a series are those whose rating is a number and at most
every other one, in their order; there are none exactly if no rating is a number. They are the best of the
best of its parts. So a query for the best samples has a result exactly if it breaks no rule and all its
locations have an answer, and the result is the best of the best of each location. -/
theorem best_of_each_location :
    (∀ l : List Sample, Series.optimum l = l.filter (fun s => Series.IsBest l s) ∧
      (Series.optimum l = [] ↔ ∀ s ∈ l, s.rating.isNaN = true)) ∧
    (∀ a b : List Sample,
      Series.optimum (a ++ b) = Series.optimum (Series.optimum a ++ Series.optimum b)) ∧
    ∀ (q : EmissionsQuery) (s : σ) (samples : List Sample) (u : σ),
      (e.best q).start s = (.ok samples, u) ↔ ¬(Query.emissions q).Broken ∧
        ∃ answers, Work.InTurn (e.asked (period (e.now s) q.parameters)) s (namesGiven q.locations)
            answers u ∧
          samples = Series.optimum (answers.map Series.optimum).flatten := by
  refine ⟨fun l => ⟨Series.optimum_eq_filter l, Series.optimum_eq_nil_iff⟩, Series.optimum_append, ?_⟩
  intro q s samples u
  rw [start_best_ok_iff]
  constructor
  · rintro ⟨all, hall, rfl⟩
    have hq := e.not_broken_of_ok hall
    obtain ⟨answers, hanswers, rfl⟩ := ((e.emissions_allOrNothing hq s).succeeds all u).mp hall
    exact ⟨hq, answers, hanswers, Series.optimum_flatten answers⟩
  · rintro ⟨hq, answers, hanswers, rfl⟩
    refine ⟨answers.flatten, ?_, (Series.optimum_flatten answers).symm⟩
    exact ((e.emissions_allOrNothing hq s).succeeds _ u).mpr ⟨answers, hanswers, rfl⟩

end EmissionsService

end CarbonIntensity
