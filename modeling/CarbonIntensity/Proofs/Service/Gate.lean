import CarbonIntensity.Proofs.Provider.Watch
import CarbonIntensity.Proofs.Query.Validator
import CarbonIntensity.Provider.Table
import CarbonIntensity.Service.Forecast
import Mathlib.Logic.Basic

/-!
# Validation before any question

A query is answered over providers that keep a log of the questions they are asked. The log changes
nothing, and it goes with the answer in one of two ways (`Gated`):

* the query breaks a rule: the fault is its violations, under no location, and nothing was asked;
* it breaks none: histories were only asked for periods that it allows, and every fault stands under a
  location that was asked about.

What breaks a rule is said of the fields of the query, not of the validators and parameters.
-/

namespace CarbonIntensity

/-! ## The log of questions -/

/-- The location that a question is about. -/
def Call.location? : Call → Option String
  | .history location _ => some location
  | .currentForecast location => some location
  | .forecastAsOf location _ => some location
  | .region _ => none

/-- The provider that keeps a log of its questions, answered or not. -/
def Provider.logged {σ : Type} (q : Provider σ) : Provider (σ × List Call) where
  name := q.name
  history location p := (q.history location p).recorded fun _ => .history location p
  currentForecast location := (q.currentForecast location).recorded fun _ => .currentForecast location
  forecastAsOf location requested :=
    (q.forecastAsOf location requested).recorded fun _ => .forecastAsOf location requested
  region place := (q.region place).recorded fun _ => .region place

/-! ## Queries and their rules -/

inductive Query where
  | emissions (q : EmissionsQuery)
  | best (q : EmissionsQuery)
  | mean (q : MeanQuery)
  | current (q : ForecastQuery)
  | past (q : PastForecastQuery)

namespace Query

/-- Something is missing that is required, or a rule about two properties or about the window is broken. -/
def Broken : Query → Prop
  | emissions q | best q =>
    ¬Named q.locations ∨ OutOfOrder q.start q.stop ∨ (q.start = none ∧ q.stop ≠ none)
  | mean q =>
    Text.isBlankText q.location = true ∨ q.start = none ∨ q.stop = none ∨ OutOfOrder q.start q.stop
  | current q => ¬Named q.locations ∨ OutOfOrder q.start q.stop ∨ BadWindow q.window
  | past q =>
    Text.isBlankText q.location = true ∨ q.requested = none ∨ OutOfOrder q.start q.stop ∨
      BadWindow q.window

/-- The periods of the histories that a query may ask for. -/
def Allows : Query → Period → Prop
  | emissions q, p | best q, p => p.start ≤ p.stop ∧ (p.start = p.stop ↔ q.stop = none)
  | mean _, p => p.start < p.stop
  | current _, _ | past _, _ => False

end Query

/-- What a query is answered with. -/
inductive Query.Result where
  | samples (samples : List Sample)
  | mean (mean : Float)
  | forecasts (forecasts : List Forecast)
  | forecast (forecast : Option Forecast)

/-- What answers the queries for emissions and those for forecasts. -/
structure Services (σ : Type) where
  emissions : EmissionsService σ
  forecasts : ForecastService σ

namespace Services

variable {σ : Type}

def answer (s : Services σ) : Query → Work Fault σ Query.Result
  | .emissions q => do return .samples (← s.emissions.emissions q)
  | .best q => do return .samples (← s.emissions.best q)
  | .mean q => do return .mean (← s.emissions.mean q)
  | .current q => do return .forecasts (← s.forecasts.current q)
  | .past q => do return .forecast (← s.forecasts.past q)

/-- The services over providers that keep a log. -/
def logged (s : Services σ) : Services (σ × List Call) where
  emissions :=
    { s.emissions with provider := s.emissions.provider.logged, now := fun x => s.emissions.now x.1 }
  forecasts := { s.forecasts with provider := s.forecasts.provider.logged }

end Services

/-! ## Outcomes -/

/-- A fault stands under the location, and under no other. -/
def Blames {α : Type} (location : String) (r : Except Fault α) : Prop :=
  ∀ e, r = .error e → ∃ cause, e = .atLocation location cause ∧ cause.root = cause

/-- Histories were asked for allowed periods only, and a fault stands under a location that was asked
about. -/
structure Fair {α : Type} (allows : Period → Prop) (r : Except Fault α) (calls : List Call) : Prop where
  allowed : ∀ location p, .history location p ∈ calls → allows p
  blamed : ∀ e, r = .error e → ∃ location, (∃ call ∈ calls, call.location? = some location) ∧
    ∃ cause, e = .atLocation location cause ∧ cause.root = cause

/-- The outcome of a query: nothing was asked if a rule is broken, and otherwise what was asked is fair. -/
def Gated {α : Type} (query : Query) (r : Except Fault α) (calls : List Call) : Prop :=
  (query.Broken ∧ (∃ violations, r = .error (.validation violations)) ∧ calls = []) ∨
    (¬query.Broken ∧ Fair query.Allows r calls)

section

variable {σ α β : Type} {location : String} {allows : Period → Prop}

theorem blames_ok (a : α) : Blames location (.ok a) := fun _ h => nomatch h

theorem Blames.error {e : Fault} (h : Blames location (.error e : Except Fault α)) :
    Blames location (.error e : Except Fault β) :=
  fun _ he => h _ (congrArg _ (Except.error.inj he))

theorem blames_mapError {ε : Type} {r : Except ε α} {g : ε → Fault}
    (hg : ∀ e, r = .error e → (g e).root = g e) :
    Blames location (r.mapError fun e => .atLocation location (g e)) := by
  intro e h
  cases r with
  | ok a => cases h
  | error cause =>
    cases h
    exact ⟨g cause, rfl, hg cause rfl⟩

theorem Fair.ok (a : α) : Fair allows (.ok a) [] := ⟨fun _ _ h => (nomatch h), fun _ h => nomatch h⟩

theorem Fair.error {e : Fault} {calls : List Call} (h : Fair allows (.error e : Except Fault α) calls) :
    Fair allows (.error e : Except Fault β) calls :=
  ⟨h.allowed, fun _ he => h.blamed _ (congrArg _ (Except.error.inj he))⟩

theorem Fair.append {a : α} {r : Except Fault β} {calls more : List Call}
    (h : Fair allows (.ok a) calls) (h' : Fair allows r more) : Fair allows r (calls ++ more) where
  allowed l p hmem := (List.mem_append.mp hmem).elim (h.allowed l p) (h'.allowed l p)
  blamed e he := by
    obtain ⟨l, ⟨call, hcall, hl⟩, hcause⟩ := h'.blamed e he
    exact ⟨l, ⟨call, List.mem_append_right _ hcall, hl⟩, hcause⟩

/-- After one question about a location that is allowed. -/
theorem fair_of_blames {call : Call} (hlocation : call.location? = some location)
    (hallows : ∀ l p, call = .history l p → allows p) {r : Except Fault α} (h : Blames location r) :
    Fair allows r [call] where
  allowed l p hmem := hallows l p (List.mem_singleton.mp hmem).symm
  blamed e he := ⟨location, ⟨call, List.mem_singleton_self _, hlocation⟩, h e he⟩

/-! ## Asking -/

theorem watches_ask (location : String) (call : Call) (w : Work Failure σ α) :
    Work.Watches ((w.recorded fun _ => call).atLocation location) (w.atLocation location)
      fun r calls => calls = [call] ∧ Blames location r :=
  fun _ _ => ⟨[call], rfl, rfl, blames_mapError fun _ _ => rfl⟩

/-- One question about a location, and what is done with the answer. -/
theorem watches_ask_bind {call : Call} (hlocation : call.location? = some location)
    (hallows : ∀ l p, call = .history l p → allows p) (w : Work Failure σ α)
    {f : α → Work Fault (σ × List Call) β} {g : α → Work Fault σ β}
    (hfg : ∀ a, Work.Watches (f a) (g a) fun r more => more = [] ∧ Blames location r) :
    Work.Watches ((w.recorded fun _ => call).atLocation location >>= f) (w.atLocation location >>= g)
      (Fair allows) := by
  -- The question is in the log before its answer is used, so that what goes wrong with the answer
  -- stands under a location that was asked about.
  refine Work.watches_bind (watches_ask location call w) (fun e new h => ?_)
    fun a new h => (hfg a).mono fun r more h' => ?_
  · rw [h.1]
    exact fair_of_blames hlocation hallows h.2.error
  · rw [h.1, h'.1]
    exact fair_of_blames hlocation hallows h'.2

/-- Locations one after another, until the first fault. -/
theorem watches_mapM {f : String → Work Fault (σ × List Call) β} {g : String → Work Fault σ β}
    (h : ∀ location, Work.Watches (f location) (g location) (Fair allows)) (locations : List String) :
    Work.Watches (locations.mapM f) (locations.mapM g) (Fair allows) := by
  induction locations with
  | nil => exact Work.watches_pure (Fair.ok [])
  | cons location rest ih =>
    -- A fault at the first location ends the walk, and one later comes after its questions.
    rw [List.mapM_cons, List.mapM_cons]
    refine Work.watches_bind (h location) (fun _ _ => Fair.error) fun b calls hb => ?_
    refine Work.watches_bind ih (fun _ _ h => hb.append h.error) fun bs calls' hbs => ?_
    exact Work.watches_pure (hb.append (hbs.append (Fair.ok (b :: bs))))

/-! ## The gate -/

/-- Only parameters that pass are used. -/
theorem watches_validated {query : Query} {v : Validator} {p : Parameters}
    (hbroken : query.Broken ↔ ¬v.Passes p) {f : Parameters → Work Fault (σ × List Call) α}
    {g : Parameters → Work Fault σ α}
    (hfg : v.Passes p → Work.Watches (f p) (g p) (Fair query.Allows)) :
    Work.Watches (EmissionsService.validated v p >>= f) (EmissionsService.validated v p >>= g)
      (Gated query) := by
  unfold EmissionsService.validated
  by_cases hpass : v.Passes p
  · have hfg' : Work.Watches (f p) (g p) (Gated query) :=
      (hfg hpass).mono fun r calls hfair => .inr ⟨fun hb => hbroken.mp hb hpass, hfair⟩
    rw [Validator.validate_of_passes hpass]
    exact hfg'
  · rw [Validator.validate_of_not_passes hpass]
    exact fun s log => ⟨[], by rw [List.append_nil]; rfl, .inl ⟨hbroken.mpr hpass, ⟨_, rfl⟩, rfl⟩⟩

/-- The outcome is put in another form. -/
theorem watches_map {query : Query} {v : Work Fault (σ × List Call) α} {w : Work Fault σ α}
    (h : Work.Watches v w (Gated query)) (f : α → β) :
    Work.Watches (do return f (← v)) (do return f (← w)) (Gated query) := by
  refine Work.watches_bind h (fun e calls hgated => ?_) fun a calls hgated => Work.watches_pure ?_
  · exact hgated.imp (fun h => ⟨h.1, h.2.1.imp fun _ he => congrArg _ (Except.error.inj he), h.2.2⟩)
      fun h => ⟨h.1, h.2.error⟩
  · exact hgated.elim (fun h => nomatch h.2.1.choose_spec) fun h => .inr ⟨h.1, h.2.append (Fair.ok _)⟩

end

/-! ## Queries for emissions -/

namespace EmissionsService

variable {σ : Type} (e : EmissionsService σ)

theorem manyValidator_passes_iff {q : EmissionsQuery} :
    e.manyValidator.Passes q.parameters ↔
      Named q.locations ∧ ¬OutOfOrder q.start q.stop ∧ (q.start = none → q.stop = none) := by
  constructor
  · intro h
    exact ⟨Parameters.isSet_withLocations.mp (h.given .locations (.head _)), h.ordered (.head _),
      h.started (.tail _ (.head _))⟩
  · rintro ⟨hnamed, hordered, hstarted⟩
    refine ⟨fun property hmem => ?_, fun _ => hordered, fun _ => hstarted, not_badWindow_none⟩
    obtain rfl := List.mem_singleton.mp hmem
    exact Parameters.isSet_withLocations.mpr hnamed

theorem emissions_broken_iff {q : EmissionsQuery} :
    (Query.emissions q).Broken ↔ ¬e.manyValidator.Passes q.parameters := by
  rw [manyValidator_passes_iff, not_and_or, not_and_or, not_not, Classical.not_imp]
  exact Iff.rfl

theorem meanValidator_passes_iff {q : MeanQuery} :
    e.meanValidator.Passes q.parameters ↔ Text.isBlankText q.location = false ∧
      q.start.isSome = true ∧ q.stop.isSome = true ∧ ¬OutOfOrder q.start q.stop := by
  constructor
  · intro h
    exact ⟨Parameters.isSet_withLocation.mp (h.given .location (.head _)),
      h.given .start (.tail _ (.head _)), h.given .stop (.tail _ (.tail _ (.head _))),
      h.ordered (.head _)⟩
  · rintro ⟨hnamed, hstart, hstop, hordered⟩
    refine ⟨fun property hmem => ?_, fun _ => hordered, fun hmem => ?_, not_badWindow_none⟩
    · have hproperty : property ∈ [Property.location, .start, .stop] := hmem
      simp only [List.mem_cons, List.not_mem_nil, or_false] at hproperty
      obtain rfl | rfl | rfl := hproperty
      · exact Parameters.isSet_withLocation.mpr hnamed
      · exact hstart
      · exact hstop
    · exact nomatch List.mem_singleton.mp hmem

theorem mean_broken_iff {q : MeanQuery} :
    (Query.mean q).Broken ↔ ¬e.meanValidator.Passes q.parameters := by
  rw [meanValidator_passes_iff, not_and_or, not_and_or, not_and_or, not_not, Bool.not_eq_false,
    Bool.not_eq_true, Bool.not_eq_true, Option.isSome_eq_false_iff, Option.isSome_eq_false_iff,
    Option.isNone_iff_eq_none, Option.isNone_iff_eq_none]
  exact Iff.rfl

/-- The period of a query for samples is one instant exactly if it has no end. -/
theorem period_of_many {p : Parameters} (hordered : ¬OutOfOrder p.start p.stop)
    (hstarted : p.start = none → p.stop = none) (now : Instant) :
    (period now p).start ≤ (period now p).stop ∧
      ((period now p).start = (period now p).stop ↔ p.stop = none) := by
  unfold period Parameters.startOr Parameters.stopOr
  cases hstop : p.stop with
  | none => exact ⟨Int.le_refl _, fun _ => rfl, fun _ => rfl⟩
  | some b =>
    cases hstart : p.start with
    | none => exact nomatch hstop.symm.trans (hstarted hstart)
    | some a =>
      have hlt : ¬b ≤ a := fun hle => hordered ⟨a, b, hstart, hstop, hle⟩
      rw [Instant.le_def] at hlt
      refine ⟨Instant.le_def.mpr ?_, fun heq => ?_, fun h => nomatch h⟩
      · show a.rank ≤ b.rank
        omega
      · obtain rfl : a = b := heq
        exact absurd (Int.le_refl _) hlt

/-- The period of a query for a mean is not empty. -/
theorem period_of_mean {p : Parameters} (hordered : ¬OutOfOrder p.start p.stop)
    (hstart : p.start.isSome = true) (hstop : p.stop.isSome = true) (now : Instant) :
    (period now p).start < (period now p).stop := by
  obtain ⟨a, ha⟩ := Option.isSome_iff_exists.mp hstart
  obtain ⟨b, hb⟩ := Option.isSome_iff_exists.mp hstop
  have hlt : ¬b ≤ a := fun hle => hordered ⟨a, b, ha, hb, hle⟩
  unfold period Parameters.startOr Parameters.stopOr
  rw [ha, hb]
  rw [Instant.le_def] at hlt
  exact Instant.lt_def.mpr (Int.not_le.mp hlt)

variable (s : Services σ)

theorem watches_emissions (q : EmissionsQuery) :
    Work.Watches (s.logged.emissions.emissions q) (s.emissions.emissions q) (Gated (.emissions q)) := by
  refine watches_validated (emissions_broken_iff _) fun hpass => Work.watches_read fun state log => ?_
  obtain ⟨-, hordered, hstarted⟩ := (manyValidator_passes_iff _).mp hpass
  refine Work.watches_bind (watches_mapM (fun location => ?_) _) (fun _ _ => Fair.error)
    fun histories calls h => Work.watches_pure (h.append (Fair.ok _))
  refine (watches_ask location _ _).mono fun r calls h => ?_
  rw [h.1]
  refine fair_of_blames rfl (fun l p hcall => ?_) h.2
  obtain ⟨-, rfl⟩ := Call.history.inj hcall
  exact period_of_many hordered hstarted _

theorem watches_best (q : EmissionsQuery) :
    Work.Watches (s.logged.emissions.best q) (s.emissions.best q) (Gated (.best q)) :=
  watches_map (watches_emissions s q) Series.optimum

theorem watches_mean (q : MeanQuery) :
    Work.Watches (s.logged.emissions.mean q) (s.emissions.mean q) (Gated (.mean q)) := by
  refine watches_validated (mean_broken_iff _) fun hpass => Work.watches_read fun state log => ?_
  obtain ⟨-, hstart, hstop, hordered⟩ := (meanValidator_passes_iff _).mp hpass
  refine watches_ask_bind rfl (fun l p hcall => ?_) _ fun samples =>
    Work.watches_ofExcept ⟨rfl, blames_mapError fun _ _ => rfl⟩
  obtain ⟨-, rfl⟩ := Call.history.inj hcall
  exact period_of_mean hordered hstart hstop _

end EmissionsService

/-! ## Queries for forecasts -/

namespace ForecastService

variable {σ : Type}

theorem currentValidator_passes_iff (s : ForecastService σ) {q : ForecastQuery} :
    s.currentValidator.Passes q.parameters ↔
      Named q.locations ∧ ¬OutOfOrder q.start q.stop ∧ ¬BadWindow q.window := by
  constructor
  · intro h
    exact ⟨Parameters.isSet_withLocations.mp (h.given .locations (.head _)), h.ordered (.head _),
      h.window⟩
  · rintro ⟨hnamed, hordered, hwindow⟩
    refine ⟨fun property hmem => ?_, fun _ => hordered, fun hmem => ?_, hwindow⟩
    · obtain rfl := List.mem_singleton.mp hmem
      exact Parameters.isSet_withLocations.mpr hnamed
    · exact nomatch List.mem_singleton.mp hmem

theorem current_broken_iff (s : ForecastService σ) {q : ForecastQuery} :
    (Query.current q).Broken ↔ ¬s.currentValidator.Passes q.parameters := by
  rw [currentValidator_passes_iff, not_and_or, not_and_or, not_not, not_not]
  exact Iff.rfl

theorem pastValidator_passes_iff (s : ForecastService σ) {q : PastForecastQuery} :
    s.pastValidator.Passes q.parameters ↔ Text.isBlankText q.location = false ∧
      q.requested.isSome = true ∧ ¬OutOfOrder q.start q.stop ∧ ¬BadWindow q.window := by
  constructor
  · intro h
    exact ⟨Parameters.isSet_withLocation.mp (h.given .location (.head _)),
      h.given .requested (.tail _ (.head _)), h.ordered (.head _), h.window⟩
  · rintro ⟨hnamed, hrequested, hordered, hwindow⟩
    refine ⟨fun property hmem => ?_, fun _ => hordered, fun hmem => ?_, hwindow⟩
    · have hproperty : property ∈ [Property.location, .requested] := hmem
      simp only [List.mem_cons, List.not_mem_nil, or_false] at hproperty
      obtain rfl | rfl := hproperty
      · exact Parameters.isSet_withLocation.mpr hnamed
      · exact hrequested
    · exact nomatch List.mem_singleton.mp hmem

theorem past_broken_iff (s : ForecastService σ) {q : PastForecastQuery} :
    (Query.past q).Broken ↔ ¬s.pastValidator.Passes q.parameters := by
  rw [pastValidator_passes_iff, not_and_or, not_and_or, not_and_or, not_not, not_not,
    Bool.not_eq_false, Bool.not_eq_true, Option.isSome_eq_false_iff, Option.isNone_iff_eq_none]
  exact Iff.rfl

/-- A forecast that cannot be processed stands under no location yet. -/
theorem root_of_process {names : DisplayNames} {p : Parameters} {f : Forecast} {e : Fault}
    (h : process names p f = .error e) : e.root = e := by
  unfold process at h
  split at h
  · cases h
  · next horizon _ =>
    simp only at h
    split at h
    · split at h
      · cases h
        rfl
      · cases h
    · cases h
      rfl

variable (s : Services σ)

theorem watches_processAt (p : Parameters) (location : String) (f : Forecast) :
    Work.Watches (s.logged.forecasts.processAt p location f) (s.forecasts.processAt p location f)
      fun r more => more = [] ∧ Blames location r :=
  Work.watches_ofExcept ⟨rfl, blames_mapError fun _ => root_of_process⟩

theorem watches_current (q : ForecastQuery) :
    Work.Watches (s.logged.forecasts.current q) (s.forecasts.current q) (Gated (.current q)) := by
  refine watches_validated (current_broken_iff _) fun hpass => watches_mapM (fun location => ?_) _
  exact watches_ask_bind rfl (fun l p hcall => nomatch hcall) _ (watches_processAt s _ location)

theorem watches_past (q : PastForecastQuery) :
    Work.Watches (s.logged.forecasts.past q) (s.forecasts.past q) (Gated (.past q)) := by
  refine watches_validated (past_broken_iff _) fun hpass => ?_
  cases hlocation : q.parameters.location with
  | none => exact Work.watches_pure (Fair.ok _)
  | some location =>
    cases hrequested : q.parameters.requested with
    | none => exact Work.watches_pure (Fair.ok _)
    | some requested =>
      refine watches_ask_bind rfl (fun l p hcall => nomatch hcall) _ fun f? => ?_
      cases f? with
      | none => exact Work.watches_pure ⟨rfl, blames_ok _⟩
      | some f =>
        exact Work.watches_bind (watches_processAt s q.parameters location f)
          (fun _ _ h => ⟨h.1, h.2.error⟩) fun g more h => Work.watches_pure ⟨by rw [h.1]; rfl, blames_ok _⟩

end ForecastService

namespace Services

variable {σ : Type}

theorem watches_answer (s : Services σ) (query : Query) :
    Work.Watches (s.logged.answer query) (s.answer query) (Gated query) := by
  cases query with
  | emissions q => exact watches_map (EmissionsService.watches_emissions s q) _
  | best q => exact watches_map (EmissionsService.watches_best s q) _
  | mean q => exact watches_map (EmissionsService.watches_mean s q) _
  | current q => exact watches_map (ForecastService.watches_current s q) _
  | past q => exact watches_map (ForecastService.watches_past s q) _

theorem eq_validation {location : String} {cause : Fault} {violations : Violations} (hroot : cause.root = cause)
    (h : (Fault.atLocation location cause).violations? = some violations) :
    cause = .validation violations := by
  unfold Fault.violations? at h
  rw [Fault.root, hroot] at h
  cases cause with
  | validation v => exact congrArg _ (Option.some.inj h)
  | provider | series | configuration | atLocation => cases h

/-- **Validation comes before any question.** For every query, every provider and every clock, the log of
questions changing nothing: a fault is violations under no location exactly if the query breaks a rule,
and then nothing is asked. Histories are only asked for periods that the query allows. All other
violations stand under a location that was asked about. -/
theorem answer_gated (s : Services σ) (query : Query) (state : σ) :
    let outcome := ((s.logged.answer query).start (state, [])).1
    let after := ((s.logged.answer query).start (state, [])).2
    (s.answer query).start state = (outcome, after.1) ∧
      ((∃ violations, outcome = .error (.validation violations)) ↔ query.Broken) ∧
      (query.Broken → after.2 = []) ∧
      (∀ location p, .history location p ∈ after.2 → query.Allows p) ∧
      ∀ fault violations, outcome = .error fault → fault.violations? = some violations →
        ¬query.Broken → ∃ location, fault = .atLocation location (.validation violations) ∧
          ∃ call ∈ after.2, call.location? = some location := by
  intro outcome after
  obtain ⟨calls, hstart, hgated⟩ := watches_answer s query state []
  have houtcome : outcome = ((s.answer query).start state).1 := congrArg (·.1) hstart
  have hcalls : after.2 = calls := congrArg (·.2.2) hstart
  rw [← houtcome] at hgated
  refine ⟨Prod.ext houtcome.symm (congrArg (·.2.1) hstart).symm, ?_⟩
  rw [hcalls]
  obtain ⟨hbroken, ⟨violations, hfault⟩, rfl⟩ | ⟨hkept, hfair⟩ := hgated
  · exact ⟨iff_of_true ⟨violations, hfault⟩ hbroken, fun _ => rfl, fun _ _ h => (nomatch h),
      fun _ _ _ _ hkept => absurd hbroken hkept⟩
  · refine ⟨iff_of_false ?_ hkept, fun hbroken => absurd hbroken hkept, hfair.allowed, ?_⟩
    · rintro ⟨violations, hfault⟩
      obtain ⟨_, -, _, he, -⟩ := hfair.blamed _ hfault
      exact nomatch he
    · intro fault violations hfault hviolations _
      obtain ⟨location, hasked, cause, rfl, hroot⟩ := hfair.blamed _ hfault
      exact ⟨location, by rw [eq_validation hroot hviolations], hasked⟩

end Services

end CarbonIntensity
