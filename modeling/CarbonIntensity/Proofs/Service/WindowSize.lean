import CarbonIntensity.Proofs.Query.Phases
import CarbonIntensity.Proofs.Service.Locations

/-!
# The size of windows

The window of a query for forecasts is measured in whole minutes, the rest cut off, before it is used:

    BadWindow (some d) ↔ ¬d.Admitted      (badWindow_some_iff)

where the windows that are admitted are those of at least nothing and less than 525601 minutes. Any other
window ends the query before a provider is asked, and is reported under its name unless something required
is missing (`window_gate`). So a window can be longer than 525600 minutes by less than a minute.
-/

namespace CarbonIntensity

/-- A window that is not negative and has at most 525600 whole minutes. -/
def Span.Admitted (d : Span) : Prop := 0 ≤ d.nanos ∧ d.nanos < 525601 * 60000000000

instance (d : Span) : Decidable d.Admitted :=
  inferInstanceAs (Decidable (0 ≤ d.nanos ∧ d.nanos < 525601 * 60000000000))

theorem badWindow_some_iff {d : Span} : BadWindow (some d) ↔ ¬d.Admitted := by
  have hminutes : 0 ≤ d.nanos → d.wholeMinutes = d.nanos / 60000000000 := Int.tdiv_eq_ediv_of_nonneg
  have hlimit : (Validator.windowLimit : Int) = 525600 := rfl
  unfold Span.Admitted
  constructor
  · rintro ⟨d', hd, hneg | hlong⟩
    · obtain rfl := Option.some.inj hd
      have hneg' : d.nanos < 0 := hneg
      omega
    · obtain rfl := Option.some.inj hd
      omega
  · intro h
    refine ⟨d, rfl, ?_⟩
    by_cases hneg : d.nanos < 0
    · exact .inl hneg
    · right
      rw [hminutes (by omega), hlimit]
      omega

/-! ## Queries with a window -/

namespace Query

def window? : Query → Option Span
  | current q => q.window
  | past q => q.window
  | _ => none

def withoutWindow : Query → Query
  | current q => current { q with window := none }
  | past q => past { q with window := none }
  | query => query

/-- Nothing that a query for forecasts requires is missing. -/
def Complete : Query → Prop
  | current q => Named q.locations
  | past q => Text.isBlankText q.location = false ∧ q.requested ≠ none
  | _ => True

theorem broken_of_window {query : Query} {d : Span} (h : query.window? = some d) :
    query.Broken ↔ query.withoutWindow.Broken ∨ ¬d.Admitted := by
  rw [← badWindow_some_iff]
  cases query with
  | emissions q => cases h
  | best q => cases h
  | mean q => cases h
  | current q =>
    have hwindow : q.window = some d := h
    show ¬Named q.locations ∨ OutOfOrder q.start q.stop ∨ BadWindow q.window ↔
      (¬Named q.locations ∨ OutOfOrder q.start q.stop ∨ BadWindow none) ∨ BadWindow (some d)
    rw [hwindow, or_iff_left not_badWindow_none, or_assoc]
  | past q =>
    have hwindow : q.window = some d := h
    show Text.isBlankText q.location = true ∨ q.requested = none ∨ OutOfOrder q.start q.stop ∨
        BadWindow q.window ↔
      (Text.isBlankText q.location = true ∨ q.requested = none ∨ OutOfOrder q.start q.stop ∨
        BadWindow none) ∨ BadWindow (some d)
    rw [hwindow, or_iff_left not_badWindow_none, or_assoc, or_assoc]

end Query

/-- The outcome tells whether a rule is broken. -/
theorem Gated.validation_iff {α : Type} {query : Query} {r : Except Fault α} {calls : List Call}
    (h : Gated query r calls) : (∃ violations, r = .error (.validation violations)) ↔ query.Broken := by
  obtain ⟨hbroken, hfault, -⟩ | ⟨hkept, hfair⟩ := h
  · exact iff_of_true hfault hbroken
  · refine iff_of_false ?_ hkept
    rintro ⟨violations, hfault⟩
    obtain ⟨_, -, _, he, -⟩ := hfair.blamed _ hfault
    exact nomatch he

/-! ## What is reported -/

theorem Validator.badWindow_mem_findings {calls : List Validator.Call} {p : Parameters} {d : Span}
    (hd : p.window = some d) (hbad : ¬d.Admitted)
    (hgiven : ∀ property ∈ (built calls).required, p.isSet property = true) :
    (namesOf calls).badWindow d ∈ (built calls).findings p := by
  have hmissing : missing calls p = [] :=
    List.map_eq_nil_iff.mp ((missing_built calls p).symm.trans (missing_eq_nil_iff.mpr hgiven))
  rw [findings_built]
  unfold expected faults
  rw [if_pos hmissing, hd, if_pos (badWindow_some_iff.mpr hbad)]
  exact List.mem_append_right _ (List.mem_singleton_self _)

namespace ForecastService

variable {σ : Type} (f : ForecastService σ) {d : Span}

theorem badWindow_mem_current {q : ForecastQuery} (hwindow : q.window = some d) (hbad : ¬d.Admitted)
    (hnamed : Named q.locations) : f.names.badWindow d ∈ f.currentValidator.findings q.parameters := by
  have hbuilt : f.currentValidator = Validator.built [.require [.locations], .withNames f.names] := rfl
  rw [hbuilt]
  refine Validator.badWindow_mem_findings hwindow hbad fun property hmem => ?_
  obtain rfl := List.mem_singleton.mp hmem
  exact Parameters.isSet_withLocations.mpr hnamed

theorem badWindow_mem_past {q : PastForecastQuery} (hwindow : q.window = some d) (hbad : ¬d.Admitted)
    (hnamed : Text.isBlankText q.location = false) (hrequested : q.requested ≠ none) :
    f.names.badWindow d ∈ f.pastValidator.findings q.parameters := by
  have hbuilt : f.pastValidator =
      Validator.built [.require [.location, .requested], .withNames f.names] := rfl
  rw [hbuilt]
  refine Validator.badWindow_mem_findings hwindow hbad fun property hmem => ?_
  have hproperty : property ∈ [Property.location, .requested] := hmem
  simp only [List.mem_cons, List.not_mem_nil, or_false] at hproperty
  obtain rfl | rfl := hproperty
  · exact Parameters.isSet_withLocation.mpr hnamed
  · exact Option.isSome_iff_ne_none.mpr hrequested

theorem start_past_of_broken {q : PastForecastQuery} (hq : (Query.past q).Broken) (s : σ) :
    (f.past q).start s =
      (.error (.validation (Validator.report (f.pastValidator.findings q.parameters))), s) := by
  unfold past EmissionsService.validated
  rw [Validator.validate_of_not_passes ((f.past_broken_iff).mp hq)]
  rfl

end ForecastService

namespace Services

variable {σ : Type}

/-- A window that is not admitted ends the query, and is reported unless something is missing. -/
theorem start_answer_of_badWindow (s : Services σ) {query : Query} {d : Span}
    (hwindow : query.window? = some d) (hbad : ¬d.Admitted) (state : σ) :
    ∃ messages, (s.answer query).start state =
        (.error (.validation (Validator.report messages)), state) ∧
      (query.Complete → s.forecasts.names.badWindow d ∈ messages) := by
  have hbroken : query.Broken := (Query.broken_of_window hwindow).mpr (.inr hbad)
  cases query with
  | emissions q => cases hwindow
  | best q => cases hwindow
  | mean q => cases hwindow
  | current q =>
    refine ⟨_, ?_, fun hcomplete => s.forecasts.badWindow_mem_current hwindow hbad hcomplete⟩
    unfold answer
    rw [Work.start_bind, s.forecasts.start_current_of_broken hbroken]
  | past q =>
    refine ⟨_, ?_, fun hcomplete => s.forecasts.badWindow_mem_past hwindow hbad hcomplete.1 hcomplete.2⟩
    unfold answer
    rw [Work.start_bind, s.forecasts.start_past_of_broken hbroken]

/-- **No window of a year and a minute.** For every query for forecasts with a window: if the window is
negative or has more than 525600 whole minutes, the query ends in violations before any question, and
unless something required is missing the window is reported under its name. If it is admitted, the query
ends so exactly if it would without a window. -/
theorem window_gate (s : Services σ) {query : Query} {d : Span} (hwindow : query.window? = some d)
    (state : σ) :
    let outcome := ((s.logged.answer query).start (state, [])).1
    let asked := ((s.logged.answer query).start (state, [])).2.2
    (¬d.Admitted → asked = [] ∧ ∃ violations, outcome = .error (.validation violations) ∧
      (query.Complete → ∃ texts, violations.messages? (s.forecasts.names.name .window) = some texts ∧
        (s.forecasts.names.badWindow d).2 ∈ texts)) ∧
    (d.Admitted → ((∃ violations, outcome = .error (.validation violations)) ↔
      query.withoutWindow.Broken)) := by
  intro outcome asked
  constructor
  · intro hbad
    obtain ⟨messages, hstart, hreported⟩ := s.logged.start_answer_of_badWindow hwindow hbad (state, [])
    refine ⟨congrArg (·.2.2) hstart, _, congrArg (·.1) hstart, fun hcomplete => ?_⟩
    exact (Violations.groups_report messages).messages?_of_mem (hreported hcomplete)
  · intro hadmitted
    obtain ⟨calls, hstart, hgated⟩ := watches_answer s query state []
    have houtcome : outcome = ((s.answer query).start state).1 := congrArg (·.1) hstart
    rw [houtcome, hgated.validation_iff, Query.broken_of_window hwindow]
    exact or_iff_left (not_not_intro hadmitted)

/-- A file with a forecast of two years. -/
def twoYears : DataFile :=
  ⟨[], [{
    location := "x"
    generatedAt := Instant.epoch
    data := [⟨"x", Instant.epoch, Span.minutes 1051200, 1.0⟩] }]⟩

def ofTwoYears : Services Unit :=
  ⟨⟨twoYears.provider, fun _ => Instant.epoch, DisplayNames.usual⟩, ⟨twoYears.provider, DisplayNames.usual⟩⟩

/-- Asks for windows of a year and a minute. -/
def yearAndMinute : Query :=
  .past { location := "x", requested := some Instant.epoch, window := some (Span.minutes 525601) }

/-- A window of a year and a minute is reported, and nothing is asked. -/
theorem window_gate_year_and_minute :
    yearAndMinute.window? = some (Span.minutes 525601) ∧ ¬(Span.minutes 525601).Admitted ∧
      yearAndMinute.Complete ∧ ((ofTwoYears.logged.answer yearAndMinute).start ((), [])).2.2 = [] ∧
      ∃ violations texts,
        ((ofTwoYears.logged.answer yearAndMinute).start ((), [])).1 = .error (.validation violations) ∧
        violations.messages? "Duration" = some texts ∧
        "Duration must not exceed 525600 minutes" ∈ texts := by
  have hbad : ¬(Span.minutes 525601).Admitted := by decide
  have hcomplete : yearAndMinute.Complete := by
    show Text.isBlankText "x" = false ∧ some Instant.epoch ≠ none
    decide
  have hwindow : yearAndMinute.window? = some (Span.minutes 525601) := rfl
  obtain ⟨hasked, violations, hviolations, hreported⟩ := (window_gate ofTwoYears hwindow ()).1 hbad
  obtain ⟨texts, htexts, hmem⟩ := hreported hcomplete
  exact ⟨hwindow, hbad, hcomplete, hasked, violations, texts, hviolations, htexts, hmem⟩

/-- A window a nanosecond longer than a year. -/
def justOverYear : Span := ⟨525600 * 60000000000 + 1, by decide⟩

/-- A forecast is put into windows that are longer than a year. -/
theorem window_over_year :
    (Span.minutes 525600) < justOverYear ∧
      ∃ g, (ofTwoYears.forecasts.current { locations := ["x"], window := some justOverYear }).start () =
        (.ok [g], ()) ∧ g.windowSize = justOverYear ∧ g.data.length = 1 := by
  have hrun : ((ofTwoYears.forecasts.current { locations := ["x"], window := some justOverYear }).start
      ()).1.toOption.map (List.map fun g => (g.windowSize, g.data.length)) = some [(justOverYear, 1)] := by
    decide +kernel
  obtain ⟨forecasts, hforecasts, hmap⟩ := ok_of_toOption_map hrun
  obtain ⟨g, rfl, hg⟩ := List.map_eq_singleton_iff.mp hmap
  obtain ⟨hsize, hlength⟩ := Prod.mk.inj hg
  exact ⟨by decide, g, Work.start_eq hforecasts, hsize, hlength⟩

end Services

end CarbonIntensity
