import CarbonIntensity.Proofs.WattTime.History

/-!
# Past forecasts

A past forecast is asked for by one instant, the start of the step of five minutes that the requested one
is in. It is the first snapshot of the answer, whenever that was generated, and an answer without snapshots
means that no forecast existed.

    x.forecastAsOf location requested = .ok none ↔ x.list = []      (isFirst_forecastAsOf)

The instant that is asked for is not after the requested one (askedAt_le). A forecast looks ahead where the
first snapshot does (forecastAsOf_looks_ahead), which it does not in the answer of a service that keeps to
the period it is asked for.
-/

namespace CarbonIntensity.WattTime

/-- The instant that the service is asked for in place of the requested one. -/
def askedAt (requested : Instant) : Instant := (requested.truncate (Span.minutes 5)).withoutFraction

/-- What is asked of the service for a past forecast. -/
def snapshotQuery (region : String) (requested : Instant) : List (String × String) :=
  let step := (requested.truncate (Span.minutes 5)).wholeSecondText
  [("region", region), ("start", step), ("end", step), signal]

theorem askedAt_le (requested : Instant) : askedAt requested ≤ requested :=
  Instant.le_trans (Instant.withoutFraction_le _) (Instant.truncate_le requested _)

theorem writtenPeriod?_snapshotQuery (region : String) (requested : Instant) :
    writtenPeriod? (snapshotQuery region requested) = some (Period.ofInstant (askedAt requested)) :=
  Period.writtenPeriod?_ofInstant rfl rfl

/-! ## The choice of a snapshot -/

/-- The forecast as of an instant that an answer stands for. -/
def Snapshots.forecastAsOf (x : Snapshots) (location : String) (requested : Instant) :
    Except Failure (Option Forecast) :=
  match x.list with
  | [] => .ok none
  | first :: _ => (first.forecast location).map fun f => some { f with requestedAt := some requested }

theorem Snapshot.forecast_eq (x : Snapshot) (location : String) :
    x.forecast location = (forecastSamples x.points location).map fun data =>
      { location, generatedAt := x.generatedAt, data } := by
  unfold forecast
  cases forecastSamples x.points location with
  | error e => rfl
  | ok data => rfl

theorem Snapshots.forecastAsOf_nil {x : Snapshots} (h : x.list = []) (location : String)
    (requested : Instant) : x.forecastAsOf location requested = .ok none := by
  unfold forecastAsOf
  rw [h]

theorem Snapshots.forecastAsOf_cons {x : Snapshots} {first : Snapshot} {rest : List Snapshot}
    (h : x.list = first :: rest) (location : String) (requested : Instant) :
    x.forecastAsOf location requested = (forecastSamples first.points location).map fun data =>
      some { location, generatedAt := first.generatedAt, requestedAt := some requested, data } := by
  unfold forecastAsOf
  rw [h]
  show (first.forecast location).map _ = _
  rw [Snapshot.forecast_eq]
  cases forecastSamples first.points location with
  | error e => rfl
  | ok data => rfl

/-- No forecast without snapshots, and otherwise the first one, however many there are: its points for the
location, the instant it was generated at and the requested one. -/
structure IsFirst (location : String) (requested : Instant) (list : List Snapshot)
    (outcome : Except Failure (Option Forecast)) : Prop where
  none_iff : outcome = .ok none ↔ list = []
  some_iff : ∀ f, outcome = .ok (some f) ↔ ∃ first rest samples, list = first :: rest ∧
    forecastSamples first.points location = .ok samples ∧
    f = { location, generatedAt := first.generatedAt, requestedAt := some requested, data := samples }
  error_iff : ∀ e, outcome = .error e ↔ ∃ first rest, list = first :: rest ∧
    forecastSamples first.points location = .error e

/-- No forecast from after the requested instant, and none at all exactly if no snapshot was generated up
to it. -/
structure NoLookAhead (requested : Instant) (list : List Snapshot)
    (outcome : Except Failure (Option Forecast)) : Prop where
  le_requested : ∀ f, outcome = .ok (some f) → f.generatedAt ≤ requested
  none_iff : outcome = .ok none ↔ ∀ x ∈ list, ¬x.generatedAt ≤ requested

theorem isFirst_forecastAsOf (x : Snapshots) (location : String) (requested : Instant) :
    IsFirst location requested x.list (x.forecastAsOf location requested) := by
  cases hlist : x.list with
  | nil =>
    rw [Snapshots.forecastAsOf_nil hlist]
    exact ⟨by simp, by simp, by simp⟩
  | cons first rest =>
    rw [Snapshots.forecastAsOf_cons hlist]
    cases hsamples : forecastSamples first.points location with
    | error fault =>
      exact ⟨by simp [Except.map], by simp [Except.map, hsamples], by simp [Except.map, hsamples]⟩
    | ok samples =>
      exact ⟨by simp [Except.map], by simp [Except.map, hsamples, eq_comm], by simp [Except.map, hsamples]⟩

/-- The first snapshot decides on all of them. -/
theorem IsFirst.noLookAhead {location : String} {requested : Instant} {list : List Snapshot}
    {outcome : Except Failure (Option Forecast)} (h : IsFirst location requested list outcome)
    (hfirst : ∀ x, list.head? = some x → x.generatedAt ≤ requested) :
    NoLookAhead requested list outcome where
  le_requested := by
    intro f hf
    obtain ⟨first, rest, samples, rfl, -, rfl⟩ := (h.some_iff f).mp hf
    exact hfirst first rfl
  none_iff := by
    rw [h.none_iff]
    constructor
    · rintro rfl x hx
      cases hx
    · intro hlate
      cases list with
      | nil => rfl
      | cons first rest => exact absurd (hfirst first rfl) (hlate first List.mem_cons_self)

/-- What the service generated in the period that is asked for was there at the requested instant. -/
theorem le_of_holds_askedAt {requested t : Instant}
    (h : (Period.ofInstant (askedAt requested)).holds t = true) : t ≤ requested := by
  unfold Period.holds at h
  rw [Bool.and_eq_true, decide_eq_true_iff, decide_eq_true_iff] at h
  exact Instant.le_trans h.2 (askedAt_le requested)

/-! ## The client -/

namespace Client

variable {σ : Type} (c : Client) (l : Link σ)

theorem forecastAsOf_eq (location : String) (requested : Instant) :
    c.forecastAsOf l location requested = (do
      let region ← c.regionOf l location
      let snapshots ← c.ask l "forecast/historical" (snapshotQuery region requested)
        ("historical forecast for region " ++ region) Snapshots.ofJson?
      Work.ofExcept (snapshots.forecastAsOf location requested)) := by
  unfold forecastAsOf
  refine bind_congr fun region => bind_congr fun snapshots => ?_
  unfold Snapshots.forecastAsOf
  cases snapshots.list with
  | nil => rfl
  | cons first rest =>
    show (Work.ofExcept (first.forecast location) >>= _) = Work.ofExcept (Except.map _ _)
    cases first.forecast location with
    | error e => rfl
    | ok forecast => rfl

section

variable {location : String} {requested : Instant} {s u t : σ} {region : String} {url : Url} {answer : Answer}
  {snapshots : Snapshots} (hregion : (c.regionOf l location).start s = (.ok region, u))
  (hurl : BaseUrl.endpoint providerName c.baseUrl "forecast/historical" = .ok url)
  (hanswer : (l.request url (snapshotQuery region requested)).start u = (.ok answer, t))
  (hsuccess : Status.isSuccess answer.status = true)
  (hread : Payload.read providerName ("historical forecast for region " ++ region) Snapshots.ofJson?
    answer.body = .ok snapshots)

include hregion hurl hanswer hsuccess hread

theorem start_forecastAsOf :
    (c.forecastAsOf l location requested).start s = (snapshots.forecastAsOf location requested, t) := by
  have hask := (c.ask_ok_iff l).mpr ⟨url, answer, hurl, hanswer, hsuccess, hread⟩
  rw [forecastAsOf_eq, Work.start_bind, hregion]
  show (_ >>= _ : Work Failure σ (Option Forecast)).start u = _
  rw [Work.start_bind, hask]
  exact Work.start_ofExcept _ t

/-- **Past forecasts.** Of a well-formed answer, a past forecast is the first snapshot, and there is none
exactly if the answer is empty. The answer is one to the question for a single instant up to the requested
one. If its first snapshot was generated up to the requested instant, and so if all its snapshots lie in the
period that was asked for, the forecast does not look ahead, and there is none only if no snapshot was
generated up to the requested instant. -/
theorem forecastAsOf_first :
    ∃ outcome, (c.forecastAsOf l location requested).start s = (outcome, t) ∧
      IsFirst location requested snapshots.list outcome ∧
      writtenPeriod? (snapshotQuery region requested) = some (Period.ofInstant (askedAt requested)) ∧
      askedAt requested ≤ requested ∧
      ((∀ x, snapshots.list.head? = some x → x.generatedAt ≤ requested) →
        NoLookAhead requested snapshots.list outcome) ∧
      ((∀ x ∈ snapshots.list, (Period.ofInstant (askedAt requested)).holds x.generatedAt = true) →
        NoLookAhead requested snapshots.list outcome) := by
  have hfirst := isFirst_forecastAsOf snapshots location requested
  refine ⟨snapshots.forecastAsOf location requested,
    c.start_forecastAsOf l hregion hurl hanswer hsuccess hread, hfirst,
    writtenPeriod?_snapshotQuery region requested, askedAt_le requested, hfirst.noLookAhead, ?_⟩
  intro hperiod
  exact hfirst.noLookAhead fun x hx => le_of_holds_askedAt (hperiod x (List.mem_of_mem_head? hx))

end

/-! ## A snapshot of five minutes after noon -/

/-- A snapshot with two points. -/
def snapshotOfMay : Snapshot :=
  ⟨ofMay 43500 0, [⟨ofMay 43800 0, 1.0, none⟩, ⟨ofMay 44100 0, 2.0, none⟩]⟩

def snapshotBody : String :=
  let point (x : DataPoint) : Document :=
    .object [("point_time", .instant x.time), ("value", .float x.value)]
  (Document.object [("data", .array [.object [("generated_at", .instant snapshotOfMay.generatedAt),
    ("forecast", .array (snapshotOfMay.points.map point))]])]).compact

/-- A session in which a token, a region and the snapshot are answered. -/
def snapshotSession : Session :=
  let reply (body : String) : Reply := .answer ⟨200, body⟩
  let token : Document := .object [("token", .string "t")]
  let region : Document := .object [("region", .string "R")]
  ⟨⟨Clock.ofInstant (ofMay 50000 0),
    .scripted [reply token.compact, reply region.compact, reply snapshotBody], []⟩,
    Memory.fresh (Span.minutes 1440)⟩

/-- The state in which the snapshot is asked for. -/
@[irreducible]
def snapshotAsked : Session := ((oneLocation.regionOf oneLocation.link "x").start snapshotSession).2

def snapshotUrl : Url := { oneLocation.baseUrl with path := .segments ["v3", "forecast", "historical"] }

theorem endpoint_snapshotUrl :
    BaseUrl.endpoint providerName oneLocation.baseUrl "forecast/historical" = .ok snapshotUrl := by
  decide +kernel

theorem regionOf_snapshotSession :
    (oneLocation.regionOf oneLocation.link "x").start snapshotSession = (.ok "R", snapshotAsked) := by
  unfold snapshotAsked
  exact Work.start_eq (by decide +kernel)

theorem read_snapshotBody : Payload.read providerName ("historical forecast for region " ++ "R")
    Snapshots.ofJson? snapshotBody = .ok ⟨[snapshotOfMay], {}⟩ := by decide +kernel

/-- The session answers whatever is requested. -/
theorem request_snapshotAsked :
    ((oneLocation.link.request snapshotUrl (snapshotQuery "R" (ofMay 43620 0))).start snapshotAsked).1 =
      .ok ⟨200, snapshotBody⟩ ∧
    ((oneLocation.link.request snapshotUrl (snapshotQuery "R" (ofMay 43440 0))).start snapshotAsked).1 =
      .ok ⟨200, snapshotBody⟩ := by decide +kernel

theorem isSuccess_snapshotBody : Status.isSuccess (Answer.mk 200 snapshotBody).status = true := by decide

/-- Seven minutes after noon, the question is for the instant at which the snapshot was generated. -/
theorem forecastAsOf_first_seven_past :
    ∃ t, (oneLocation.regionOf oneLocation.link "x").start snapshotSession = (.ok "R", snapshotAsked) ∧
      BaseUrl.endpoint providerName oneLocation.baseUrl "forecast/historical" = .ok snapshotUrl ∧
      (oneLocation.link.request snapshotUrl (snapshotQuery "R" (ofMay 43620 0))).start snapshotAsked =
        (.ok ⟨200, snapshotBody⟩, t) ∧
      Status.isSuccess (Answer.mk 200 snapshotBody).status = true ∧
      Payload.read providerName ("historical forecast for region " ++ "R") Snapshots.ofJson? snapshotBody =
        .ok ⟨[snapshotOfMay], {}⟩ ∧
      askedAt (ofMay 43620 0) = snapshotOfMay.generatedAt ∧
      ∃ f, (oneLocation.forecastAsOf oneLocation.link "x" (ofMay 43620 0)).start snapshotSession =
          (.ok (some f), t) ∧
        f.generatedAt = snapshotOfMay.generatedAt ∧ f.generatedAt ≤ ofMay 43620 0 := by
  have hanswer := Work.start_eq request_snapshotAsked.1
  have hasked : askedAt (ofMay 43620 0) = snapshotOfMay.generatedAt := by decide +kernel
  refine ⟨_, regionOf_snapshotSession, endpoint_snapshotUrl, hanswer, isSuccess_snapshotBody,
    read_snapshotBody, hasked, ?_⟩
  obtain ⟨outcome, hrun, hfirst, -, -, -, hperiod⟩ := forecastAsOf_first oneLocation oneLocation.link
    regionOf_snapshotSession endpoint_snapshotUrl hanswer isSuccess_snapshotBody read_snapshotBody
  have hsome := (hfirst.some_iff _).mpr ⟨snapshotOfMay, [], _, rfl, rfl, rfl⟩
  rw [hsome] at hrun hperiod
  refine ⟨_, hrun, rfl, (hperiod ?_).le_requested _ rfl⟩
  intro x hx
  obtain rfl := List.mem_singleton.mp hx
  rw [hasked]
  decide

/-- Four minutes after noon, before there is any snapshot, the one in the answer is the forecast all the
same. -/
theorem forecastAsOf_looks_ahead : ∃ f t,
    Payload.read providerName ("historical forecast for region " ++ "R") Snapshots.ofJson? snapshotBody =
      .ok ⟨[snapshotOfMay], {}⟩ ∧
    (oneLocation.forecastAsOf oneLocation.link "x" (ofMay 43440 0)).start snapshotSession =
      (.ok (some f), t) ∧
    ¬f.generatedAt ≤ ofMay 43440 0 ∧ ∀ x ∈ [snapshotOfMay], ¬x.generatedAt ≤ ofMay 43440 0 := by
  have hrun := oneLocation.start_forecastAsOf oneLocation.link regionOf_snapshotSession
    endpoint_snapshotUrl (Work.start_eq request_snapshotAsked.2) isSuccess_snapshotBody read_snapshotBody
  exact ⟨_, _, read_snapshotBody, hrun, by decide, by decide⟩

end Client

end CarbonIntensity.WattTime
