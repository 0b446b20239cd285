import CarbonIntensity.Json.Document
import CarbonIntensity.Proofs.Provider.InTurn
import CarbonIntensity.Proofs.Series.Meets
import CarbonIntensity.Proofs.Time.Period
import CarbonIntensity.WattTime.Client

/-!
# Complete histories

The service keeps points for each region, each with a frequency of two hours at most, and answers a
question for a history with those in the period that the question gives. The client asks for two hours
more on either side, in whole seconds, and clips what it gets:

    samples = (listed.filter (·.touches p)).map (·.sample location)

where `listed` are the points of the answer. None of the stored points with a part in the period is
missing from it, so that the samples are those points, each as often as it is stored.
-/

namespace CarbonIntensity.WattTime

/-- A point that the service keeps. -/
structure StoredPoint where
  time : Instant
  value : Float
  /-- Seconds that the point stands for. -/
  seconds : Int
  steady : time.isLeap = false
  bounds : 1 ≤ seconds ∧ seconds ≤ 7200

namespace StoredPoint

/-- The point as the service lists it. -/
def point (x : StoredPoint) : DataPoint := ⟨x.time, x.value, some x.seconds⟩

/-- How long the point stands. -/
def duration (x : StoredPoint) : Span :=
  ⟨x.seconds * 1000000000, by have := x.bounds; unfold Span.limit; omega⟩

def sample (location : String) (x : StoredPoint) : Sample :=
  ⟨location, x.time, x.duration, gramsPerKilowattHour x.value⟩

/-- The interval of the point has a part in the period. -/
def touches (p : Period) (x : StoredPoint) : Bool := p.touchedBy x.time x.duration.nanos

end StoredPoint

/-- What is asked of the service for a history. -/
def historyQuery (region : String) (p : Period) : List (String × String) :=
  let wide := p.widen (Span.minutes 120)
  [("region", region), ("start", wide.start.wholeSecondText), ("end", wide.stop.wholeSecondText), signal]

/-- In this state the service answers the query with the points it keeps of the region that lie in the
period of the query, in some order. -/
def Link.Answers {σ : Type} (l : Link σ) (store : String → List StoredPoint) (url : Url)
    (query : List (String × String)) (s : σ) : Prop :=
  ∀ answer t data region asked, (l.request url query).start s = (.ok answer, t) →
    Status.isSuccess answer.status = true → Json.decode GridData.ofJson? answer.body = .ok data →
    query.lookup "region" = some region → writtenPeriod? query = some asked →
      ∃ listed : List StoredPoint, listed.Perm ((store region).filter fun x => asked.holds x.time) ∧
        data.points = listed.map StoredPoint.point

/-! ## Points and samples -/

theorem ownDuration?_point (x : StoredPoint) : x.point.ownDuration? = some x.duration := by
  have hbounds := x.bounds
  show Span.ofNanos? (x.seconds * 1000000000) = some x.duration
  exact Span.ofNanos?_nanos x.duration

/-- Each listed point becomes a sample of its own length. -/
theorem history_of_listed {d : GridData} {listed : List StoredPoint}
    (h : d.points = listed.map StoredPoint.point) (location : String) :
    d.history location = listed.map (StoredPoint.sample location) := by
  unfold GridData.history
  rw [h, List.map_map]
  refine List.map_congr_left fun x _ => ?_
  show x.point.sample location (x.point.ownDuration?.getD _) = x.sample location
  rw [ownDuration?_point]
  rfl

section

variable {p : Period} (hstart : p.start.isLeap = false) (hstop : p.stop.isLeap = false)
  (hend : (p.stop.add? (Span.minutes 120)).isSome = true)

include hstart hstop hend

theorem start_lt_latest (horder : p.start ≤ p.stop) : p.start < Instant.latest := by
  obtain ⟨t, ht⟩ := Option.isSome_iff_exists.mp hend
  have hleap := Instant.isLeap_of_add? hstop ht
  have hticks := Instant.ticks_of_add? hstop ht
  have hminutes : (Span.minutes 120).nanos = 7200000000000 := by decide
  have hle := (Instant.le_iff_ticks_le hstart hstop).mp horder
  refine Instant.lt_latest hleap ?_
  rw [Instant.lt_iff_ticks_lt hstart hleap]
  omega

theorem clip_history (horder : p.start ≤ p.stop) (location : String) (listed : List StoredPoint) :
    Series.clip p (listed.map (StoredPoint.sample location)) =
      (listed.filter (StoredPoint.touches p)).map (StoredPoint.sample location) := by
  unfold Series.clip
  rw [List.filter_map]
  refine congrArg _ (List.filter_congr fun x _ => ?_)
  have hpos : Span.zero ≤ x.duration := by
    have hbounds := x.bounds
    show 0 ≤ x.seconds * 1000000000
    omega
  exact Sample.meets_eq_touchedBy (s := x.sample location) x.steady hstart hstop hpos
    (start_lt_latest hstart hstop hend horder)

/-- A point with a part in the period lies in the period that is asked for. -/
theorem asked_holds (horder : p.start ≤ p.stop) {x : StoredPoint} (h : x.touches p = true) :
    (p.widen (Span.minutes 120)).wholeSeconds.holds x.time = true := by
  have hbounds := x.bounds
  have hle := (Instant.le_iff_ticks_le hstart hstop).mp horder
  have hminutes : (Span.minutes 120).nanos = 7200000000000 := by decide
  have hduration : x.duration.nanos = x.seconds * 1000000000 := rfl
  have hpart : x.time.ticks ≤ p.stop.ticks ∧ p.start.ticks < x.time.ticks + x.duration.nanos := by
    unfold StoredPoint.touches Period.touchedBy at h
    split at h
    · rw [Bool.and_eq_true, decide_eq_true_iff, decide_eq_true_iff] at h
      omega
    · rw [Bool.and_eq_true, decide_eq_true_iff, decide_eq_true_iff] at h
      omega
  refine Period.widen_wholeSeconds_holds hstart hstop (by decide) hend x.steady ?_ hpart.1
  omega

/-- What is asked for has all that is stored with a part in the period. -/
theorem touching_perm (horder : p.start ≤ p.stop) {listed stored : List StoredPoint}
    (h : listed.Perm (stored.filter fun x => (p.widen (Span.minutes 120)).wholeSeconds.holds x.time)) :
    (listed.filter (StoredPoint.touches p)).Perm (stored.filter (StoredPoint.touches p)) := by
  have hfiltered := h.filter (StoredPoint.touches p)
  rw [List.filter_filter] at hfiltered
  have hsame : (stored.filter fun x => StoredPoint.touches p x &&
      (p.widen (Span.minutes 120)).wholeSeconds.holds x.time) = stored.filter (StoredPoint.touches p) := by
    refine List.filter_congr fun x _ => ?_
    cases htouches : StoredPoint.touches p x with
    | false => rfl
    | true =>
      rw [asked_holds hstart hstop hend horder htouches]
      rfl
  rw [hsame] at hfiltered
  exact hfiltered

end

/-! ## The client -/

theorem ok_of_read {α : Type} {provider resource body : String} {decode : Json → Option α} {a : α}
    (h : Payload.read provider resource decode body = .ok a) : Json.decode decode body = .ok a := by
  unfold Payload.read at h
  split at h
  · cases h
  · split at h
    · next hdecode =>
      cases h
      exact hdecode
    · cases h

namespace Client

variable {σ : Type} (c : Client) (l : Link σ)

/-- What is behind an answer that was read. -/
theorem ask_ok_iff {α : Type} {path : String} {query : List (String × String)} {resource : String}
    {read : Json → Option α} {s t : σ} {a : α} :
    (c.ask l path query resource read).start s = (.ok a, t) ↔
      ∃ url answer, BaseUrl.endpoint providerName c.baseUrl path = .ok url ∧
        (l.request url query).start s = (.ok answer, t) ∧ Status.isSuccess answer.status = true ∧
        Payload.read providerName resource read answer.body = .ok a := by
  constructor
  · intro h
    obtain ⟨url, u, hurl, hrest⟩ := Work.start_bind_ok_iff.mp h
    obtain ⟨hurl', rfl⟩ := Work.start_ofExcept_ok_iff.mp hurl
    obtain ⟨answer, v, hanswer, hread⟩ := Work.start_bind_ok_iff.mp hrest
    split at hread
    · next hsuccess =>
      obtain ⟨hread', rfl⟩ := Work.start_ofExcept_ok_iff.mp hread
      exact ⟨url, answer, hurl', hanswer, hsuccess, hread'⟩
    · cases hread
  · rintro ⟨url, answer, hurl, hanswer, hsuccess, hread⟩
    refine Work.start_bind_ok_iff.mpr ⟨url, s, Work.start_ofExcept_ok_iff.mpr ⟨hurl, rfl⟩, ?_⟩
    refine Work.start_bind_ok_iff.mpr ⟨answer, t, hanswer, ?_⟩
    rw [if_pos hsuccess]
    exact Work.start_ofExcept_ok_iff.mpr ⟨hread, rfl⟩

theorem history_ok_iff {location : String} {p : Period} {s t : σ} {samples : List Sample} :
    (c.history l location p).start s = (.ok samples, t) ↔
      ∃ region u data, (c.regionOf l location).start s = (.ok region, u) ∧
        (c.ask l "historical" (historyQuery region p) ("history for region " ++ region)
          GridData.ofJson?).start u = (.ok data, t) ∧
        samples = Series.clip p (data.history location) := by
  constructor
  · intro h
    obtain ⟨region, u, hregion, hrest⟩ := Work.start_bind_ok_iff.mp h
    obtain ⟨data, v, hdata, hclip⟩ := Work.start_bind_ok_iff.mp hrest
    cases hclip
    exact ⟨region, u, data, hregion, hdata, rfl⟩
  · rintro ⟨region, u, data, hregion, hdata, rfl⟩
    exact Work.start_bind_ok_iff.mpr ⟨region, u, hregion, Work.start_bind_ok_iff.mpr ⟨data, t, hdata, rfl⟩⟩

/-- **Complete histories.** Of a service that answers with the points it keeps in the period it is asked
for, a history has, in the order of the answer, the points with a part in the period and no others, each
with its own length. None of them is lost to the widening or to the fractions of seconds that are cut off,
whatever the period is outside leap seconds and two hours before the last instant. -/
theorem history_complete (store : String → List StoredPoint) {location : String} {p : Period} {s t : σ}
    {samples : List Sample} (hstart : p.start.isLeap = false) (hstop : p.stop.isLeap = false)
    (horder : p.start ≤ p.stop) (hend : (p.stop.add? (Span.minutes 120)).isSome = true)
    (hservice : ∀ url region u, BaseUrl.endpoint providerName c.baseUrl "historical" = .ok url →
      (c.regionOf l location).start s = (.ok region, u) →
        l.Answers store url (historyQuery region p) u)
    (h : (c.history l location p).start s = (.ok samples, t)) :
    ∃ url region u answer data, ∃ listed : List StoredPoint,
      (c.regionOf l location).start s = (.ok region, u) ∧
      (l.request url (historyQuery region p)).start u = (.ok answer, t) ∧
      Json.decode GridData.ofJson? answer.body = .ok data ∧
      data.points = listed.map StoredPoint.point ∧
      samples = (listed.filter (StoredPoint.touches p)).map (StoredPoint.sample location) ∧
      (listed.filter (StoredPoint.touches p)).Perm ((store region).filter (StoredPoint.touches p)) := by
  obtain ⟨region, u, data, hregion, hdata, rfl⟩ := (c.history_ok_iff l).mp h
  obtain ⟨url, answer, hurl, hanswer, hsuccess, hread⟩ := (c.ask_ok_iff l).mp hdata
  have hdecode := ok_of_read hread
  have hasked : writtenPeriod? (historyQuery region p) =
      some (p.widen (Span.minutes 120)).wholeSeconds :=
    Period.writtenPeriod?_eq (Period.isLeap_widen_start hstart _) (Period.isLeap_widen_stop hstop _) rfl rfl
  obtain ⟨listed, hlisted, hpoints⟩ :=
    hservice url region u hurl hregion answer t data region _ hanswer hsuccess hdecode rfl hasked
  refine ⟨url, region, u, answer, data, listed, hregion, hanswer, hdecode, hpoints, ?_, ?_⟩
  · rw [history_of_listed hpoints, clip_history hstart hstop hend horder]
  · exact touching_perm hstart hstop hend horder hlisted

/-! ## A history of some minutes -/

/-- The first of May 2024, so many seconds and nanoseconds after midnight. -/
def ofMay (second nano : Nat) : Instant :=
  (Instant.ofTicks? ((1714521600 + second) * Instant.giga + nano)).getD Instant.epoch

/-- A client that knows one location. -/
def oneLocation : Client :=
  let url : Url :=
    ⟨"https", "", "", some (.domain "api.watttime.org"), none, .segments ["v3", ""], none, none⟩
  ⟨⟨"user", "secret", "https://api.watttime.org/v3/", "https://api.watttime.org/", 86400⟩, url, url,
    ⟨[("x", ⟨none, some 47.5, some 8.5⟩)]⟩⟩

/-- Points of the region `R`, the second one of two hours. -/
def storeOfMay (region : String) : List StoredPoint :=
  if region = "R" then
    [⟨ofMay 32400 0, 3.0, 300, by decide, by decide⟩, ⟨ofMay 36001 0, 1.0, 7200, by decide, by decide⟩,
      ⟨ofMay 43800 0, 2.0, 300, by decide, by decide⟩]
  else []

/-- Seven minutes from half a second after noon. -/
def minutesOfMay : Period := ⟨ofMay 43200 500000000, ofMay 43620 250000000⟩

/-- The points in the period that is asked for. -/
def listedOfMay : List StoredPoint :=
  (storeOfMay "R").filter fun x => (minutesOfMay.widen (Span.minutes 120)).wholeSeconds.holds x.time

def bodyOfMay : String :=
  (Document.object [("data", .array (listedOfMay.map fun x => .object
    [("point_time", .instant x.time), ("value", .float x.value), ("frequency", .int x.seconds)]))]).compact

/-- A session in which a token, a region and the history are asked for. -/
def sessionOfMay : Session :=
  let reply (body : String) : Reply := .answer ⟨200, body⟩
  let token : Document := .object [("token", .string "t")]
  let region : Document := .object [("region", .string "R")]
  ⟨⟨Clock.ofInstant (ofMay 50000 0),
    .scripted [reply token.compact, reply region.compact, reply bodyOfMay], []⟩,
    Memory.fresh (Span.minutes 1440)⟩

theorem endpoint_oneLocation : BaseUrl.endpoint providerName oneLocation.baseUrl "historical" =
    .ok { oneLocation.baseUrl with path := .segments ["v3", "historical"] } := by decide +kernel

/-- The state in which the history is asked for. -/
@[irreducible]
def askedOfMay : Session := ((oneLocation.regionOf oneLocation.link "x").start sessionOfMay).2

theorem regionOf_sessionOfMay :
    (oneLocation.regionOf oneLocation.link "x").start sessionOfMay = (.ok "R", askedOfMay) := by
  unfold askedOfMay
  exact Work.start_eq (by decide +kernel)

theorem request_askedOfMay :
    ((oneLocation.link.request { oneLocation.baseUrl with path := .segments ["v3", "historical"] }
      (historyQuery "R" minutesOfMay)).start askedOfMay).1 = .ok ⟨200, bodyOfMay⟩ := by decide +kernel

theorem read_bodyOfMay : Payload.read providerName ("history for region " ++ "R") GridData.ofJson? bodyOfMay =
    .ok ⟨listedOfMay.map StoredPoint.point, {}⟩ := by decide +kernel

theorem ask_askedOfMay :
    ∃ t, (oneLocation.ask oneLocation.link "historical" (historyQuery "R" minutesOfMay)
      ("history for region " ++ "R") GridData.ofJson?).start askedOfMay =
        (.ok ⟨listedOfMay.map StoredPoint.point, {}⟩, t) := by
  have hanswer := Work.start_eq request_askedOfMay
  have hsuccess : Status.isSuccess (Answer.mk 200 bodyOfMay).status = true := by decide
  exact ⟨_, (oneLocation.ask_ok_iff oneLocation.link).mpr
    ⟨_, _, endpoint_oneLocation, hanswer, hsuccess, read_bodyOfMay⟩⟩

theorem isLeap_minutesOfMay : minutesOfMay.start.isLeap = false ∧ minutesOfMay.stop.isLeap = false := by
  decide

/-- The scripted service keeps to its store. -/
theorem answers_sessionOfMay {url : Url} {region : String} {u : Session}
    (hurl : BaseUrl.endpoint providerName oneLocation.baseUrl "historical" = .ok url)
    (hregion : (oneLocation.regionOf oneLocation.link "x").start sessionOfMay = (.ok region, u)) :
    oneLocation.link.Answers storeOfMay url (historyQuery region minutesOfMay) u := by
  intro answer t data region' asked hanswer _ hdata hlookup hwritten
  obtain rfl := Except.ok.inj (hurl.symm.trans endpoint_oneLocation)
  obtain ⟨hname, hstate⟩ := Prod.mk.inj (hregion.symm.trans regionOf_sessionOfMay)
  subst hstate
  obtain rfl := Except.ok.inj hname
  obtain rfl := Except.ok.inj ((congrArg (·.1) hanswer).symm.trans request_askedOfMay)
  obtain rfl : "R" = region' := Option.some.inj hlookup
  have hperiod : writtenPeriod? (historyQuery "R" minutesOfMay) =
      some (minutesOfMay.widen (Span.minutes 120)).wholeSeconds :=
    Period.writtenPeriod?_eq (Period.isLeap_widen_start isLeap_minutesOfMay.1 _)
      (Period.isLeap_widen_stop isLeap_minutesOfMay.2 _) rfl rfl
  obtain rfl := Option.some.inj (hwritten.symm.trans hperiod)
  obtain rfl := Except.ok.inj (hdata.symm.trans (ok_of_read read_bodyOfMay))
  exact ⟨listedOfMay, List.Perm.refl _, rfl⟩

theorem history_sessionOfMay : ∃ samples t,
    (oneLocation.history oneLocation.link "x" minutesOfMay).start sessionOfMay = (.ok samples, t) := by
  obtain ⟨t, hdata⟩ := ask_askedOfMay
  exact ⟨_, t, (oneLocation.history_ok_iff oneLocation.link).mpr
    ⟨"R", askedOfMay, _, regionOf_sessionOfMay, hdata, rfl⟩⟩

/-- Of the two points that are listed for some minutes from noon, the one of two hours ends half a second
after they start, and the other one starts after they end. -/
theorem history_complete_half_second :
    minutesOfMay.start.isLeap = false ∧ minutesOfMay.stop.isLeap = false ∧
      minutesOfMay.start ≤ minutesOfMay.stop ∧
      (minutesOfMay.stop.add? (Span.minutes 120)).isSome = true ∧
      (∀ url region u, BaseUrl.endpoint providerName oneLocation.baseUrl "historical" = .ok url →
        (oneLocation.regionOf oneLocation.link "x").start sessionOfMay = (.ok region, u) →
          oneLocation.link.Answers storeOfMay url (historyQuery region minutesOfMay) u) ∧
      ∃ samples t, (oneLocation.history oneLocation.link "x" minutesOfMay).start sessionOfMay =
          (.ok samples, t) ∧ samples.length = 1 ∧ ∃ listed : List StoredPoint,
        samples = (listed.filter (StoredPoint.touches minutesOfMay)).map (StoredPoint.sample "x") ∧
        (listed.filter (StoredPoint.touches minutesOfMay)).Perm
          ((storeOfMay "R").filter (StoredPoint.touches minutesOfMay)) := by
  obtain ⟨hstart, hstop⟩ := isLeap_minutesOfMay
  have horder : minutesOfMay.start ≤ minutesOfMay.stop := by decide
  have hend : (minutesOfMay.stop.add? (Span.minutes 120)).isSome = true := by decide
  obtain ⟨samples, t, hrun⟩ := history_sessionOfMay
  refine ⟨hstart, hstop, horder, hend, fun _ _ _ => answers_sessionOfMay, samples, t, hrun, ?_⟩
  obtain ⟨url, region, u, answer, data', listed, hregion, -, -, -, hsamples, hperm⟩ :=
    history_complete oneLocation oneLocation.link storeOfMay hstart hstop horder hend
      (fun _ _ _ => answers_sessionOfMay) hrun
  obtain ⟨hname, -⟩ := Prod.mk.inj (hregion.symm.trans regionOf_sessionOfMay)
  obtain rfl := Except.ok.inj hname
  refine ⟨?_, listed, hsamples, hperm⟩
  have hcount : ((storeOfMay "R").filter (StoredPoint.touches minutesOfMay)).length = 1 := by
    decide +kernel
  rw [hsamples, List.length_map, hperm.length_eq, hcount]

end Client

end CarbonIntensity.WattTime
