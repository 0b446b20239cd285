import CarbonIntensity.ElectricityMaps.Client
import CarbonIntensity.Json.Document
import CarbonIntensity.Proofs.Lists
import CarbonIntensity.Proofs.Provider.InTurn
import CarbonIntensity.Proofs.Series.Meets
import CarbonIntensity.Proofs.Time.Period
import CarbonIntensity.Service.Emissions

/-!
# Histories of periods in the past

The service keeps the points of a zone on a grid and answers a question for a period in the past with
those in the period that the question gives. The client asks for the very period it was asked for, its
bounds in whole seconds. It learns the step of the grid from the first two points, and its samples are

    ((grid.points.filter (asked p)).filter (·.touches p)).map (·.sample location)

A point with a part in the period is missing exactly if it does not lie in what is asked for: because it
starts before the second in which the period starts, or within the last second of the period.
-/

namespace CarbonIntensity.ElectricityMaps

/-- The points that the service keeps, each a step after the one before. -/
structure Grid where
  points : List HistoryPoint
  step : Span
  pos : Span.zero < step
  steady : ∀ x ∈ points, x.time.isLeap = false
  spaced : points.IsChain fun a b => b.time.ticks = a.time.ticks + step.nanos

namespace Grid

/-- The sample that a point stands for. -/
def sample (g : Grid) (location : String) (x : HistoryPoint) : Sample :=
  ⟨location, x.time, g.step, x.intensity⟩

/-- The interval of the point has a part in the period. -/
def touches (g : Grid) (p : Period) (x : HistoryPoint) : Bool := p.touchedBy x.time g.step.nanos

/-- The points in a period, both ends included. -/
def within (g : Grid) (p : Period) : List HistoryPoint := g.points.filter fun x => p.holds x.time

end Grid

/-! ## Spacing -/

namespace Grid

variable (g : Grid) {p : Period}

/-- The first two points in a period lie a step apart. -/
theorem spacing_within (hstart : p.start.isLeap = false) (hstop : p.stop.isLeap = false)
    (hlen : 2 ≤ (g.within p).length) : spacing ((g.within p).map (·.time)) = g.step := by
  have hpos : 0 < g.step.nanos := g.pos
  match hpoints : g.within p with
  | [] =>
    rw [hpoints] at hlen
    cases hlen
  | [a] =>
    rw [hpoints] at hlen
    exact absurd hlen (by simp)
  | a :: b :: rest =>
    have hnext : b.time.ticks = a.time.ticks + g.step.nanos :=
      next_of_filter hpos g.spaced
        (fun x hx => Period.holds_iff_ticks hstart hstop (g.steady x hx)) hpoints
    have hmem : ∀ x ∈ a :: b :: rest, x.time.isLeap = false := fun x hx =>
      g.steady x (List.mem_filter.mp (hpoints ▸ hx)).1
    exact Instant.abs_since (hmem a (by simp)) (hmem b (by simp)) g.pos (.inl hnext)

/-- The points in a period, as they are clipped. -/
theorem clip_samples (hstart : p.start.isLeap = false) (hstop : p.stop.isLeap = false)
    (horder : p.start < p.stop) {h : History} (hpoints : h.points = g.within p.wholeSeconds)
    (hlen : 2 ≤ h.points.length) (location : String) :
    Series.clip p (h.samples location) =
      ((g.within p.wholeSeconds).filter (g.touches p)).map (g.sample location) := by
  have hsamples : h.samples location = (g.within p.wholeSeconds).map (g.sample location) := by
    have hstep := g.spacing_within (p.start.isLeap_wholeSecond) (p.stop.isLeap_wholeSecond)
      (hpoints ▸ hlen)
    unfold History.samples
    rw [hpoints]
    simp only [hstep]
    rfl
  rw [hsamples]
  unfold Series.clip
  rw [List.filter_map]
  refine congrArg _ (List.filter_congr fun x hx => ?_)
  exact Sample.meets_eq_touchedBy (s := g.sample location x) (g.steady x (List.mem_filter.mp hx).1) hstart
    hstop (Int.le_of_lt g.pos) (Instant.lt_latest hstop horder)

/-- Nothing is missing exactly if all points with a part in the period lie in what is asked for. -/
theorem within_complete_iff (location : String) :
    ((g.within p.wholeSeconds).filter (g.touches p)).map (g.sample location) =
        (g.points.filter (g.touches p)).map (g.sample location) ↔
      ∀ x ∈ g.points, g.touches p x = true → p.wholeSeconds.holds x.time = true := by
  have hwithin : (g.within p.wholeSeconds).filter (g.touches p) =
      g.points.filter fun x => g.touches p x && p.wholeSeconds.holds x.time := by
    unfold within
    rw [List.filter_filter]
  constructor
  · intro h x hx htouches
    have hsub : ((g.within p.wholeSeconds).filter (g.touches p)).Sublist (g.points.filter (g.touches p)) :=
      List.filter_sublist.filter _
    have hlen := congrArg List.length h
    rw [List.length_map, List.length_map] at hlen
    have hsame := hwithin.symm.trans (hsub.eq_of_length hlen)
    have hboth := filter_eq_filter_iff.mp hsame x hx
    rw [htouches, Bool.true_and] at hboth
    exact hboth
  · intro h
    rw [hwithin]
    refine congrArg _ (List.filter_congr fun x hx => ?_)
    cases htouches : g.touches p x with
    | false => rfl
    | true =>
      rw [h x hx htouches]
      rfl

end Grid

/-! ## The client -/

namespace Client

variable (c : Client)

/-- What a question about a period in the past gives. -/
def pastQuery (t : Target) (p : Period) : List (String × String) :=
  t.query ++ ([("start", p.start.wholeSecondText), ("end", p.stop.wholeSecondText)] ++ c.options)

/-- The request of a question about a period in the past. -/
def requestPast (t : Target) (p : Period) : Work Failure Session History :=
  c.request "carbon-intensity/past-range" (c.pastQuery t p) "carbon intensity past range"
    History.ofPastRange?

/-- Whether the token covers a target. -/
def clear (t : Target) : Work Failure Session Unit :=
  match t with
  | .zone name =>
    Entitlements.check Session.entitlementSlot providerName name "carbon-intensity/past-range" c.zones
  | .coordinates _ => pure ()

theorem writtenPeriod?_pastQuery {t : Target} {p : Period} (hstart : p.start.isLeap = false)
    (hstop : p.stop.isLeap = false) : writtenPeriod? (c.pastQuery t p) = some p.wholeSeconds := by
  cases t with
  | coordinates place => exact Period.writtenPeriod?_eq hstart hstop rfl rfl
  | zone name => exact Period.writtenPeriod?_eq hstart hstop rfl rfl

/-- In this state the service answers a question about a period in the past with the points of the grid in
the period that it gives, two at least. -/
def Answers (g : Grid) (t : Target) (p : Period) (s : Session) : Prop :=
  ∀ h v asked, (c.requestPast t p).start s = (.ok h, v) → writtenPeriod? (c.pastQuery t p) = some asked →
    h.points = g.within asked ∧ 2 ≤ h.points.length

theorem ask_past (t : Target) (p : Period) :
    c.ask "carbon-intensity/past-range" t
        ([("start", p.start.wholeSecondText), ("end", p.stop.wholeSecondText)] ++ c.options)
        "carbon intensity past range" History.ofPastRange? =
      (do c.clear t; c.requestPast t p) := by
  cases t with
  | coordinates place => rfl
  | zone name => rfl

/-- The question stops where the clock is not a day past the first instant. -/
theorem start_history_of_early {location : String} {p : Period} {s : Session} {t : Target}
    (htarget : c.target location = .ok t) (hday : (horizon? s.now).isNone = true) :
    (c.history location p).start s = (.error .overflow, s) := by
  unfold history
  rw [htarget]
  show Work.start (if (horizon? s.now).isNone = true then _ else _) s = _
  rw [if_pos hday]
  rfl

theorem start_history_of_past {location : String} {p : Period} {s : Session} {t : Target}
    (htarget : c.target location = .ok t) (hday : (horizon? s.now).isNone = false)
    (hpast : (isRecent s.now p.start && isRecent s.now p.stop) = false) :
    (c.history location p).start s =
      Work.start (do
        let h ← (do c.clear t; c.requestPast t p)
        return Series.clip p (h.samples location)) s := by
  unfold history
  rw [htarget, ← ask_past]
  show Work.start (if (horizon? s.now).isNone = true then _
    else if (isRecent s.now p.start && isRecent s.now p.stop) = true then _ else _) s = _
  rw [if_neg (by rw [hday]; exact Bool.false_ne_true), if_neg (by rw [hpast]; exact Bool.false_ne_true)]

/-- A period that is not in the last day is asked for as one in the past. -/
theorem history_past_ok_iff {location : String} {p : Period} {s v : Session} {samples : List Sample}
    (hpast : (isRecent s.now p.start && isRecent s.now p.stop) = false) :
    (c.history location p).start s = (.ok samples, v) ↔
      (horizon? s.now).isNone = false ∧ ∃ t u h, c.target location = .ok t ∧
        (c.clear t).start s = (.ok (), u) ∧ (c.requestPast t p).start u = (.ok h, v) ∧
        samples = Series.clip p (h.samples location) := by
  constructor
  · intro h
    obtain ⟨t, u, htarget, -⟩ := Work.start_bind_ok_iff.mp h
    obtain ⟨htarget', -⟩ := Work.start_ofExcept_ok_iff.mp htarget
    cases hday : (horizon? s.now).isNone with
    | true =>
      rw [c.start_history_of_early htarget' hday] at h
      cases h
    | false =>
      rw [c.start_history_of_past htarget' hday hpast] at h
      obtain ⟨answer, w, hask, hclip⟩ := Work.start_bind_ok_iff.mp h
      obtain ⟨⟨⟩, u', hclear, hrequest⟩ := Work.start_bind_ok_iff.mp hask
      cases hclip
      exact ⟨rfl, t, u', answer, htarget', hclear, hrequest, rfl⟩
  · rintro ⟨hday, t, u, answer, htarget, hclear, hrequest, rfl⟩
    rw [c.start_history_of_past htarget hday hpast]
    exact Work.start_bind_ok_iff.mpr
      ⟨answer, v, Work.start_bind_ok_iff.mpr ⟨(), u, hclear, hrequest⟩, rfl⟩

/-- **What a history of the past has.** Of a service that answers with the points of a grid in the period
it is asked for, a history has those with a part in the period. The others with a part in it are missing,
so that the history is complete exactly if all of them lie between the second in which the period starts
and the one in which it ends. -/
theorem history_past_within (g : Grid) {location : String} {p : Period} {s v : Session}
    {samples : List Sample} (hstart : p.start.isLeap = false) (hstop : p.stop.isLeap = false)
    (horder : p.start < p.stop)
    (hpast : (isRecent s.now p.start && isRecent s.now p.stop) = false)
    (hservice : ∀ t u, c.target location = .ok t → (c.clear t).start s = (.ok (), u) → c.Answers g t p u)
    (h : (c.history location p).start s = (.ok samples, v)) :
    samples = ((g.within p.wholeSeconds).filter (g.touches p)).map (g.sample location) ∧
      (samples = (g.points.filter (g.touches p)).map (g.sample location) ↔
        ∀ x ∈ g.points, g.touches p x = true → p.wholeSeconds.holds x.time = true) := by
  obtain ⟨-, t, u, answer, htarget, hclear, hrequest, rfl⟩ := (c.history_past_ok_iff hpast).mp h
  have hasked := c.writtenPeriod?_pastQuery (t := t) hstart hstop
  obtain ⟨hpoints, hlen⟩ := hservice t u htarget hclear answer v _ hrequest hasked
  have hclip := g.clip_samples hstart hstop horder hpoints hlen location
  refine ⟨hclip, ?_⟩
  rw [hclip]
  exact g.within_complete_iff location

/-! ## Two hours from half past ten -/

/-- The first of May 2024, so many minutes after midnight. -/
def ofMay (minute : Nat) : Instant :=
  (Instant.ofTicks? ((1714521600 + minute * 60) * Instant.giga)).getD Instant.epoch

/-- A client that knows the coordinates of one location. -/
def onePlace : Client :=
  ⟨{}, ⟨"https", "", "", some (.domain "api.electricitymap.org"), none, .segments ["v3", ""], none, none⟩,
    ⟨[("x", ⟨none, some 47.5, some 8.5⟩)]⟩⟩

/-- An hourly grid from nine to one. -/
def hours : Grid where
  points := [9, 10, 11, 12, 13].map fun hour => ⟨Float.ofNat hour, ofMay (60 * hour), none, none, none⟩
  step := Span.minutes 60
  pos := by decide
  steady := by decide
  spaced := by decide

def halfPast : Period := ⟨ofMay 630, ofMay 750⟩

def bodyOfHours : String :=
  (Document.object [("zone", .string "Z"), ("data", .array ((hours.within halfPast.wholeSeconds).map fun x =>
    .object [("carbonIntensity", .float x.intensity), ("datetime", .instant x.time)]))]).compact

/-- A session two days later, in which the period is asked for. -/
@[irreducible]
def sessionOfHours : Session :=
  ⟨⟨Clock.ofInstant (ofMay 2880), .scripted [.answer ⟨200, bodyOfHours⟩], []⟩, Memory.fresh (Span.minutes 1440)⟩

theorem target_onePlace : onePlace.target "x" = .ok (.coordinates ⟨47.5, 8.5⟩) := by decide +kernel

theorem requestPast_sessionOfHours :
    ((onePlace.requestPast (.coordinates ⟨47.5, 8.5⟩) halfPast).start sessionOfHours).1 =
      .ok ⟨"Z", hours.within halfPast.wholeSeconds⟩ := by decide +kernel

theorem isLeap_halfPast : halfPast.start.isLeap = false ∧ halfPast.stop.isLeap = false := by decide

theorem isRecent_sessionOfHours :
    (isRecent sessionOfHours.now halfPast.start && isRecent sessionOfHours.now halfPast.stop) = false := by
  decide +kernel

/-- The scripted service keeps to its grid. -/
theorem answers_sessionOfHours {t : Target} {u : Session} (ht : onePlace.target "x" = .ok t)
    (hu : (onePlace.clear t).start sessionOfHours = (.ok (), u)) : onePlace.Answers hours t halfPast u := by
  intro h v asked hrequest hasked
  obtain rfl := Except.ok.inj (ht.symm.trans target_onePlace)
  obtain ⟨-, hstate⟩ := Prod.mk.inj hu
  subst hstate
  obtain rfl := Except.ok.inj ((congrArg (·.1) hrequest).symm.trans requestPast_sessionOfHours)
  rw [onePlace.writtenPeriod?_pastQuery isLeap_halfPast.1 isLeap_halfPast.2] at hasked
  obtain rfl := Option.some.inj hasked
  exact ⟨rfl, by decide +kernel⟩

theorem history_sessionOfHours :
    ∃ samples v, (onePlace.history "x" halfPast).start sessionOfHours = (.ok samples, v) :=
  ⟨_, _, (onePlace.history_past_ok_iff isRecent_sessionOfHours).mpr
    ⟨by decide +kernel, _, sessionOfHours, _, target_onePlace, rfl, Work.start_eq requestPast_sessionOfHours,
      rfl⟩⟩

/-- Three points of the grid have a part in the two hours, and the first of them is missing. -/
theorem history_past_within_half_past :
    halfPast.start.isLeap = false ∧ halfPast.stop.isLeap = false ∧ halfPast.start < halfPast.stop ∧
      (isRecent sessionOfHours.now halfPast.start && isRecent sessionOfHours.now halfPast.stop) = false ∧
      (∀ t u, onePlace.target "x" = .ok t → (onePlace.clear t).start sessionOfHours = (.ok (), u) →
        onePlace.Answers hours t halfPast u) ∧
      ∃ samples v, (onePlace.history "x" halfPast).start sessionOfHours = (.ok samples, v) ∧
        samples.length = 2 ∧ (hours.points.filter (hours.touches halfPast)).length = 3 ∧
        samples ≠ (hours.points.filter (hours.touches halfPast)).map (hours.sample "x") := by
  obtain ⟨hstart, hstop⟩ := isLeap_halfPast
  have horder : halfPast.start < halfPast.stop := by decide
  obtain ⟨samples, v, hrun⟩ := history_sessionOfHours
  obtain ⟨hsamples, hcomplete⟩ := onePlace.history_past_within hours hstart hstop horder
    isRecent_sessionOfHours (fun _ _ => answers_sessionOfHours) hrun
  refine ⟨hstart, hstop, horder, isRecent_sessionOfHours, fun _ _ => answers_sessionOfHours, samples, v,
    hrun, ?_, by decide, ?_⟩
  · rw [hsamples, List.length_map]
    decide
  · rw [ne_eq, hcomplete]
    decide

/-- The two hours have a mean over the points that the service keeps, but not over the history. -/
theorem mean_outside_half_past :
    let e : EmissionsService Session := ⟨onePlace.provider, Session.now, DisplayNames.usual⟩
    let stored := (hours.points.filter (hours.touches halfPast)).map (hours.sample "x")
    (∀ t u, onePlace.target "x" = .ok t → (onePlace.clear t).start sessionOfHours = (.ok (), u) →
        onePlace.Answers hours t halfPast u) ∧
      (Series.mean halfPast stored).isOk = true ∧
      ((e.mean ⟨"x", some halfPast.start, some halfPast.stop⟩).start sessionOfHours).1 =
        .error (.atLocation "x" (.series (.outsideData halfPast ⟨ofMay 660, ofMay 780⟩))) := by
  intro e stored
  exact ⟨fun _ _ => answers_sessionOfHours, by decide +kernel, by decide +kernel⟩

end Client

end CarbonIntensity.ElectricityMaps
