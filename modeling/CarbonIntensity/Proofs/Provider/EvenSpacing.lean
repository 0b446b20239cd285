import CarbonIntensity.ElectricityMaps.Payload
import CarbonIntensity.Proofs.Series.Accepted
import CarbonIntensity.WattTime.Payload

/-!
# Evenly spaced points

Where the points of an answer lie on a grid, listed forwards or backwards in time, the first two of them
give the step of the grid, and the samples that are made of them follow each other without a gap. Such
samples have a mean over whatever part of their time.
-/

namespace CarbonIntensity

/-- Two points or more, each a step from the one before, forwards or backwards in time. -/
structure EvenlySpaced (times : List Instant) (step : Span) : Prop where
  many : 2 ≤ times.length
  pos : Span.zero < step
  steady : ∀ t ∈ times, t.isLeap = false
  ends : ∀ t ∈ times, (t.add? step).isSome = true
  spaced : times.IsChain (fun a b => a.add? step = some b) ∨
    times.reverse.IsChain fun a b => a.add? step = some b

namespace EvenlySpaced

variable {step : Span}

theorem abs_since {first second : Instant} {rest : List Instant}
    (h : EvenlySpaced (first :: second :: rest) step) : (first.since second).abs = step := by
  have hfirst := h.steady first (by simp)
  have hsecond := h.steady second (by simp)
  apply Instant.abs_since hfirst hsecond h.pos
  rcases h.spaced with hc | hc
  · have hadd : first.add? step = some second := (List.isChain_cons_cons.mp hc).1
    exact .inl (Instant.ticks_of_add? hfirst hadd)
  · have hadd : second.add? step = some first :=
      (List.isChain_cons_cons.mp (List.isChain_reverse.mp hc)).1
    exact .inr (Instant.ticks_of_add? hsecond hadd)

/-- The samples of a grid last and follow each other. -/
theorem contiguous {l : List Sample} (h : EvenlySpaced (l.map (·.start)) step)
    (hd : ∀ s ∈ l, s.duration = step) : (∀ s ∈ l, s.Lasts) ∧ Series.Contiguous l := by
  have hl : ∀ s ∈ l, s.Lasts := by
    intro s hs
    have hend := h.ends s.start (List.mem_map_of_mem hs)
    unfold Sample.Lasts Sample.finish?
    rw [hd s hs]
    exact ⟨h.pos, hend⟩
  have hfollows : ∀ a b : Sample, a ∈ l → a.start.add? step = some b.start → Series.Follows a b := by
    intro a b ha hadd
    have htouch : Series.Touches a b := by
      unfold Series.Touches Sample.finish Sample.finish?
      rw [hd a ha, hadd]
      rfl
    exact ⟨Instant.rank_lt_of_add? h.pos hadd, htouch⟩
  refine ⟨hl, ?_⟩
  rcases h.spaced with hc | hc
  · rw [List.isChain_map] at hc
    exact .inl (hc.imp_of_mem_imp fun a b ha _ hadd => hfollows a b ha hadd)
  · rw [← List.map_reverse, List.isChain_map] at hc
    exact .inr (hc.imp_of_mem_imp fun a b ha _ hadd => hfollows a b (List.mem_reverse.mp ha) hadd)

end EvenlySpaced

/-- The samples follow each other, and clipped to any part of the time from the first of the instants to
a step after the last of them they have a mean there. -/
structure Unbroken (times : List Instant) (step : Span) (l : List Sample) : Prop where
  contiguous : Series.Contiguous l
  hasMean (p : Period) : p.start < p.stop → (∃ t ∈ times, t ≤ p.start) →
    (∃ t ∈ times, ∃ stop, t.add? step = some stop ∧ p.stop ≤ stop) →
    ∃ r, Series.mean p (Series.clip p l) = .ok r

theorem EvenlySpaced.unbroken {times : List Instant} {step : Span} (h : EvenlySpaced times step)
    {l : List Sample} (htimes : l.map (·.start) = times) (hd : ∀ s ∈ l, s.duration = step) :
    Unbroken times step l := by
  subst htimes
  obtain ⟨hl, hc⟩ := h.contiguous hd
  constructor
  case contiguous => exact hc
  case hasMean =>
    rintro p hp ⟨t, ht, hlower⟩ ⟨u, hu, stop, hadd, hupper⟩
    obtain ⟨s, hs, rfl⟩ := List.mem_map.mp ht
    obtain ⟨last, hlast, rfl⟩ := List.mem_map.mp hu
    have hfinish : last.finish = stop := by
      unfold Sample.finish Sample.finish?
      rw [hd last hlast, hadd]
      rfl
    rw [← hfinish] at hupper
    exact Series.mean_clip_of_contiguous hl hc hp ⟨s, hs, hlower⟩ ⟨last, hlast, hupper⟩

/-! ## Answers of the services -/

theorem WattTime.spacing?_of_evenlySpaced {points : List DataPoint} {step : Span}
    (h : EvenlySpaced (points.map (·.time)) step) : spacing? points = some step := by
  have hmany := h.many
  rw [List.length_map] at hmany
  match points with
  | [] | [_] => simp at hmany
  | first :: second :: rest => exact congrArg some h.abs_since

theorem ElectricityMaps.spacing_of_evenlySpaced {times : List Instant} {step : Span}
    (h : EvenlySpaced times step) : spacing times = step := by
  have hmany := h.many
  match times with
  | [] | [_] => simp at hmany
  | first :: second :: rest => exact h.abs_since

/-- **Evenly spaced points are never reported as broken.** Of WattTime, a frequency that a point carries
has to be the step. -/
theorem unbroken_of_evenlySpaced {times : List Instant} {step : Span} (h : EvenlySpaced times step)
    (location : String) :
    (∀ d : WattTime.GridData, d.points.map (·.time) = times →
      (∀ x ∈ d.points, ∀ n, x.frequency = some n → Span.ofSeconds? n = some step) →
      Unbroken times step (d.history location)) ∧
    ∀ e : ElectricityMaps.History, e.points.map (·.time) = times →
      Unbroken times step (e.samples location) := by
  constructor
  · intro d htimes hfrequency
    have hspacing := WattTime.spacing?_of_evenlySpaced (htimes ▸ h)
    apply h.unbroken
    · unfold WattTime.GridData.history
      rw [List.map_map]
      exact htimes
    · intro s hs
      obtain ⟨x, hx, rfl⟩ := List.mem_map.mp hs
      show x.ownDuration?.getD ((WattTime.spacing? d.points).getD Span.zero) = step
      rw [hspacing]
      unfold WattTime.DataPoint.ownDuration?
      cases hn : x.frequency with
      | none => rfl
      | some n =>
        rw [Option.bind_some, hfrequency x hx n hn]
        rfl
  · intro e htimes
    have hspacing := ElectricityMaps.spacing_of_evenlySpaced h
    apply h.unbroken
    · unfold ElectricityMaps.History.samples
      rw [List.map_map]
      exact htimes
    · intro s hs
      obtain ⟨x, -, rfl⟩ := List.mem_map.mp hs
      show ElectricityMaps.spacing (e.points.map (·.time)) = step
      rw [htimes]
      exact hspacing

/-- Three hours listed backwards in time have a mean over some minutes of the second one, from both
services. -/
theorem unbroken_of_evenlySpaced_hours :
    let hour : Span := ⟨3600000000000, by decide⟩
    let first : Instant := Instant.epoch
    let second : Instant := ⟨3600, 0, by decide, by decide, by decide⟩
    let third : Instant := ⟨7200, 0, by decide, by decide, by decide⟩
    let times : List Instant := [third, second, first]
    let p : Period := ⟨⟨4200, 0, by decide, by decide, by decide⟩, ⟨4800, 5, by decide, by decide, by decide⟩⟩
    let d : WattTime.GridData := ⟨[⟨third, 3.0, none⟩, ⟨second, 2.0, some 3600⟩, ⟨first, 1.0, none⟩], {}⟩
    let e : ElectricityMaps.History := ⟨"DE", times.map fun t => ⟨1.0, t, none, none, none⟩⟩
    EvenlySpaced times hour ∧ d.points.map (·.time) = times ∧ e.points.map (·.time) = times ∧
      (∀ x ∈ d.points, ∀ n, x.frequency = some n → Span.ofSeconds? n = some hour) ∧
      p.start < p.stop ∧ (∃ t ∈ times, t ≤ p.start) ∧
      (∃ t ∈ times, ∃ stop, t.add? hour = some stop ∧ p.stop ≤ stop) ∧
      (∃ r, Series.mean p (Series.clip p (d.history "x")) = .ok r) ∧
      ∃ r, Series.mean p (Series.clip p (e.samples "x")) = .ok r := by
  intro hour first second third times p d e
  have hspaced : EvenlySpaced times hour := by
    constructor
    case many => decide
    case pos => decide
    case steady => decide
    case ends => decide
    case spaced =>
      right
      exact .cons_cons (by decide) (.cons_cons (by decide) (.singleton _))
  have hfrequency : ∀ x ∈ d.points, ∀ n, x.frequency = some n → Span.ofSeconds? n = some hour := by
    intro x hx n hn
    rcases List.mem_cons.mp hx with rfl | hx
    · cases hn
    · rcases List.mem_cons.mp hx with rfl | hx
      · cases hn
        decide
      · obtain rfl := List.mem_singleton.mp hx
        cases hn
  have hp : p.start < p.stop := by decide
  have hlower : ∃ t ∈ times, t ≤ p.start := ⟨second, by simp [times], by decide⟩
  have hupper : ∃ t ∈ times, ∃ stop, t.add? hour = some stop ∧ p.stop ≤ stop :=
    ⟨second, by simp [times], third, by decide, by decide⟩
  obtain ⟨hwatttime, helectricitymaps⟩ := unbroken_of_evenlySpaced hspaced "x"
  have hd := hwatttime d rfl hfrequency
  have he := helectricitymaps e rfl
  exact ⟨hspaced, rfl, rfl, hfrequency, hp, hlower, hupper, hd.hasMean p hp hlower hupper,
    he.hasMean p hp hlower hupper⟩

end CarbonIntensity
