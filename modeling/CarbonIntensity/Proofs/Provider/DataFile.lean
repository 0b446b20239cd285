import CarbonIntensity.Proofs.Series.Meets
import CarbonIntensity.Provider.DataFile

/-!
# Histories from a data file

Before it is clipped, a history is cut down to the samples that start in reach of the period, within a
day of it:

    d.history location p = (Series.clip p (d.samplesOf location)).filter fun x => (reach p).holds x.start

The end of the reach leaves nothing out, its start only samples of more than a day, so that the history
of a location with samples of a day or less has every sample with a part in the period.
-/

namespace CarbonIntensity

/-- Widening a period does not move its end back, unless that is a leap second after the last instant. -/
theorem Period.stop_le_widen {p : Period} (hstop : p.stop ≤ Instant.latest) {d : Span}
    (hd : Span.zero < d) : p.stop ≤ (p.widen d).stop := by
  show p.stop ≤ (p.stop.add? d).getD Instant.latest
  cases h : p.stop.add? d with
  | none => exact hstop
  | some t =>
    have hlt := Instant.rank_lt_of_add? hd h
    exact Instant.le_def.mpr (Int.le_of_lt hlt)

namespace DataFile

/-- The samples of a location, whenever they start. -/
def samplesOf (d : DataFile) (location : String) : List Sample :=
  d.emissions.filter (·.location == location)

/-- The period in which the samples of a history start. -/
def reach (p : Period) : Period := p.widen (Span.minutes 1440)

theorem history_eq_filter (d : DataFile) (location : String) (p : Period) :
    d.history location p =
      (Series.clip p (d.samplesOf location)).filter fun x => (reach p).holds x.start := by
  unfold history samplesOf Series.clip
  rw [List.filter_filter, List.filter_filter, List.filter_filter]
  refine List.filter_congr fun x _ => ?_
  show (x.meets p && (x.location == location && (reach p).holds x.start)) =
    ((reach p).holds x.start && x.meets p && x.location == location)
  rw [Bool.and_left_comm, Bool.and_comm (x.location == location), Bool.and_assoc, Bool.and_left_comm,
    Bool.and_assoc]

/-- Of the samples with a part in a period, those are in reach that do not start too early. -/
theorem reach_holds_iff {p : Period} (hstop : p.stop ≤ Instant.latest) {x : Sample}
    (hx : x.meets p = true) : (reach p).holds x.start = decide ((reach p).start ≤ x.start) := by
  have hle : x.start ≤ (reach p).stop :=
    Instant.le_trans (Sample.start_le_of_meets hx) (Period.stop_le_widen hstop (by decide))
  unfold Period.holds
  rw [decide_eq_true hle, Bool.and_true]

/-- No sample of a day or less with a part in a period starts too early. -/
theorem reach_start_le {p : Period} (hstart : p.start.isLeap = false) {x : Sample}
    (hday : x.duration ≤ Span.minutes 1440) (hx : x.meets p = true) : (reach p).start ≤ x.start := by
  show (p.start.sub? (Span.minutes 1440)).getD Instant.earliest ≤ x.start
  cases hsub : p.start.sub? (Span.minutes 1440) with
  | none => exact x.start.earliest_le
  | some w =>
    show w ≤ x.start
    have hw := Instant.isLeap_of_add? hstart hsub
    have hticks := Instant.ticks_of_add? hstart hsub
    rw [Span.nanos_neg] at hticks
    by_cases hle : w ≤ x.start
    · exact hle
    · have hend : x.finish ≤ p.start :=
        Sample.finish_le_of_start_lt hw hstart (by omega) (by decide) hday (Instant.not_le.mp hle)
      exact absurd hend (Instant.not_le.mpr (Sample.lt_finish_of_meets hx))

/-- **What a history leaves out.** For every file, location and period, the history is what has a part in
the period and starts in reach of it. With an end up to the last instant that is what does not start more
than a day early, and from a start outside leap seconds that is everything if no sample is longer. -/
theorem history_within_reach {σ : Type} (d : DataFile) (location : String) (p : Period) (s : σ) :
    let all := Series.clip p (d.samplesOf location)
    let answer := d.history location p
    (d.provider.history location p).start s = (.ok answer, s) ∧
      answer = all.filter (fun x => (reach p).holds x.start) ∧
      (answer = all ↔ ∀ x ∈ all, (reach p).holds x.start = true) ∧
      (p.stop ≤ Instant.latest → answer = all.filter fun x => (reach p).start ≤ x.start) ∧
      (p.stop ≤ Instant.latest → p.start.isLeap = false →
        (∀ x ∈ d.samplesOf location, x.duration ≤ Span.minutes 1440) → answer = all) := by
  intro all answer
  have hanswer : answer = all.filter fun x => (reach p).holds x.start := history_eq_filter d location p
  have hall : answer = all ↔ ∀ x ∈ all, (reach p).holds x.start = true := by
    rw [hanswer]
    exact List.filter_eq_self
  refine ⟨rfl, hanswer, hall, fun hstop => ?_, fun hstop hstart hday => ?_⟩
  · rw [hanswer]
    exact List.filter_congr fun x hx => reach_holds_iff hstop (Series.mem_clip.mp hx).2
  · rw [hall]
    intro x hx
    obtain ⟨hmem, hmeets⟩ := Series.mem_clip.mp hx
    rw [reach_holds_iff hstop hmeets]
    exact decide_eq_true (reach_start_le hstart (hday x hmem) hmeets)

/-- One sample of two days. -/
def twoDays : DataFile := ⟨[⟨"x", Instant.epoch, Span.minutes 2880, 1.0⟩], []⟩

/-- A sample of two days has a part in an hour of its second day, but is not in the history of that
hour. -/
theorem history_without_early_start :
    let start := Instant.epoch.addOrLatest (Span.minutes 1560)
    let p : Period := ⟨start, start.addOrLatest (Span.minutes 60)⟩
    p.start ≤ p.stop ∧
      ((twoDays.provider.history "x" p).start ()).1 ≠ .ok (Series.clip p (twoDays.samplesOf "x")) := by
  intro start p
  refine ⟨by decide, fun heq => ?_⟩
  have hlen := congrArg List.length (Except.ok.inj heq)
  have hhistory : (twoDays.history "x" p).length = 0 := by decide +kernel
  have hclip : (Series.clip p (twoDays.samplesOf "x")).length = 1 := by decide +kernel
  rw [hhistory, hclip] at hlen
  cases hlen

end DataFile

end CarbonIntensity
