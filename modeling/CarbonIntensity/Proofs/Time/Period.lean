import CarbonIntensity.Proofs.Time.Text

/-!
# Periods in queries

A client asks for a period by the texts of its bounds, without the fractions of their seconds. What it
asks for is then the period from the start of the one second to the start of the other:

    writtenPeriod? query = some p.wholeSeconds

The period asked for, if it was widened before, holds all instants from a span before the start up to the
end, whatever was cut off of the seconds.
-/

namespace CarbonIntensity

/-- The period that a query asks for. -/
def writtenPeriod? (query : List (String × String)) : Option Period := do
  let start ← query.lookup "start"
  let stop ← query.lookup "end"
  return ⟨← Instant.parse? start, ← Instant.parse? stop⟩

namespace Instant

theorem isLeap_wholeSecond (t : Instant) : t.wholeSecond.isLeap = false := rfl

theorem ticks_wholeSecond (t : Instant) : t.wholeSecond.ticks = t.ticks - t.nano := by
  show t.second * giga + (0 : Nat) = t.second * giga + t.nano - t.nano
  omega

theorem ticks_wholeSecond_le (t : Instant) : t.wholeSecond.ticks ≤ t.ticks := by
  rw [ticks_wholeSecond]
  omega

theorem ticks_lt_wholeSecond {t : Instant} (ht : t.isLeap = false) :
    t.ticks < t.wholeSecond.ticks + giga := by
  have hnano := isLeap_eq_false_iff.mp ht
  rw [ticks_wholeSecond]
  omega

end Instant

namespace Period

/-- The period between the starts of the seconds of its bounds. -/
def wholeSeconds (p : Period) : Period := ⟨p.start.wholeSecond, p.stop.wholeSecond⟩

theorem writtenPeriod?_eq {query : List (String × String)} {p : Period} (hstart : p.start.isLeap = false)
    (hstop : p.stop.isLeap = false) (hlower : query.lookup "start" = some p.start.wholeSecondText)
    (hupper : query.lookup "end" = some p.stop.wholeSecondText) :
    writtenPeriod? query = some p.wholeSeconds := by
  unfold writtenPeriod?
  simp only [hlower, hupper, Option.bind_eq_bind, Option.bind_some, Instant.parse?_wholeSecondText hstart,
    Instant.parse?_wholeSecondText hstop]
  rfl

/-- A query with the text of one instant for both bounds asks for that instant, whole seconds or leap
second. -/
theorem writtenPeriod?_ofInstant {query : List (String × String)} {t : Instant}
    (hlower : query.lookup "start" = some t.wholeSecondText)
    (hupper : query.lookup "end" = some t.wholeSecondText) :
    writtenPeriod? query = some (ofInstant t.withoutFraction) := by
  unfold writtenPeriod?
  simp only [hlower, hupper, Option.bind_eq_bind, Option.bind_some, Instant.parse?_wholeSecondText_eq]
  rfl

theorem holds_iff_ticks {p : Period} {t : Instant} (hstart : p.start.isLeap = false)
    (hstop : p.stop.isLeap = false) (ht : t.isLeap = false) :
    p.holds t = true ↔ p.start.ticks ≤ t.ticks ∧ t.ticks ≤ p.stop.ticks := by
  unfold holds
  rw [Bool.and_eq_true, decide_eq_true_iff, decide_eq_true_iff, Instant.le_iff_ticks_le hstart ht,
    Instant.le_iff_ticks_le ht hstop]

/-! ## Widened periods -/

theorem isLeap_widen_start {p : Period} (hstart : p.start.isLeap = false) (d : Span) :
    (p.widen d).start.isLeap = false := by
  show ((p.start.sub? d).getD Instant.earliest).isLeap = false
  cases hsub : p.start.sub? d with
  | none => rfl
  | some t => exact Instant.isLeap_of_add? hstart hsub

theorem isLeap_widen_stop {p : Period} (hstop : p.stop.isLeap = false) (d : Span) :
    (p.widen d).stop.isLeap = false := by
  show ((p.stop.add? d).getD Instant.latest).isLeap = false
  cases hadd : p.stop.add? d with
  | none => rfl
  | some t => exact Instant.isLeap_of_add? hstop hadd

/-- The widened period starts a span earlier, or at the first instant. -/
theorem ticks_widen_start_le {p : Period} (hstart : p.start.isLeap = false) {d : Span} {t : Instant}
    (ht : t.isLeap = false) (h : p.start.ticks - d.nanos ≤ t.ticks) : (p.widen d).start.ticks ≤ t.ticks := by
  show ((p.start.sub? d).getD Instant.earliest).ticks ≤ t.ticks
  cases hsub : p.start.sub? d with
  | none => exact (Instant.le_iff_ticks_le (by decide) ht).mp t.earliest_le
  | some w =>
    show w.ticks ≤ t.ticks
    rw [Instant.ticks_of_add? hstart hsub, Span.nanos_neg]
    omega

theorem ticks_widen_stop {p : Period} (hstop : p.stop.isLeap = false) {d : Span}
    (h : (p.stop.add? d).isSome = true) : (p.widen d).stop.ticks = p.stop.ticks + d.nanos := by
  obtain ⟨t, ht⟩ := Option.isSome_iff_exists.mp h
  show ((p.stop.add? d).getD Instant.latest).ticks = _
  rw [ht]
  exact Instant.ticks_of_add? hstop ht

/-- The fractions of seconds that are cut off cost nothing of the period itself: a widened period of
whole seconds holds what starts within the span before the start or in the period. -/
theorem widen_wholeSeconds_holds {p : Period} (hstart : p.start.isLeap = false)
    (hstop : p.stop.isLeap = false) {d : Span} (hd : Instant.giga ≤ d.nanos)
    (hend : (p.stop.add? d).isSome = true) {t : Instant} (ht : t.isLeap = false)
    (hlower : p.start.ticks - d.nanos ≤ t.ticks) (hupper : t.ticks ≤ p.stop.ticks) :
    (p.widen d).wholeSeconds.holds t = true := by
  rw [holds_iff_ticks (Instant.isLeap_wholeSecond _) (Instant.isLeap_wholeSecond _) ht]
  have hstart' := ticks_widen_start_le hstart ht hlower
  have hcut := Instant.ticks_wholeSecond_le (p.widen d).start
  have hstop' := ticks_widen_stop hstop hend
  have hcut' := Instant.ticks_lt_wholeSecond (isLeap_widen_stop hstop d)
  constructor
  · show (p.widen d).start.wholeSecond.ticks ≤ t.ticks
    omega
  · show t.ticks ≤ (p.widen d).stop.wholeSecond.ticks
    omega

end Period

end CarbonIntensity
