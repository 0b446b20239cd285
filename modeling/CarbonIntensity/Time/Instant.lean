import CarbonIntensity.Time.Span

/-!
# Instants

An instant is a second since 1970-01-01T00:00:00Z and a count of nanoseconds into it. A leap second
is the last second of a minute running on for a second billion of nanoseconds, so that

`rank t = second · 2·10⁹ + nano` orders the instants, and
`ticks t = second · 10⁹ + nano` counts nanoseconds where no leap second is involved.

The range is the whole of the years -262143 to 262142. Adding a span fails outside it; the
saturating forms stop at `earliest` and `latest` instead.

A period runs from one instant to another, the second of which need not be later. A clock that is moved
by hand holds a count of whole milliseconds since the epoch in 64 bits, which wraps around; a count that
is no instant reads as the epoch.

## Algorithm

For an instant that is not in a leap second, `add? t d` is the instant with `ticks t + d` ticks. In
a leap second, a step that leaves it forwards counts from the second before it, a step of a second
or more backwards counts from the second after it, and any other step stays in it.
-/

namespace CarbonIntensity

namespace Instant

/-- Nanoseconds of a second. -/
def giga : Nat := 1000000000

/-- -262143-01-01T00:00:00Z. -/
def firstSecond : Int := -8334601228800

/-- +262142-12-31T23:59:59Z. -/
def lastSecond : Int := 8210266876799

end Instant

structure Instant where
  second : Int
  nano : Nat
  inRange : Instant.firstSecond ≤ second ∧ second ≤ Instant.lastSecond
  nano_lt : nano < 2 * Instant.giga
  leap : Instant.giga ≤ nano → second % 60 = 59
deriving DecidableEq

namespace Instant

/-- The position of an instant in the order of time. -/
def rank (t : Instant) : Int := t.second * (2 * giga : Nat) + t.nano

/-- Nanoseconds since the epoch, leap seconds not counted. -/
def ticks (t : Instant) : Int := t.second * giga + t.nano

def isLeap (t : Instant) : Bool := giga ≤ t.nano

instance : LE Instant := ⟨fun a b => a.rank ≤ b.rank⟩
instance : LT Instant := ⟨fun a b => a.rank < b.rank⟩
instance (a b : Instant) : Decidable (a ≤ b) := inferInstanceAs (Decidable (a.rank ≤ b.rank))
instance (a b : Instant) : Decidable (a < b) := inferInstanceAs (Decidable (a.rank < b.rank))
instance : Min Instant := ⟨fun a b => if a ≤ b then a else b⟩
instance : Max Instant := ⟨fun a b => if a ≤ b then b else a⟩

def epoch : Instant := ⟨0, 0, by decide, by decide, by decide⟩

def earliest : Instant := ⟨firstSecond, 0, by decide, by decide, by decide⟩

def latest : Instant := ⟨lastSecond, 999999999, by decide, by decide, by decide⟩

instance : Inhabited Instant := ⟨epoch⟩

/-- The instant with so many ticks that is in no leap second. -/
def ofTicks? (n : Int) : Option Instant :=
  if h : firstSecond ≤ n / giga ∧ n / giga ≤ lastSecond then
    some ⟨n / giga, (n % giga).toNat, h, by unfold giga; omega, by unfold giga; omega⟩
  else none

/-- Nanoseconds later within the same second or its leap second. -/
def addWithin? (t : Instant) (n : Int) : Option Instant :=
  if h : 0 ≤ t.nano + n ∧ t.nano + n < 2 * giga ∧ (giga ≤ t.nano + n → t.second % 60 = 59) then
    some ⟨t.second, (t.nano + n).toNat, t.inRange, by omega, by intro; exact h.2.2 (by omega)⟩
  else none

/-- The instant a span later, if it is in range. -/
def add? (t : Instant) (d : Span) : Option Instant :=
  if t.isLeap then
    let seconds := d.nanos.tdiv giga
    let part := d.nanos.tmod giga
    if 0 < seconds ∨ (0 < part ∧ (2 * giga : Int) ≤ t.nano + part) then
      ofTicks? (t.ticks - giga + d.nanos)
    else if seconds < 0 then ofTicks? (t.ticks + d.nanos)
    else t.addWithin? part
  else ofTicks? (t.ticks + d.nanos)

/-- The instant a span earlier, if it is in range. -/
def sub? (t : Instant) (d : Span) : Option Instant := t.add? d.neg

/-- Leap-second correction, in seconds, of the ticks from `b` to `a`: a leap second lying wholly
between the two times of day counts as one second more. -/
def leapBetween (a b : Instant) : Int :=
  if b.second % 86400 < a.second % 86400 then (if b.isLeap then 1 else 0)
  else if a.second % 86400 < b.second % 86400 then (if a.isLeap then -1 else 0)
  else 0

/-- The span from `b` to `a`. -/
def since (a b : Instant) : Span :=
  ⟨a.ticks - b.ticks + leapBetween a b * giga, by
    have ha := a.inRange; have hb := b.inRange
    have han := a.nano_lt; have hbn := b.nano_lt
    have hl : -1 ≤ leapBetween a b ∧ leapBetween a b ≤ 1 := by
      unfold leapBetween
      split
      · split <;> omega
      · split
        · split <;> omega
        · omega
    unfold firstSecond lastSecond giga ticks Span.limit at *
    unfold giga
    omega⟩

/-- A span later, or the last instant. -/
def addOrLatest (t : Instant) (d : Span) : Instant := (t.add? d).getD latest

/-- A span earlier, or the first instant. -/
def subOrEarliest (t : Instant) (d : Span) : Instant := (t.sub? d).getD earliest

/-- The start of the step of length `step` that holds the instant, steps counted from the epoch.
Outside the range of 64-bit nanosecond counts an instant is left as it is. -/
def truncate (t : Instant) (step : Span) : Instant :=
  if -(twoTo 63 : Int) ≤ t.ticks ∧ t.ticks < twoTo 63 ∧ 0 < step.nanos then
    (Span.ofNanos? (t.ticks % step.nanos)).bind t.sub? |>.getD t
  else t

/-- Whole milliseconds since the epoch, towards the past. -/
def wholeMillis (t : Instant) : Int := t.second * 1000 + (t.nano / 1000000 : Nat)

/-- The instant of a count of milliseconds, if it is in range. -/
def ofMillis? (n : Int) : Option Instant := ofTicks? (n * 1000000)

/-! ## Lemmas -/

theorem le_def {a b : Instant} : a ≤ b ↔ a.rank ≤ b.rank := Iff.rfl

theorem lt_def {a b : Instant} : a < b ↔ a.rank < b.rank := Iff.rfl

theorem rank_injective {a b : Instant} (h : a.rank = b.rank) : a = b := by
  obtain ⟨s, n, _, hn, _⟩ := a
  obtain ⟨s', n', _, hn', _⟩ := b
  unfold rank giga at *
  simp only at h hn hn'
  have hs : s = s' := by omega
  subst hs
  have : n = n' := by omega
  subst this
  rfl

theorem le_antisymm {a b : Instant} (h : a ≤ b) (h' : b ≤ a) : a = b :=
  rank_injective (by rw [le_def] at *; omega)

theorem ofTicks?_eq_some {n : Int} {t : Instant} (h : ofTicks? n = some t) :
    t.ticks = n ∧ t.isLeap = false := by
  unfold ofTicks? at h
  split at h
  · cases h
    unfold ticks isLeap giga
    simp only [decide_eq_false_iff_not]
    omega
  · cases h

/-- A positive step goes forward in the order of instants. -/
theorem rank_lt_of_add? {t u : Instant} {d : Span} (hd : Span.zero < d)
    (h : t.add? d = some u) : t.rank < u.rank := by
  have hpos : 0 < d.nanos := hd
  have hnl := t.nano_lt
  have key : ∀ n : Int, ofTicks? n = some u → t.second * giga + giga ≤ n ∨
      (t.isLeap = false ∧ t.ticks < n) → t.rank < u.rank := by
    intro n hu hn
    obtain ⟨hn', hleap⟩ := ofTicks?_eq_some hu
    have hul := u.nano_lt
    unfold isLeap at hleap hn
    unfold rank ticks giga at *
    simp only [decide_eq_false_iff_not] at hleap hn
    omega
  unfold add? at h
  split at h
  · rename_i hleap
    simp only [isLeap, decide_eq_true_eq] at hleap
    have hdm := Int.mul_tdiv_add_tmod d.nanos giga
    have htm : 0 ≤ d.nanos.tmod giga := Int.tmod_nonneg _ (by omega)
    have htd : 0 ≤ d.nanos.tdiv giga := Int.tdiv_nonneg (by omega) (by unfold giga; omega)
    simp only at h
    split at h
    · rename_i hc
      apply key _ h
      left
      have hg : (giga : Int) = 1000000000 := rfl
      unfold ticks
      rw [hg] at *
      unfold giga at *
      omega
    · rename_i hc
      have hz : d.nanos.tdiv giga = 0 := by omega
      rw [if_neg (by omega)] at h
      unfold addWithin? at h
      split at h
      · cases h
        unfold rank
        simp only
        have : 0 < d.nanos.tmod giga := by
          rw [hz] at hdm
          omega
        omega
      · cases h
  · rename_i hleap
    apply key _ h
    right
    exact ⟨by simpa using hleap, by omega⟩

end Instant

/-! ## Periods -/

structure Period where
  start : Instant
  stop : Instant
deriving DecidableEq, Inhabited

namespace Period

/-- A period that starts and stops at one instant. -/
def ofInstant (t : Instant) : Period := ⟨t, t⟩

def length (p : Period) : Span := p.stop.since p.start

def widen (p : Period) (d : Span) : Period := ⟨p.start.subOrEarliest d, p.stop.addOrLatest d⟩

/-- The instant lies in the period, both ends included. -/
def holds (p : Period) (t : Instant) : Bool := p.start ≤ t && t ≤ p.stop

end Period

/-! ## Clocks -/

structure Clock where
  millis : Int
deriving DecidableEq, Inhabited

namespace Clock

/-- The clock that stands at an instant, its parts of a millisecond dropped. -/
def ofInstant (t : Instant) : Clock := ⟨t.wholeMillis⟩

/-- The clock moved by the whole milliseconds of a span. -/
def advance (c : Clock) (d : Span) : Clock := ⟨(c.millis + d.wholeMillis).bmod (twoTo 64)⟩

def now (c : Clock) : Instant := (Instant.ofMillis? c.millis).getD Instant.epoch

end Clock

end CarbonIntensity
