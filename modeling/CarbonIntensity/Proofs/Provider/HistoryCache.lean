import CarbonIntensity.Proofs.Lists
import CarbonIntensity.Provider.Sources
import CarbonIntensity.Time.Instant

/-!
# Answers behind the cache

A run of questions through the cache is watched: a note says for each location what the provider last
answered, for which period, and when that expires. The cache holds what the notes say after every run
(`agrees_run`), so that a question that a note serves gets the noted samples that start in the asked
period, and any other gets the provider's own answer.

Of a provider that clips a fixed series, a note holds the samples that meet the noted period. A
question that the note serves is answered by

    (series location).filter fun x => x.meets n.asked && p.holds x.start      (history_of_series)

while the provider's own answer is `(series location).filter (·.meets p)`. They agree where the two
tests do for every sample of the series, and nowhere else.
-/

namespace CarbonIntensity

/-- A provider, the clock of its state, and how long its answers are remembered. -/
structure Front (τ : Type) where
  provider : Provider τ
  now : τ → Instant
  lifetime : Span

/-- The latest answer for a location: for which period, with which samples, and until when. -/
structure Note where
  asked : Period
  samples : List Sample
  expires : Instant

/-- The note of each location, none if the provider never answered for it. -/
abbrev Notes := String → Option Note

namespace Notes

def put (location : String) (n : Note) (notes : Notes) : Notes :=
  fun j => if j = location then some n else notes j

/-- The note that a question is answered from: it has not expired, and one of its samples starts in
the period. -/
def serving? (notes : Notes) (now : Instant) (location : String) (p : Period) : Option Note :=
  (notes location).filter fun n => now < n.expires && n.samples.any fun s => p.holds s.start

end Notes

namespace Front

variable {τ : Type}

/-- What happens before the cache: a question, or a change of the provider's state, for instance of
its clock. -/
inductive Step (τ : Type) where
  | ask (location : String) (p : Period)
  | change (f : τ → τ)

/-- The state of a run, and its notes. -/
structure Watched (τ : Type) where
  state : Cached τ
  notes : Notes

/-- The history behind the cache. -/
def history (f : Front τ) (location : String) (p : Period) : Work Failure (Cached τ) (List Sample) :=
  (Sources.ofProvider f.provider f.now (some f.lifetime)).emissions.history location p

/-- A question that is not served is put to the provider, and its answer is noted. -/
def noted (f : Front τ) (location : String) (p : Period) (t : τ) (notes : Notes) : Notes :=
  if Text.isBlankText location || (notes.serving? (f.now t) location p).isSome then notes
  else
    match (f.provider.history location p).start t with
    | (.ok samples, u) => notes.put location ⟨p, samples, (f.now u).addOrLatest f.lifetime⟩
    | (.error _, _) => notes

def next (f : Front τ) (w : Watched τ) : Step τ → Watched τ
  | .ask location p =>
    ⟨((f.history location p).start w.state).2, f.noted location p w.state.inner w.notes⟩
  | .change g => { w with state := { w.state with inner := g w.state.inner } }

/-- A run from a state of the provider, with nothing remembered. -/
def run (f : Front τ) (start : τ) (steps : List (Step τ)) : Watched τ :=
  steps.foldl f.next ⟨⟨start, []⟩, fun _ => none⟩

/-- The provider clips a fixed series for each location, whatever its state. -/
def Clips (f : Front τ) (series : String → List Sample) : Prop :=
  ∀ location p t, ((f.provider.history location p).start t).1 = .ok (Series.clip p (series location))

/-! ## Notes -/

theorem put_apply (location j : String) (n : Note) (notes : Notes) :
    notes.put location n j = if j = location then some n else notes j := rfl

/-- Nothing is noted, or an answer is. -/
theorem noted_cases (f : Front τ) (location : String) (p : Period) (t : τ) (notes : Notes) :
    f.noted location p t notes = notes ∨
      ∃ samples, ((f.provider.history location p).start t).1 = .ok samples ∧
        ∃ expires, f.noted location p t notes = notes.put location ⟨p, samples, expires⟩ := by
  unfold noted
  split
  · exact .inl rfl
  · rcases (f.provider.history location p).start t with ⟨e | samples, u⟩
    · exact .inl rfl
    · exact .inr ⟨samples, rfl, (f.now u).addOrLatest f.lifetime, rfl⟩

/-- The cache holds what is noted, and nothing is noted for locations without a name. -/
structure Agrees (cache : HistoryCache) (notes : Notes) : Prop where
  lookup : ∀ location,
    cache.lookup location = (notes location).map fun n => ⟨n.expires, n.samples⟩
  blank : ∀ location, Text.isBlankText location = true → notes location = none

theorem agrees_nil : Agrees [] fun _ => none := ⟨fun _ => rfl, fun _ _ => rfl⟩

theorem agrees_put {cache : HistoryCache} {notes : Notes} (h : Agrees cache notes) {location : String}
    (hblank : Text.isBlankText location = false) (n : Note) :
    Agrees (Assoc.put location ⟨n.expires, n.samples⟩ cache) (notes.put location n) := by
  refine ⟨fun j => ?_, fun j hj => ?_⟩
  · rw [Assoc.lookup_put, put_apply, h.lookup j]
    by_cases hjl : j = location
    · rw [if_pos (beq_iff_eq.mpr hjl), if_pos hjl]
      rfl
    · rw [if_neg (mt beq_iff_eq.mp hjl), if_neg hjl]
  · rw [put_apply, if_neg]
    · exact h.blank j hj
    · rintro rfl
      rw [hj] at hblank
      cases hblank

/-- What is found in the cache is what the serving note has. -/
theorem find?_of_agrees {cache : HistoryCache} {notes : Notes} (h : Agrees cache notes) (now : Instant)
    (location : String) (p : Period) :
    cache.find? now location p =
      (notes.serving? now location p).map fun n => n.samples.filter fun s => p.holds s.start := by
  unfold HistoryCache.find? Notes.serving?
  rw [h.lookup location]
  cases notes location with
  | none => rfl
  | some n =>
    rw [Option.map_some, Option.filter_some]
    by_cases hnow : now < n.expires
    · cases hany : n.samples.any fun s => p.holds s.start with
      | true =>
        have hne : (n.samples.filter fun s => p.holds s.start).isEmpty = false := by
          obtain ⟨s, hs, hholds⟩ := List.any_eq_true.mp hany
          exact List.isEmpty_eq_false_iff_exists_mem.mpr ⟨s, List.mem_filter.mpr ⟨hs, hholds⟩⟩
        simp only [hnow, hne, decide_true, Bool.and_self, if_true, Bool.false_eq_true, if_false,
          Option.map_some]
      | false =>
        have he : (n.samples.filter fun s => p.holds s.start).isEmpty = true := by
          rw [List.isEmpty_iff, List.filter_eq_nil_iff]
          exact List.any_eq_false.mp hany
        simp only [hnow, he, Bool.and_false, if_true, Bool.false_eq_true, if_false, Option.map_none]
    · simp only [hnow, decide_false, Bool.false_and, Bool.false_eq_true, if_false, Option.map_none]

/-! ## Runs -/

theorem history_eq (f : Front τ) (location : String) (p : Period) :
    f.history location p =
      HistoryCache.readThrough Cached.historySlot (fun s => f.now s.inner) f.lifetime location p
        (Work.within Cached.innerSlot (f.provider.history location p)) := rfl

/-- A question behind the cache: its answer, and what the cache agrees with after it. -/
theorem start_history (f : Front τ) {s : Cached τ} {notes : Notes} (h : Agrees s.history notes)
    (location : String) (p : Period) :
    ((f.history location p).start s).1 =
        (match notes.serving? (f.now s.inner) location p with
          | some n => .ok (n.samples.filter fun x => p.holds x.start)
          | none => ((f.provider.history location p).start s.inner).1) ∧
      Agrees ((f.history location p).start s).2.history (f.noted location p s.inner notes) := by
  have hfind := find?_of_agrees h (f.now s.inner) location p
  rw [history_eq]
  unfold HistoryCache.readThrough noted
  cases hblank : Text.isBlankText location with
  | true =>
    have hnone : notes.serving? (f.now s.inner) location p = none := by
      unfold Notes.serving?
      rw [h.blank location hblank, Option.filter_none]
    rw [if_pos rfl, Bool.true_or, if_pos rfl, hnone]
    exact ⟨rfl, h⟩
  | false =>
    rw [if_neg Bool.false_ne_true, Bool.false_or, Work.start_of]
    have hget : Cached.historySlot.get s = s.history := rfl
    rw [hget, hfind]
    cases hserving : notes.serving? (f.now s.inner) location p with
    | some n =>
      rw [Option.isSome_some, if_pos rfl]
      exact ⟨rfl, h⟩
    | none =>
      rw [Option.isSome_none, if_neg Bool.false_ne_true, Option.map_none]
      have hask : (Work.within Cached.innerSlot (f.provider.history location p)).start s =
          (((f.provider.history location p).start s.inner).1,
            { s with inner := ((f.provider.history location p).start s.inner).2 }) := rfl
      simp only [hask]
      rcases (f.provider.history location p).start s.inner with ⟨e | samples, u⟩
      · exact ⟨rfl, h⟩
      · exact ⟨rfl, agrees_put h hblank ⟨p, samples, (f.now u).addOrLatest f.lifetime⟩⟩

theorem agrees_next (f : Front τ) {w : Watched τ} (h : Agrees w.state.history w.notes) (e : Step τ) :
    Agrees (f.next w e).state.history (f.next w e).notes := by
  cases e with
  | ask location p => exact (start_history f h location p).2
  | change g => exact h

theorem agrees_run (f : Front τ) (start : τ) (steps : List (Step τ)) :
    Agrees (f.run start steps).state.history (f.run start steps).notes :=
  List.foldlRecOn (motive := fun w => Agrees w.state.history w.notes) steps f.next agrees_nil
    fun _ h e _ => agrees_next f h e

/-! ## A provider of fixed series -/

/-- Every note has the samples that meet the period it was asked for. -/
def Clipped (series : String → List Sample) (notes : Notes) : Prop :=
  ∀ location n, notes location = some n → n.samples = Series.clip n.asked (series location)

theorem clipped_nil (series : String → List Sample) : Clipped series fun _ => none := by
  intro _ n hn
  cases hn

theorem clipped_next (f : Front τ) {series : String → List Sample} (hclips : f.Clips series)
    {w : Watched τ} (h : Clipped series w.notes) (e : Step τ) : Clipped series (f.next w e).notes := by
  cases e with
  | change g => exact h
  | ask location p =>
    show Clipped series (f.noted location p w.state.inner w.notes)
    rcases noted_cases f location p w.state.inner w.notes with heq | ⟨samples, hsamples, expires, heq⟩
    · rw [heq]
      exact h
    · rw [heq]
      intro j n hn
      rw [put_apply] at hn
      split at hn
      · next hj =>
        obtain rfl := Option.some.inj hn
        rw [hj]
        exact Except.ok.inj (hsamples.symm.trans (hclips location p w.state.inner))
      · exact h j n hn

theorem clipped_run (f : Front τ) {series : String → List Sample} (hclips : f.Clips series) (start : τ)
    (steps : List (Step τ)) : Clipped series (f.run start steps).notes :=
  List.foldlRecOn (motive := fun w => Clipped series w.notes) steps f.next
    (clipped_nil series) fun _ h e _ => clipped_next f hclips h e

/-- **Answers behind the cache of a provider of fixed series.** After every run, a question that a note
serves is answered by the samples that meet the noted period and start in the asked one, any other by
the provider. The answer is the provider's own exactly where each sample of the series starts in the
asked period and meets the noted one if and only if it meets the asked one. -/
theorem history_of_series (f : Front τ) (series : String → List Sample) (hclips : f.Clips series)
    (start : τ) (steps : List (Step τ)) (location : String) (p : Period) :
    let w := f.run start steps
    let answer := ((f.history location p).start w.state).1
    let own := ((f.provider.history location p).start w.state.inner).1
    let serving := w.notes.serving? (f.now w.state.inner) location p
    own = .ok (Series.clip p (series location)) ∧
      (∀ n, w.notes location = some n → n.samples = Series.clip n.asked (series location)) ∧
      (serving = none → answer = own) ∧
      (∀ n, serving = some n →
        answer = .ok ((series location).filter fun x => x.meets n.asked && p.holds x.start)) ∧
      (answer = own ↔ ∀ n, serving = some n →
        ∀ x ∈ series location, (x.meets n.asked && p.holds x.start) = x.meets p) := by
  intro w answer own serving
  have hown : own = .ok (Series.clip p (series location)) := hclips location p w.state.inner
  have hclipped := clipped_run f hclips start steps location
  have hanswer : answer = match serving with
      | some n => .ok (n.samples.filter fun x => p.holds x.start)
      | none => own := (start_history f (agrees_run f start steps) location p).1
  have hserved : ∀ n, serving = some n →
      answer = .ok ((series location).filter fun x => x.meets n.asked && p.holds x.start) := by
    intro n hn
    have hnote : w.notes location = some n := (Option.filter_eq_some_iff.mp hn).1
    rw [hanswer, hn]
    show Except.ok (n.samples.filter _) = _
    rw [hclipped n hnote, Series.clip, List.filter_filter]
    congr 2
    funext x
    exact Bool.and_comm _ _
  have hmissed : serving = none → answer = own := by
    intro hn
    rw [hanswer, hn]
  refine ⟨hown, hclipped, hmissed, hserved, ?_⟩
  cases hn : serving with
  | none =>
    refine ⟨fun _ n h => ?_, fun _ => hmissed hn⟩
    cases h
  | some n =>
    rw [hserved n hn, hown, Except.ok.injEq, Series.clip, filter_eq_filter_iff]
    constructor
    · intro h m hm
      obtain rfl := Option.some.inj hm
      exact h
    · intro h
      exact h n rfl

/-- A provider that clips fixed series, whose state is a clock. -/
def ofSeries (series : String → List Sample) (lifetime : Span) : Front Clock where
  provider := {
    name := "series"
    history := fun location p => pure (Series.clip p (series location))
    currentForecast := fun _ => Work.fail (.unsupported "series" "forecasts")
    forecastAsOf := fun _ _ => Work.fail (.unsupported "series" "forecasts")
    region := fun _ => Work.fail (.unsupported "series" "regions") }
  now := Clock.now
  lifetime := lifetime

theorem clips_ofSeries (series : String → List Sample) (lifetime : Span) :
    (ofSeries series lifetime).Clips series := fun _ _ _ => rfl

def minutesAfterEpoch (n : Nat) : Instant := Instant.epoch.addOrLatest (Span.minutes n)

/-- Three samples of five minutes each. -/
def quarterHour : List Sample :=
  [⟨"x", Instant.epoch, Span.minutes 5, 1.0⟩, ⟨"x", minutesAfterEpoch 5, Span.minutes 5, 2.0⟩,
    ⟨"x", minutesAfterEpoch 10, Span.minutes 5, 3.0⟩]

/-- After a question for five minutes, the note serves one for the first of them, and the answer is the
provider's own. -/
theorem history_of_series_narrower :
    let f := ofSeries (fun _ => quarterHour) (Span.minutes 10)
    let five : Period := ⟨Instant.epoch, minutesAfterEpoch 5⟩
    let first : Period := ⟨Instant.epoch, minutesAfterEpoch 1⟩
    let w := f.run ⟨0⟩ [.ask "x" five, .change fun c => c.advance (Span.minutes 1)]
    f.Clips (fun _ => quarterHour) ∧ (w.notes.serving? (f.now w.state.inner) "x" first).isSome ∧
      ((f.history "x" first).start w.state).1 = ((f.provider.history "x" first).start w.state.inner).1 := by
  intro f five first w
  have hclips : f.Clips (fun _ => quarterHour) := clips_ofSeries _ _
  have hnote : (w.notes.serving? (f.now w.state.inner) "x" first).map Note.asked = some five := by
    decide +kernel
  obtain ⟨-, -, -, -, hown⟩ := history_of_series f (fun _ => quarterHour) hclips ⟨0⟩
    [.ask "x" five, .change fun c => c.advance (Span.minutes 1)] "x" first
  refine ⟨hclips, ?_, hown.mpr fun n hn => ?_⟩
  · rw [← Option.isSome_map (f := Note.asked), hnote]
    rfl
  · have hasked : n.asked = five := by
      rw [hn] at hnote
      exact Option.some.inj hnote
    rw [hasked]
    decide +kernel

/-- After a question for five minutes, one for the whole quarter of an hour gets one sample behind the
cache, and three from the provider. -/
theorem history_of_series_wider :
    let f := ofSeries (fun _ => quarterHour) (Span.minutes 10)
    let five : Period := ⟨Instant.epoch, minutesAfterEpoch 5⟩
    let quarter : Period := ⟨Instant.epoch, minutesAfterEpoch 15⟩
    let w := f.run ⟨0⟩ [.ask "x" five]
    f.Clips (fun _ => quarterHour) ∧ five.start ≤ five.stop ∧ quarter.start ≤ quarter.stop ∧
      CacheSettings.expiration ⟨true, 10⟩ = .ok f.lifetime ∧
      ((f.history "x" quarter).start w.state).1 ≠
        ((f.provider.history "x" quarter).start w.state.inner).1 := by
  intro f five quarter w
  refine ⟨clips_ofSeries _ _, by decide, by decide, rfl, fun heq => ?_⟩
  have hlen := congrArg (fun r => r.toOption.map List.length) heq
  have hbehind : ((f.history "x" quarter).start w.state).1.toOption.map List.length = some 1 := by
    decide +kernel
  have hown : ((f.provider.history "x" quarter).start w.state.inner).1.toOption.map List.length =
      some 3 := by
    decide +kernel
  rw [hbehind, hown] at hlen
  cases hlen

end Front

end CarbonIntensity
