import CarbonIntensity.Proofs.Provider.HistoryCache
import CarbonIntensity.Proofs.Provider.Watch
import Mathlib.Data.List.Induction

/-!
# Where remembered histories come from

The provider behind the cache keeps a journal of the questions that reach it, each with its answer and
the reading of the clock when the answer was complete. Keeping it changes nothing (state_journaled).

After every run, whatever the provider answers and however the clock moves, the cache holds for each
location with a name the latest answer in the journal that is no failure, and nothing else:

    Agrees cache (notesOf lifetime journal)      (agrees_journal)

so that a question is served from that answer, or else it reaches the provider exactly once.
-/

namespace CarbonIntensity

/-- A question for a history that reached the provider, its answer, and when that was complete. -/
structure Inquiry where
  location : String
  period : Period
  answer : Except Failure (List Sample)
  finished : Instant

/-- The questions that reached the provider, the latest first. -/
abbrev Inquiries := List Inquiry

namespace Inquiries

/-- The latest question for a location whose answer is no failure. -/
def lastAnswered? (journal : Inquiries) (location : String) : Option Inquiry :=
  journal.find? fun i => i.location == location && i.answer.isOk

/-- A question at an instant is served from the latest answer for its location: the location has a name,
the answer has not expired, and some of its samples start in the period. -/
structure Serves (journal : Inquiries) (lifetime : Span) (now : Instant) (location : String)
    (p : Period) (hits : List Sample) : Prop where
  named : Text.isBlankText location = false
  nonempty : hits ≠ []
  source : ∃ i samples, journal.lastAnswered? location = some i ∧ i.answer = .ok samples ∧
    now < i.finished.addOrLatest lifetime ∧
    hits = samples.filter fun x => p.start ≤ x.start ∧ x.start ≤ p.stop

end Inquiries

/-- What a question that was answered leaves to be noted. -/
def Inquiry.note? (lifetime : Span) (i : Inquiry) : Option Note :=
  i.answer.toOption.map fun samples => ⟨i.period, samples, i.finished.addOrLatest lifetime⟩

namespace Front

variable {τ : Type}

/-- The front over a provider that keeps a journal. -/
def journaled (f : Front τ) : Front (τ × Inquiries) where
  provider :=
    { f.provider.within Slot.beside with
      history := fun location p =>
        Work.of fun x =>
          let (answer, t) := (f.provider.history location p).start x.1
          (answer, t, ⟨location, p, answer, f.now t⟩ :: x.2) }
  now x := f.now x.1
  lifetime := f.lifetime

/-- The same thing happening to a state beside a record. -/
def Step.beside {ρ : Type} : Step τ → Step (τ × ρ)
  | ask location p => ask location p
  | change g => change fun x => (g x.1, x.2)

/-- The questions of a run that reached the provider. -/
def journal (f : Front τ) (start : τ) (steps : List (Step τ)) : Inquiries :=
  (f.journaled.run (start, []) (steps.map Step.beside)).state.inner.2

/-- The question as it reaches the provider in a state. -/
def inquiry (f : Front τ) (location : String) (p : Period) (t : τ) : Inquiry :=
  let own := (f.provider.history location p).start t
  ⟨location, p, own.1, f.now own.2⟩

/-- The notes of the latest answers. -/
def notesOf (lifetime : Span) (journal : Inquiries) : Notes := fun location =>
  if Text.isBlankText location then none
  else (journal.lastAnswered? location).bind (Inquiry.note? lifetime)

/-! ## One question -/

section Question

variable (f : Front τ) {s : Cached τ} {location : String} {p : Period}

/-- What is found is the answer, and nothing changes. -/
theorem start_of_found {hits : List Sample} (hblank : Text.isBlankText location = false)
    (hfind : s.history.find? (f.now s.inner) location p = some hits) :
    (f.history location p).start s = (.ok hits, s) := by
  rw [history_eq]
  unfold HistoryCache.readThrough
  rw [hblank, if_neg Bool.false_ne_true, Work.start_of]
  have hget : Cached.historySlot.get s = s.history := rfl
  rw [hget, hfind]

/-- What is not found is asked of the provider. Its answer is remembered, unless it is a failure or the
location has no name. -/
theorem start_of_missed (h : Text.isBlankText location = true ∨
      s.history.find? (f.now s.inner) location p = none) :
    let own := (f.provider.history location p).start s.inner
    (f.history location p).start s = (own.1, ⟨own.2,
      match own.1 with
      | .ok samples =>
        if Text.isBlankText location then s.history
        else s.history.remember (f.now own.2) f.lifetime location samples
      | .error _ => s.history⟩) := by
  intro own
  have hask : (Work.within Cached.innerSlot (f.provider.history location p)).start s =
      (own.1, { s with inner := own.2 }) := rfl
  rw [history_eq]
  unfold HistoryCache.readThrough
  cases hblank : Text.isBlankText location with
  | true =>
    rw [if_pos rfl, hask]
    rcases own with ⟨e | samples, t⟩
    · rfl
    · rfl
  | false =>
    have hnone : s.history.find? (f.now s.inner) location p = none := by
      rcases h with h | h
      · rw [hblank] at h
        cases h
      · exact h
    have hget : Cached.historySlot.get s = s.history := rfl
    rw [if_neg Bool.false_ne_true, Work.start_of, hget, hnone]
    dsimp only
    rw [hask]
    rcases own with ⟨e | samples, t⟩
    · rfl
    · rfl

/-- A question for a location leaves what is held for the others. -/
theorem lookup_of_other {j : String} (hj : j ≠ location) :
    ((f.history location p).start s).2.history.lookup j = s.history.lookup j := by
  by_cases h : Text.isBlankText location = true ∨
      s.history.find? (f.now s.inner) location p = none
  · rw [start_of_missed f h]
    dsimp only
    split
    · split
      · rfl
      · unfold HistoryCache.remember
        rw [Assoc.lookup_put, if_neg (mt beq_iff_eq.mp hj)]
    · rfl
  · obtain ⟨hblank, hfound⟩ := not_or.mp h
    obtain ⟨hits, hfind⟩ := Option.ne_none_iff_exists'.mp hfound
    rw [start_of_found f (Bool.eq_false_iff.mpr hblank) hfind]

/-- A question for a location without a name, or one that fails, leaves all that is held. -/
theorem history_of_failed (h : Text.isBlankText location = true ∨
      ∃ e, ((f.provider.history location p).start s.inner).1 = .error e) :
    ((f.history location p).start s).2.history = s.history := by
  by_cases hmissed : Text.isBlankText location = true ∨
      s.history.find? (f.now s.inner) location p = none
  · rw [start_of_missed f hmissed]
    dsimp only
    rcases h with hblank | ⟨e, he⟩
    · split
      · rw [if_pos hblank]
      · rfl
    · rw [he]
  · obtain ⟨hblank, hfound⟩ := not_or.mp hmissed
    obtain ⟨hits, hfind⟩ := Option.ne_none_iff_exists'.mp hfound
    rw [start_of_found f (Bool.eq_false_iff.mpr hblank) hfind]

end Question

/-! ## The journal -/

section Journal

variable (f : Front τ)

/-- Keeping the journal changes nothing, and a question is added to it that reaches the provider. -/
theorem start_journaled (t : τ) (journal : Inquiries) (cache : HistoryCache) (location : String)
    (p : Period) :
    let r := (f.history location p).start ⟨t, cache⟩
    (f.journaled.history location p).start ⟨(t, journal), cache⟩ =
      (r.1, ⟨(r.2.inner,
        if Text.isBlankText location || (cache.find? (f.now t) location p).isNone then
          f.inquiry location p t :: journal
        else journal), r.2.history⟩) := by
  intro r
  by_cases h : Text.isBlankText location = true ∨ cache.find? (f.now t) location p = none
  · have hreaches : (Text.isBlankText location || (cache.find? (f.now t) location p).isNone) = true := by
      rw [Bool.or_eq_true, Option.isNone_iff_eq_none]
      exact h
    have hr : r = _ := start_of_missed f (s := ⟨t, cache⟩) h
    rw [start_of_missed f.journaled (s := ⟨(t, journal), cache⟩) h, hr, if_pos hreaches]
    rfl
  · obtain ⟨hblank, hfound⟩ := not_or.mp h
    obtain ⟨hits, hfind⟩ := Option.ne_none_iff_exists'.mp hfound
    have hblank' := Bool.eq_false_iff.mpr hblank
    have hr : r = _ := start_of_found f (s := ⟨t, cache⟩) hblank' hfind
    rw [start_of_found f.journaled (s := ⟨(t, journal), cache⟩) hblank' hfind, hr, hblank', hfind]
    rfl

theorem run_snoc (start : τ) (steps : List (Step τ)) (e : Step τ) :
    f.run start (steps ++ [e]) = f.next (f.run start steps) e := by
  unfold run
  rw [List.foldl_append, List.foldl_cons, List.foldl_nil]

/-- The run that keeps a journal is the run. -/
theorem state_journaled (start : τ) (steps : List (Step τ)) :
    (f.journaled.run (start, []) (steps.map Step.beside)).state =
      ⟨((f.run start steps).state.inner, f.journal start steps), (f.run start steps).state.history⟩ := by
  have hstate : ∃ journal, (f.journaled.run (start, []) (steps.map Step.beside)).state =
      ⟨((f.run start steps).state.inner, journal), (f.run start steps).state.history⟩ := by
    induction steps using List.reverseRecOn with
    | nil => exact ⟨[], rfl⟩
    | append_singleton steps e ih =>
      obtain ⟨journal, ih⟩ := ih
      rw [List.map_append, List.map_singleton, run_snoc, run_snoc]
      cases e with
      | change g =>
        refine ⟨journal, ?_⟩
        show ({ (f.journaled.run _ _).state with inner := _ } : Cached _) = _
        rw [ih]
        rfl
      | ask location p =>
        show ∃ journal, ((f.journaled.history location p).start (f.journaled.run _ _).state).2 = _
        rw [ih, start_journaled]
        exact ⟨_, rfl⟩
  obtain ⟨journal, hstate⟩ := hstate
  have hjournal : f.journal start steps = journal := by
    unfold Front.journal
    rw [hstate]
  rw [hstate, hjournal]

theorem journal_ask (start : τ) (steps : List (Step τ)) (location : String) (p : Period) :
    let s := (f.run start steps).state
    f.journal start (steps ++ [.ask location p]) =
      if Text.isBlankText location || (s.history.find? (f.now s.inner) location p).isNone then
        f.inquiry location p s.inner :: f.journal start steps
      else f.journal start steps := by
  intro s
  have hnext : f.journal start (steps ++ [.ask location p]) =
      ((f.journaled.history location p).start
        (f.journaled.run (start, []) (steps.map Step.beside)).state).2.inner.2 := by
    unfold journal
    rw [List.map_append, List.map_singleton, run_snoc]
    rfl
  rw [hnext, state_journaled, start_journaled]

/-! ## Notes of the journal -/

theorem lastAnswered?_cons (i : Inquiry) (journal : Inquiries) (location : String) :
    Inquiries.lastAnswered? (i :: journal) location =
      if i.location = location ∧ i.answer.isOk then some i else journal.lastAnswered? location := by
  unfold Inquiries.lastAnswered?
  rw [List.find?_cons]
  by_cases h : i.location = location ∧ i.answer.isOk
  · rw [if_pos h, h.2, beq_iff_eq.mpr h.1, Bool.and_self]
  · rw [if_neg h]
    have hfalse : (i.location == location && i.answer.isOk) = false := by
      rw [Bool.eq_false_iff, ne_eq, Bool.and_eq_true, beq_iff_eq]
      exact h
    rw [hfalse]

/-- Failures and questions for locations without a name do not count. -/
theorem notesOf_cons_of_failed (lifetime : Span) {i : Inquiry} (journal : Inquiries)
    (h : Text.isBlankText i.location = true ∨ i.answer.isOk = false) :
    notesOf lifetime (i :: journal) = notesOf lifetime journal := by
  funext j
  unfold notesOf
  cases hj : Text.isBlankText j with
  | true => rfl
  | false =>
    have hother : ¬(i.location = j ∧ i.answer.isOk = true) := by
      rintro ⟨rfl, hok⟩
      rcases h with h | h
      · rw [h] at hj
        cases hj
      · rw [h] at hok
        cases hok
    rw [lastAnswered?_cons, if_neg hother]

theorem notesOf_cons_of_ok (lifetime : Span) (journal : Inquiries) {location : String}
    (hblank : Text.isBlankText location = false) (period : Period) (samples : List Sample)
    (finished : Instant) :
    notesOf lifetime (⟨location, period, .ok samples, finished⟩ :: journal) =
      (notesOf lifetime journal).put location
        ⟨period, samples, finished.addOrLatest lifetime⟩ := by
  funext j
  rw [put_apply]
  unfold notesOf
  rw [lastAnswered?_cons]
  by_cases hj : j = location
  · have hself : location = j ∧ (Except.ok samples : Except Failure _).isOk = true := ⟨hj.symm, rfl⟩
    rw [if_pos hj, if_pos hself, hj, hblank]
    rfl
  · have hother : ¬(location = j ∧ (Except.ok samples : Except Failure _).isOk = true) :=
      fun h => hj h.1.symm
    rw [if_neg hj, if_neg hother]

/-- What a question leaves noted is what its journal says. -/
theorem noted_notesOf (t : τ) {journal : Inquiries} {cache : HistoryCache}
    (h : Agrees cache (notesOf f.lifetime journal)) (location : String) (p : Period) :
    f.noted location p t (notesOf f.lifetime journal) = notesOf f.lifetime
      (if Text.isBlankText location || (cache.find? (f.now t) location p).isNone then
        f.inquiry location p t :: journal
      else journal) := by
  rw [find?_of_agrees h, Option.isNone_map]
  unfold noted
  cases hblank : Text.isBlankText location with
  | true =>
    rw [Bool.true_or, Bool.true_or, if_pos rfl, if_pos rfl]
    exact (notesOf_cons_of_failed f.lifetime journal (.inl hblank)).symm
  | false =>
    rw [Bool.false_or, Bool.false_or]
    cases (notesOf f.lifetime journal).serving? (f.now t) location p with
    | some n => rfl
    | none =>
      rw [Option.isSome_none, Option.isNone_none, if_neg Bool.false_ne_true, if_pos rfl]
      unfold inquiry
      rcases (f.provider.history location p).start t with ⟨e | samples, u⟩
      · exact (notesOf_cons_of_failed f.lifetime journal (.inr rfl)).symm
      · exact (notesOf_cons_of_ok f.lifetime journal hblank p samples (f.now u)).symm

/-- After every run the cache holds the latest answers of the journal. -/
theorem agrees_journal (start : τ) (steps : List (Step τ)) :
    Agrees (f.run start steps).state.history (notesOf f.lifetime (f.journal start steps)) := by
  induction steps using List.reverseRecOn with
  | nil =>
    have hnone : notesOf f.lifetime (f.journal start []) = fun _ => none := by
      funext j
      show (if Text.isBlankText j then none else none : Option Note) = none
      rw [ite_self]
    rw [hnone]
    exact agrees_nil
  | append_singleton steps e ih =>
    cases e with
    | change g =>
      have hjournal : f.journal start (steps ++ [.change g]) = f.journal start steps := by
        unfold journal
        rw [List.map_append, List.map_singleton, run_snoc]
        rfl
      rw [run_snoc, hjournal]
      exact ih
    | ask location p =>
      rw [run_snoc, journal_ask, ← noted_notesOf f _ ih]
      exact (start_history f ih location p).2

end Journal

/-! ## Answers -/

theorem notesOf_eq_some_iff {lifetime : Span} {journal : Inquiries} {location : String} {n : Note} :
    notesOf lifetime journal location = some n ↔
      Text.isBlankText location = false ∧ ∃ i samples, journal.lastAnswered? location = some i ∧
        i.answer = .ok samples ∧ ⟨i.period, samples, i.finished.addOrLatest lifetime⟩ = n := by
  unfold notesOf Inquiry.note?
  cases Text.isBlankText location with
  | true => simp
  | false =>
    rw [if_neg Bool.false_ne_true, Option.bind_eq_some_iff]
    constructor
    · rintro ⟨i, hlast, hn⟩
      obtain ⟨samples, hsamples, hnote⟩ := Option.map_eq_some_iff.mp hn
      cases hanswer : i.answer with
      | error e =>
        rw [hanswer] at hsamples
        cases hsamples
      | ok samples' =>
        rw [hanswer] at hsamples
        obtain rfl := Option.some.inj hsamples
        exact ⟨rfl, i, samples', hlast, hanswer, hnote⟩
    · rintro ⟨-, i, samples, hlast, hanswer, hnote⟩
      refine ⟨i, hlast, ?_⟩
      rw [hanswer]
      exact congrArg some hnote

/-- What the latest answer serves is what is found in the cache. -/
theorem serves_iff {lifetime : Span} {cache : HistoryCache} {journal : Inquiries}
    (h : Agrees cache (notesOf lifetime journal)) (now : Instant) (location : String) (p : Period)
    (hits : List Sample) :
    journal.Serves lifetime now location p hits ↔
      Text.isBlankText location = false ∧ cache.find? now location p = some hits := by
  have hholds : (fun x : Sample => decide (p.start ≤ x.start ∧ x.start ≤ p.stop)) =
      fun x => p.holds x.start := funext fun x => Bool.decide_and _ _
  have hany : ∀ samples : List Sample, (samples.filter fun x => p.holds x.start) ≠ [] ↔
      (samples.any fun x => p.holds x.start) = true := by
    intro samples
    rw [ne_eq, List.filter_eq_nil_iff, List.any_eq_true]
    push Not
    rfl
  rw [find?_of_agrees h, Option.map_eq_some_iff]
  unfold Notes.serving?
  constructor
  · rintro ⟨hblank, hne, i, samples, hlast, hanswer, hnow, rfl⟩
    rw [hholds] at hne ⊢
    refine ⟨hblank, ⟨i.period, samples, i.finished.addOrLatest lifetime⟩, ?_, rfl⟩
    rw [Option.filter_eq_some_iff, notesOf_eq_some_iff, Bool.and_eq_true, decide_eq_true_iff]
    exact ⟨⟨hblank, i, samples, hlast, hanswer, rfl⟩, hnow, (hany samples).mp hne⟩
  · rintro ⟨hblank, n, hserving, rfl⟩
    rw [Option.filter_eq_some_iff, notesOf_eq_some_iff, Bool.and_eq_true, decide_eq_true_iff] at hserving
    obtain ⟨⟨-, i, samples, hlast, hanswer, rfl⟩, hnow, hsome⟩ := hserving
    exact ⟨hblank, (hany samples).mpr hsome, i, samples, hlast, hanswer, hnow, by rw [hholds]⟩

/-- A run of questions for other locations leaves what is held for a location. -/
theorem lookup_of_others (f : Front τ) (start : τ) (steps more : List (Step τ)) (location : String)
    (hother : ∀ p, Step.ask location p ∉ more) :
    (f.run start (steps ++ more)).state.history.lookup location =
      (f.run start steps).state.history.lookup location := by
  induction more using List.reverseRecOn with
  | nil => rw [List.append_nil]
  | append_singleton more e ih =>
    rw [← List.append_assoc, run_snoc]
    have hbefore := ih fun p hmem => hother p (List.mem_append_left _ hmem)
    cases e with
    | change g => exact hbefore
    | ask j p =>
      have hne : location ≠ j := by
        rintro rfl
        exact hother p (List.mem_append_right _ (List.mem_singleton_self _))
      exact (lookup_of_other f hne).trans hbefore

/-- **Where an answer behind the cache comes from.** After every run, whatever the provider answers and
however the clock moves, and the journal changing nothing: a question that the latest answer for its
location serves gets the samples of that answer that start in the period, and nothing changes. Any other
question reaches the provider exactly once and gets its own answer. What is held stays as it is if the
location has no name or the provider fails, and questions for other locations do not touch what is held
for a location. -/
theorem history_of_last_answer (f : Front τ) (start : τ) (steps : List (Step τ)) (location : String)
    (p : Period) :
    let s := (f.run start steps).state
    let journal := f.journal start steps
    let own := (f.provider.history location p).start s.inner
    let answer := (f.history location p).start s
    let journal' := f.journal start (steps ++ [.ask location p])
    (f.journaled.run (start, []) (steps.map Step.beside)).state = ⟨(s.inner, journal), s.history⟩ ∧
      (∀ hits, journal.Serves f.lifetime (f.now s.inner) location p hits →
        answer = (.ok hits, s) ∧ journal' = journal) ∧
      ((¬∃ hits, journal.Serves f.lifetime (f.now s.inner) location p hits) →
        answer.1 = own.1 ∧ answer.2.inner = own.2 ∧
          journal' = ⟨location, p, own.1, f.now own.2⟩ :: journal) ∧
      ((Text.isBlankText location = true ∨ ∃ e, own.1 = .error e) →
        answer.2.history = s.history) ∧
      ∀ more, (∀ q, Step.ask location q ∉ more) →
        (f.run start (steps ++ more)).state.history.lookup location = s.history.lookup location := by
  intro s journal own answer journal'
  have hserves := serves_iff (agrees_journal f start steps) (f.now s.inner) location p
  have hjournal : journal' =
      if Text.isBlankText location || (s.history.find? (f.now s.inner) location p).isNone then
        ⟨location, p, own.1, f.now own.2⟩ :: journal
      else journal := journal_ask f start steps location p
  refine ⟨state_journaled f start steps, fun hits hhits => ?_, fun hnone => ?_, history_of_failed f,
    fun more hother => lookup_of_others f start steps more location hother⟩
  · obtain ⟨hblank, hfind⟩ := (hserves hits).mp hhits
    refine ⟨start_of_found f hblank hfind, ?_⟩
    have hfound : s.history.find? (f.now s.inner) location p = some hits := hfind
    rw [hjournal, hblank, hfound]
    rfl
  · have hmissed : Text.isBlankText location = true ∨
        s.history.find? (f.now s.inner) location p = none := by
      by_contra h
      obtain ⟨hblank, hfound⟩ := not_or.mp h
      obtain ⟨hits, hfind⟩ := Option.ne_none_iff_exists'.mp hfound
      exact hnone ⟨hits, (hserves hits).mpr ⟨Bool.eq_false_iff.mpr hblank, hfind⟩⟩
    have hanswer : answer = _ := start_of_missed f hmissed
    have hreaches : (Text.isBlankText location ||
        (s.history.find? (f.now s.inner) location p).isNone) = true := by
      rw [Bool.or_eq_true, Option.isNone_iff_eq_none]
      exact hmissed
    rw [if_pos hreaches] at hjournal
    rw [hanswer]
    exact ⟨rfl, rfl, hjournal⟩

end Front

end CarbonIntensity
