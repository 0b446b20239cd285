import CarbonIntensity.Proofs.Outcome
import CarbonIntensity.Proofs.Provider.Watch
import CarbonIntensity.Provider.Sources

/-!
# Labels of answers

Every sample of a history and every forecast bears the location that was asked about. The clients and
the data file put it there themselves. The cache only gives out samples that were asked for under the
same name, which the states that a run of questions leads to keep:

    Labelled cache → cache.find? now location p = some hits → x ∈ hits → x.location = location
-/

namespace CarbonIntensity

namespace Work

variable {ε σ α β : Type}

/-- What the work gives, from whatever state, satisfies the condition. -/
def Gives (post : α → Prop) (w : Work ε σ α) : Prop := ∀ s a, (w.start s).1 = .ok a → post a

theorem gives_pure {post : α → Prop} {a : α} (h : post a) : Gives post (pure a : Work ε σ α) := by
  intro s b hb
  cases hb
  exact h

theorem gives_fail {post : α → Prop} {e : ε} : Gives post (fail e : Work ε σ α) := by
  intro s b hb
  cases hb

theorem gives_bind {post : β → Prop} {w : Work ε σ α} {f : α → Work ε σ β} (h : ∀ a, Gives post (f a)) :
    Gives post (w >>= f) := by
  intro s b hb
  rw [start_bind] at hb
  rcases hw : w.start s with ⟨e | a, t⟩
  · rw [hw] at hb
    cases hb
  · rw [hw] at hb
    exact h a t b hb

theorem gives_ofExcept {post : α → Prop} {r : Except ε α} (h : ∀ a, r = .ok a → post a) :
    Gives post (ofExcept r : Work ε σ α) := fun _ a ha => h a ha

end Work

/-- Every sample stands at the location. -/
def Series.AllAt (location : String) (samples : List Sample) : Prop :=
  ∀ x ∈ samples, x.location = location

theorem Series.allAt_clip {location : String} {samples : List Sample} (h : AllAt location samples)
    (p : Period) : AllAt location (clip p samples) := fun x hx => h x (mem_clip.mp hx).1

/-- From the states of an invariant, which every question keeps, answers bear the location that was asked
about. -/
structure Provider.Labels {σ : Type} (I : σ → Prop) (q : Provider σ) : Prop where
  kept : ∀ s question, I s → I (q.after s question)
  history : ∀ location p s samples, I s →
    ((q.history location p).start s).1 = .ok samples → Series.AllAt location samples
  forecast : ∀ location s f, I s → ((q.currentForecast location).start s).1 = .ok f → f.location = location

/-! ## The providers -/

/-- The providers there are. -/
inductive Own : Provider Session → Prop
  | dataFile (d : DataFile) : Own d.provider
  | wattTime (c : WattTime.Client) : Own c.provider
  | electricityMaps (c : ElectricityMaps.Client) : Own c.provider
  | electricityMapsFree (c : ElectricityMapsFree.Client) : Own c.provider

theorem DataFile.allAt_history (d : DataFile) (location : String) (p : Period) :
    Series.AllAt location (d.history location p) := by
  refine Series.allAt_clip (fun x hx => ?_) p
  have hfound := (List.mem_filter.mp hx).2
  rw [Bool.and_eq_true, beq_iff_eq] at hfound
  exact hfound.1

theorem WattTime.GridData.allAt_history (d : WattTime.GridData) (location : String) :
    Series.AllAt location (d.history location) := by
  intro x hx
  obtain ⟨point, -, rfl⟩ := List.mem_map.mp hx
  rfl

theorem WattTime.GridData.location_of_forecast {d : WattTime.GridData} {location : String} {f : Forecast}
    (h : d.forecast location = .ok f) : f.location = location := by
  unfold forecast at h
  cases hgenerated : d.info.generatedAt with
  | none =>
    rw [hgenerated] at h
    cases h
  | some generatedAt =>
    rw [hgenerated] at h
    cases hdata : forecastSamples d.points location with
    | error e =>
      rw [hdata] at h
      cases h
    | ok data =>
      rw [hdata] at h
      cases h
      rfl

theorem ElectricityMaps.History.allAt_samples (h : ElectricityMaps.History) (location : String) :
    Series.AllAt location (h.samples location) := by
  intro x hx
  obtain ⟨point, -, rfl⟩ := List.mem_map.mp hx
  rfl

/-- Whatever a client remembers, its answers bear the location that was asked about. -/
theorem Own.labels {q : Provider Session} (h : Own q) : q.Labels fun _ => True where
  kept _ _ _ := trivial
  history location p s samples _ := by
    have hgives : Work.Gives (Series.AllAt location) (q.history location p) := by
      cases h with
      | dataFile d => exact Work.gives_pure (d.allAt_history location p)
      | wattTime c =>
        refine Work.gives_bind fun region => Work.gives_bind fun data => ?_
        exact Work.gives_pure (Series.allAt_clip (data.allAt_history location) p)
      | electricityMaps c =>
        refine Work.gives_bind fun t => Work.gives_bind fun line => ?_
        have hclip := fun answer : ElectricityMaps.History =>
          Work.gives_pure (ε := Failure) (σ := Session) (Series.allAt_clip (answer.allAt_samples location) p)
        simp only
        split
        · exact Work.gives_fail
        split
        · exact Work.gives_bind hclip
        · exact Work.gives_bind hclip
      | electricityMapsFree c => exact Work.gives_fail
    exact hgives s samples
  forecast location s f _ := by
    have hgives : Work.Gives (fun f : Forecast => f.location = location) (q.currentForecast location) := by
      cases h with
      | dataFile d =>
        unfold DataFile.provider
        simp only
        split
        · next f hfound =>
          have hat := List.find?_some hfound
          exact Work.gives_pure (beq_iff_eq.mp hat)
        · exact Work.gives_fail
      | wattTime c =>
        refine Work.gives_bind fun region => Work.gives_bind fun data => ?_
        exact Work.gives_ofExcept fun f hf => data.location_of_forecast hf
      | electricityMaps c =>
        refine Work.gives_bind fun t => Work.gives_bind fun answer => Work.gives_bind fun line => ?_
        exact Work.gives_pure rfl
      | electricityMapsFree c =>
        refine Work.gives_bind fun query => Work.gives_bind fun answer => Work.gives_bind fun line => ?_
        exact Work.gives_pure rfl
    exact hgives s f

/-! ## Behind the cache -/

/-- Every remembered sample stands at the location it is remembered for. -/
def HistoryCache.Labelled (c : HistoryCache) : Prop :=
  ∀ location e, c.lookup location = some e → Series.AllAt location e.samples

namespace HistoryCache

theorem labelled_nil : Labelled [] := by
  intro _ _ h
  cases h

theorem Labelled.remember {c : HistoryCache} (h : c.Labelled) (now : Instant) (lifetime : Span)
    {location : String} {samples : List Sample} (hsamples : Series.AllAt location samples) :
    (c.remember now lifetime location samples).Labelled := by
  intro j e he
  unfold HistoryCache.remember at he
  rw [Assoc.lookup_put] at he
  split at he
  · next hj =>
    obtain rfl := Option.some.inj he
    rw [beq_iff_eq.mp hj]
    exact hsamples
  · exact h j e he

theorem Labelled.find? {c : HistoryCache} (h : c.Labelled) {now : Instant} {location : String} {p : Period}
    {hits : List Sample} (hfind : c.find? now location p = some hits) : Series.AllAt location hits := by
  unfold HistoryCache.find? at hfind
  split at hfind
  · next e he =>
    split at hfind
    · simp only at hfind
      split at hfind
      · cases hfind
      · obtain rfl := Option.some.inj hfind
        exact fun x hx => h location e he x (List.mem_filter.mp hx).1
    · cases hfind
  · cases hfind

end HistoryCache

namespace Provider

variable {σ τ : Type}

theorem Labels.within {I : τ → Prop} {J : σ → Prop} {q : Provider τ} (h : q.Labels I) {p : Slot σ τ}
    (hget : ∀ s, J s → I (p.get s)) (hset : ∀ s t, J s → I t → J (p.set t s)) :
    (q.within p).Labels J where
  kept s question hs := by
    have hkept : J (p.set (q.after (p.get s) question) s) := hset s _ hs (h.kept _ question (hget s hs))
    cases question <;> exact hkept
  history location period s samples hs := h.history location period (p.get s) samples (hget s hs)
  forecast location s f hs := h.forecast location (p.get s) f (hget s hs)

theorem Labels.cached {I : σ → Prop} {q : Provider σ} (h : q.Labels I) (slot : Slot σ HistoryCache)
    (hget : ∀ s, I s → (slot.get s).Labelled) (hset : ∀ s c, I s → c.Labelled → I (slot.set c s))
    (now : σ → Instant) (lifetime : Span) : (q.cached slot now lifetime).Labels I := by
  have through : ∀ location p s, I s →
      let outcome := (HistoryCache.readThrough slot now lifetime location p (q.history location p)).start s
      I outcome.2 ∧ ∀ samples, outcome.1 = .ok samples → Series.AllAt location samples := by
    intro location p s hs
    have hkept : I ((q.history location p).start s).2 := h.kept s (.history location p) hs
    have hhistory := h.history location p s
    unfold HistoryCache.readThrough
    split
    · exact ⟨hkept, fun samples => hhistory samples hs⟩
    · rw [Work.start_of]
      cases hfind : (slot.get s).find? (now s) location p with
      | some hits =>
        refine ⟨hs, fun samples hsamples => ?_⟩
        cases hsamples
        exact (hget s hs).find? hfind
      | none =>
        rcases hask : (q.history location p).start s with ⟨e | answer, t⟩
        · rw [hask] at hkept
          refine ⟨hkept, fun samples hsamples => ?_⟩
          cases hsamples
        · rw [hask] at hkept hhistory
          have hanswer := hhistory answer hs rfl
          refine ⟨hset t _ hkept ((hget t hkept).remember (now t) lifetime hanswer), fun samples hsamples => ?_⟩
          cases hsamples
          exact hanswer
  constructor
  case kept =>
    intro s question hs
    cases question with
    | history location p => exact (through location p s hs).1
    | currentForecast location => exact h.kept s (.currentForecast location) hs
    | forecastAsOf location requested => exact h.kept s (.forecastAsOf location requested) hs
    | region place => exact h.kept s (.region place) hs
  case history => exact fun location p s samples hs => (through location p s hs).2 samples
  case forecast => exact h.forecast

end Provider

/-! ## Sources -/

/-- Both providers label their answers. -/
structure Sources.Labels {σ : Type} (I : σ → Prop) (sources : Sources σ) : Prop where
  emissions : sources.emissions.Labels I
  forecast : sources.forecast.Labels I

/-- What happens to sources: a question to either provider, or a change of what lies outside, such as the
clock. -/
inductive Sources.Step (ρ : Type) where
  | emissions (question : Question)
  | forecast (question : Question)
  | change (f : ρ → ρ)

namespace Sources

variable {σ ρ : Type} (sources : Sources σ) (outside : Slot σ ρ)

def next (s : σ) : Step ρ → σ
  | .emissions question => sources.emissions.after s question
  | .forecast question => sources.forecast.after s question
  | .change f => outside.set (f (outside.get s)) s

def run (start : σ) (steps : List (Step ρ)) : σ := steps.foldl (sources.next outside) start

variable {sources outside}

theorem Labels.next {I : σ → Prop} (h : sources.Labels I) (houtside : ∀ s r, I s → I (outside.set r s))
    {s : σ} (hs : I s) (step : Step ρ) : I (sources.next outside s step) := by
  cases step with
  | emissions question => exact h.emissions.kept s question hs
  | forecast question => exact h.forecast.kept s question hs
  | change f => exact houtside s _ hs

theorem Labels.run {I : σ → Prop} (h : sources.Labels I) (houtside : ∀ s r, I s → I (outside.set r s))
    {start : σ} (hstart : I start) (steps : List (Step ρ)) : I (sources.run outside start steps) :=
  List.foldlRecOn (motive := I) steps (sources.next outside) hstart
    fun _ hs step _ => h.next houtside hs step

/-- A provider in both roles, behind the cache or not. -/
theorem labels_ofProvider {q : Provider Session} (h : Own q) (lifetime : Option Span) :
    (ofProvider q Session.now lifetime).Labels fun s => s.history.Labelled := by
  have plain : (q.within Cached.innerSlot).Labels fun s => s.history.Labelled :=
    h.labels.within (fun _ _ => trivial) fun _ _ hs _ => hs
  cases lifetime with
  | none => exact ⟨plain, plain⟩
  | some d => exact ⟨plain.cached Cached.historySlot (fun _ hs => hs) (fun _ _ _ hc => hc) _ d, plain⟩

/-- The station of a source has one of the providers. -/
theorem own_of_ofSource {settings : Settings} {files : Files} {locations : Registry} {source : DataSource}
    {station : Station} (h : Station.ofSource settings files locations source = .ok station) :
    Own station.provider := by
  unfold Station.ofSource at h
  split at h
  case h_1 =>
    split at h
    · cases h
    · split at h
      · cases h
        exact .wattTime _
      · cases h
  case h_2 =>
    split at h
    · cases h
      exact .electricityMaps _
    · cases h
  case h_3 =>
    split at h
    · cases h
      exact .electricityMapsFree _
    · cases h
  case h_4 =>
    split at h
    · cases h
    · split at h
      · cases h
        exact .dataFile _
      · cases h

/-- A client at the desk does not touch what is cached. -/
theorem labels_at_desk {q : Provider Session} (h : Own q) (slot : Slot Desk Session)
    (hslot : slot = Desk.firstSlot ∨ slot = Desk.secondSlot) :
    (q.within slot).Labels fun d => d.history.Labelled := by
  refine h.labels.within (fun _ _ => trivial) fun d s hd _ => ?_
  rcases hslot with rfl | rfl
  · exact hd
  · exact hd

/-- The providers that settings ask for, and nothing is remembered at first. -/
theorem labels_ofSettings {settings : Settings} {files : Files} {line : Line} {sources : Sources Desk}
    {start : Desk} (h : ofSettings settings files line = .ok (sources, start)) :
    sources.Labels (fun d => d.history.Labelled) ∧ start.history = [] := by
  unfold ofSettings at h
  obtain ⟨-, -, h⟩ := bind_ok h
  obtain ⟨locations, -, h⟩ := bind_ok h
  obtain ⟨first, hfirst, h⟩ := bind_ok h
  have emissions := labels_at_desk (own_of_ofSource hfirst) Desk.firstSlot (.inl rfl)
  have cached := emissions.cached Desk.historySlot (fun _ hd => hd) (fun _ _ _ hc => hc) Desk.now
  simp only at h
  -- One station serves both roles or each has its own, and the cache is wanted or not.
  split at h
  · obtain ⟨second, hsecond, h⟩ := bind_ok h
    obtain rfl := Except.ok.inj hsecond
    split at h
    · obtain ⟨lifetime, -, h⟩ := bind_ok h
      cases h
      exact ⟨⟨cached lifetime, emissions⟩, rfl⟩
    · cases h
      exact ⟨⟨emissions, emissions⟩, rfl⟩
  · obtain ⟨second, hsecond, h⟩ := bind_ok h
    have forecast := labels_at_desk (own_of_ofSource hsecond) Desk.secondSlot (.inr rfl)
    split at h
    · obtain ⟨lifetime, -, h⟩ := bind_ok h
      cases h
      exact ⟨⟨cached lifetime, forecast⟩, rfl⟩
    · cases h
      exact ⟨⟨emissions, forecast⟩, rfl⟩

end Sources

end CarbonIntensity
