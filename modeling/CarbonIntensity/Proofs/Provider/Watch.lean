import CarbonIntensity.Provider.Basic
import CarbonIntensity.Provider.RegionCache
import CarbonIntensity.Provider.Session

/-!
# Watched work

Work is watched by doing it over its state beside a record of what happened. Watching changes nothing:
the watched work gives what the work gives and leaves the state that the work leaves,

    Erases v w → v.start (s, r) = ((w.start s).1, (w.start s).2, …)

so that what the record says is said of the work itself.
-/

namespace CarbonIntensity

/-- The state beside a record. -/
def Slot.beside {σ ρ : Type} : Slot (σ × ρ) σ := ⟨Prod.fst, fun s x => (s, x.2)⟩

namespace Work

variable {ε σ ρ α β : Type}

/-- The work, whose outcome is added to a list of records. -/
def recorded (record : Except ε α → ρ) (w : Work ε σ α) : Work ε (σ × List ρ) α :=
  of fun x => ((w.start x.1).1, (w.start x.1).2, x.2 ++ [record (w.start x.1).1])

/-- The work with a list of records of its own, which is added to a journal of such lists. -/
def journaled (w : Work ε (σ × List ρ) α) : Work ε (σ × List (List ρ)) α :=
  of fun x => ((w.start (x.1, [])).1, (w.start (x.1, [])).2.1, x.2 ++ [(w.start (x.1, [])).2.2])

/-- Work beside a record gives what other work gives and leaves the state that it leaves. -/
def Erases (v : Work ε (σ × ρ) α) (w : Work ε σ α) : Prop :=
  ∀ s r, ∃ r', v.start (s, r) = ((w.start s).1, (w.start s).2, r')

/-- Work beside a list of records gives what other work gives, leaves the state that it leaves, and adds
records that go with the outcome. -/
def Watches (v : Work ε (σ × List ρ) α) (w : Work ε σ α) (post : Except ε α → List ρ → Prop) : Prop :=
  ∀ s log, ∃ new, v.start (s, log) = ((w.start s).1, (w.start s).2, log ++ new) ∧ post (w.start s).1 new

/-! ## What watching keeps -/

theorem state_of_erases {v : Work ε (σ × ρ) α} {w : Work ε σ α} (h : Erases v w) (s : σ) (r : ρ) :
    (v.start (s, r)).2.1 = (w.start s).2 := by
  obtain ⟨_, hv⟩ := h s r
  rw [hv]

theorem erases_recorded (record : Except ε α → ρ) (w : Work ε σ α) : Erases (recorded record w) w :=
  fun _ _ => ⟨_, rfl⟩

theorem erases_journaled {v : Work ε (σ × List ρ) α} {w : Work ε σ α} (h : Erases v w) :
    Erases (journaled v) w := by
  intro s r
  obtain ⟨u, hv⟩ := h s []
  refine ⟨r ++ [u], ?_⟩
  unfold journaled
  rw [start_of, hv]

theorem erases_pure (a : α) : Erases (pure a : Work ε (σ × ρ) α) (pure a) := fun _ _ => ⟨_, rfl⟩

theorem erases_fail (e : ε) : Erases (fail e : Work ε (σ × ρ) α) (fail e) := fun _ _ => ⟨_, rfl⟩

theorem erases_ofExcept (r : Except ε α) : Erases (ofExcept r : Work ε (σ × ρ) α) (ofExcept r) :=
  fun _ _ => ⟨_, rfl⟩

theorem erases_bind {v : Work ε (σ × ρ) α} {w : Work ε σ α} {f : α → Work ε (σ × ρ) β}
    {g : α → Work ε σ β} (hvw : Erases v w) (hfg : ∀ a, Erases (f a) (g a)) :
    Erases (v >>= f) (w >>= g) := by
  intro s r
  obtain ⟨u, hv⟩ := hvw s r
  rw [start_bind, start_bind, hv]
  rcases w.start s with ⟨e | a, t⟩
  · exact ⟨u, rfl⟩
  · exact hfg a t u

/-! ## What watching says -/

section

variable {post : Except ε α → List ρ → Prop} {v : Work ε (σ × List ρ) α} {w : Work ε σ α}

theorem Watches.mono {post' : Except ε α → List ρ → Prop} (h : Watches v w post)
    (hpost : ∀ r new, post r new → post' r new) : Watches v w post' := by
  intro s log
  obtain ⟨new, hv, hp⟩ := h s log
  exact ⟨new, hv, hpost _ _ hp⟩

theorem watches_pure {a : α} (h : post (.ok a) []) :
    Watches (pure a : Work ε (σ × List ρ) α) (pure a) post :=
  fun s log => ⟨[], by rw [List.append_nil]; rfl, h⟩

theorem watches_ofExcept {r : Except ε α} (h : post r []) :
    Watches (ofExcept r : Work ε (σ × List ρ) α) (ofExcept r) post :=
  fun s log => ⟨[], by rw [List.append_nil]; rfl, h⟩

theorem watches_bind {post' : Except ε β → List ρ → Prop} {f : α → Work ε (σ × List ρ) β}
    {g : α → Work ε σ β} (hvw : Watches v w post)
    (herror : ∀ e new, post (.error e) new → post' (.error e) new)
    (hfg : ∀ a new, post (.ok a) new → Watches (f a) (g a) fun r more => post' r (new ++ more)) :
    Watches (v >>= f) (w >>= g) post' := by
  intro s log
  obtain ⟨new, hv, hp⟩ := hvw s log
  rw [start_bind, start_bind, hv]
  rcases hw : w.start s with ⟨e | a, t⟩
  · rw [hw] at hp
    exact ⟨new, rfl, herror e new hp⟩
  · rw [hw] at hp
    obtain ⟨more, hf, hp'⟩ := hfg a new hp t (log ++ new)
    exact ⟨new ++ more, by rw [← List.append_assoc]; exact hf, hp'⟩

/-- Reading the state that is watched. -/
theorem watches_read {f : σ × List ρ → Work ε (σ × List ρ) α} {g : σ → Work ε σ α}
    (h : ∀ s log, Watches (f (s, log)) (g s) post) :
    Watches (read Slot.whole >>= f) (read Slot.whole >>= g) post := by
  intro s log
  rw [start_bind, start_bind, start_read, start_read]
  exact h s log s log

end

end Work

namespace Credential

variable {σ ρ : Type} {slot : Slot σ (Option String)} {ask : Work Failure σ String}
  {ask' : Work Failure (σ × ρ) String}

theorem erases_login (h : Work.Erases ask' ask) :
    Work.Erases (login (Slot.beside.inside slot) ask') (login slot ask) := by
  intro s r
  obtain ⟨u, hv⟩ := h s r
  unfold login
  rw [Work.start_of, Work.start_of, hv]
  rcases ask.start s with ⟨e | token, t⟩
  · exact ⟨u, rfl⟩
  · exact ⟨u, rfl⟩

theorem erases_current (h : Work.Erases ask' ask) :
    Work.Erases (current (Slot.beside.inside slot) ask') (current slot ask) := by
  refine Work.erases_bind (fun _ _ => ⟨_, rfl⟩) fun held => ?_
  cases held with
  | some token => exact Work.erases_pure token
  | none => exact erases_login h

theorem erases_send (h : Work.Erases ask' ask) {request : String → Work Failure σ Answer}
    {request' : String → Work Failure (σ × ρ) Answer}
    (hrequest : ∀ token, Work.Erases (request' token) (request token)) :
    Work.Erases (send (Slot.beside.inside slot) ask' request') (send slot ask request) := by
  refine Work.erases_bind (erases_current h) fun token =>
    Work.erases_bind (hrequest token) fun answer => ?_
  split
  · exact Work.erases_bind (erases_login h) hrequest
  · exact Work.erases_pure answer

end Credential

theorem RegionCache.erases_readThrough {σ ρ : Type} {slot : Slot σ RegionCache} {now : σ → Instant}
    (place : Coordinates) {ask : Work Failure σ String} {ask' : Work Failure (σ × ρ) String}
    (h : Work.Erases ask' ask) :
    Work.Erases (readThrough (Slot.beside.inside slot) (fun x => now x.1) place ask')
      (readThrough slot now place ask) := by
  intro s r
  obtain ⟨u, hv⟩ := h s r
  have hget : (Slot.beside.inside slot).get (s, r) = slot.get s := rfl
  unfold readThrough
  rw [Work.start_of, Work.start_of, hget]
  cases hfind : (slot.get s).find? (now s) place with
  | some region => exact ⟨r, rfl⟩
  | none =>
    rw [hv]
    rcases ask.start s with ⟨e | region, t⟩
    · exact ⟨u, rfl⟩
    · exact ⟨u, rfl⟩

/-! ## Questions -/

inductive Question where
  | history (location : String) (p : Period)
  | currentForecast (location : String)
  | forecastAsOf (location : String) (requested : Instant)
  | region (place : Coordinates)

namespace Provider

variable {σ ρ : Type}

/-- The state after a question. -/
def after (q : Provider σ) (s : σ) : Question → σ
  | .history location p => ((q.history location p).start s).2
  | .currentForecast location => ((q.currentForecast location).start s).2
  | .forecastAsOf location requested => ((q.forecastAsOf location requested).start s).2
  | .region place => ((q.region place).start s).2

/-- All questions are answered as by another provider. -/
structure Erases (v : Provider (σ × ρ)) (q : Provider σ) : Prop where
  history : ∀ location p, Work.Erases (v.history location p) (q.history location p)
  currentForecast : ∀ location, Work.Erases (v.currentForecast location) (q.currentForecast location)
  forecastAsOf : ∀ location requested,
    Work.Erases (v.forecastAsOf location requested) (q.forecastAsOf location requested)
  region : ∀ place, Work.Erases (v.region place) (q.region place)

theorem Erases.after {v : Provider (σ × ρ)} {q : Provider σ} (h : Erases v q) (s : σ) (r : ρ)
    (question : Question) : (v.after (s, r) question).1 = q.after s question := by
  cases question with
  | history location p => exact Work.state_of_erases (h.history location p) s r
  | currentForecast location => exact Work.state_of_erases (h.currentForecast location) s r
  | forecastAsOf location requested => exact Work.state_of_erases (h.forecastAsOf location requested) s r
  | region place => exact Work.state_of_erases (h.region place) s r

end Provider

end CarbonIntensity
