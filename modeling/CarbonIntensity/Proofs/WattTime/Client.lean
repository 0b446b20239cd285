import CarbonIntensity.Proofs.Provider.Credential
import CarbonIntensity.WattTime.Client

/-!
# Runs of the WattTime client

A run of the client is watched: each request of a URL is a call whose logins and sends are recorded, and
the calls form a journal. Watching changes nothing (`runWatched_fst`). Over a whole run every call
sends at most twice, every send carries the token of the latest login, and the client holds that token
afterwards (`Credential.Kept`). A question takes two calls at most, of which the second finds a token:

    sends new.flatten ≤ 4 ∧ logins new.flatten ≤ 3      (run_retries_once)
-/

namespace CarbonIntensity.WattTime.Client

open Credential (Event Kept sends logins)

/-- The calls of a client, the first of them first. -/
abbrev Journal := List (List Event)

/-- The link over a session beside a journal. -/
def watchedLink (c : Client) : Link (Session × Journal) where
  regions := Slot.beside.inside Session.regionSlot
  now := fun x => x.1.now
  request := fun url query =>
    (Credential.watched Session.tokenSlot c.login (Session.send providerName) url query).journaled

def watched (c : Client) : Provider (Session × Journal) := c.providerOver c.watchedLink

/-- What happens to a client: a question, or a change of its line, for instance of the clock there. -/
inductive Step where
  | ask (q : Question)
  | change (f : Line → Line)

def next (c : Client) (s : Session) : Step → Session
  | .ask q => c.provider.after s q
  | .change f => { s with line := f s.line }

def nextWatched (c : Client) (x : Session × Journal) : Step → Session × Journal
  | .ask q => c.watched.after x q
  | .change f => ({ x.1 with line := f x.1.line }, x.2)

def run (c : Client) (s : Session) (steps : List Step) : Session := steps.foldl c.next s

/-- The run with its journal. -/
def runWatched (c : Client) (s : Session) (steps : List Step) : Session × Journal :=
  steps.foldl c.nextWatched (s, [])

/-! ## Watching changes nothing -/

section Erasure

variable (c : Client)

theorem erases_ask {α : Type} (path : String) (query : List (String × String)) (resource : String)
    (read : Json → Option α) :
    Work.Erases (c.ask c.watchedLink path query resource read) (c.ask c.link path query resource read) := by
  refine Work.erases_bind (Work.erases_ofExcept _) fun url => Work.erases_bind ?_ fun answer => ?_
  · exact Work.erases_journaled (Credential.erases_watched _ _ _ url query)
  · split
    · exact Work.erases_ofExcept _
    · exact Work.erases_fail _

theorem erases_region (place : Coordinates) :
    Work.Erases (c.region c.watchedLink place) (c.region c.link place) :=
  RegionCache.erases_readThrough place
    (Work.erases_bind (c.erases_ask _ _ _ _) fun _ => Work.erases_pure _)

theorem erases_regionOf (location : String) :
    Work.Erases (c.regionOf c.watchedLink location) (c.regionOf c.link location) :=
  Work.erases_bind (Work.erases_ofExcept _) fun place => c.erases_region place

theorem erases_watched : Provider.Erases c.watched c.provider where
  history location p :=
    Work.erases_bind (c.erases_regionOf location) fun _ =>
      Work.erases_bind (c.erases_ask _ _ _ _) fun _ => Work.erases_pure _
  currentForecast location :=
    Work.erases_bind (c.erases_regionOf location) fun _ =>
      Work.erases_bind (c.erases_ask _ _ _ _) fun _ => Work.erases_ofExcept _
  forecastAsOf location requested := by
    refine Work.erases_bind (c.erases_regionOf location) fun _ =>
      Work.erases_bind (c.erases_ask _ _ _ _) fun snapshots => ?_
    cases snapshots.list with
    | nil => exact Work.erases_pure _
    | cons first _ => exact Work.erases_bind (Work.erases_ofExcept _) fun _ => Work.erases_pure _
  region place := c.erases_region place

theorem nextWatched_fst (x : Session × Journal) (e : Step) :
    (c.nextWatched x e).1 = c.next x.1 e := by
  cases e with
  | ask q => exact (c.erases_watched).after x.1 x.2 q
  | change f => rfl

theorem foldl_nextWatched_fst (x : Session × Journal) (steps : List Step) :
    (steps.foldl c.nextWatched x).1 = steps.foldl c.next x.1 := by
  induction steps generalizing x with
  | nil => rfl
  | cons e steps ih =>
    rw [List.foldl_cons, List.foldl_cons, ih, nextWatched_fst]

theorem runWatched_fst (s : Session) (steps : List Step) :
    (c.runWatched s steps).1 = c.run s steps := c.foldl_nextWatched_fst (s, []) steps

end Erasure

/-! ## What work spends -/

/-- What work of at most so many calls does to the token and adds to the journal. -/
structure Spent (n : Nat) (before after : Option String) (answered : Bool) (new : Journal) : Prop where
  kept : Kept before new after
  calls : new.length ≤ n
  logins : logins new.flatten ≤ n + if before.isSome then 0 else 1
  /-- After an answer a token is held, if one was before or there was a call. -/
  holds : answered = true → before.isSome ∨ new ≠ [] → after.isSome

/-- The work spends at most so many calls, from every session. -/
def Spends {α : Type} (n : Nat) (w : Work Failure (Session × Journal) α) : Prop :=
  ∀ s journal, ∃ result t new, w.start (s, journal) = (result, t, journal ++ new) ∧
    Spent n s.memory.token t.memory.token result.isOk new

theorem spent_nothing (n : Nat) (token : Option String) (answered : Bool) :
    Spent n token token answered [] where
  kept := Credential.kept_nil token
  calls := Nat.zero_le n
  logins := Nat.zero_le _
  holds _ h := by
    rcases h with h | h
    · exact h
    · exact absurd rfl h

/-- Calls after others: the latter begin with a token, or the former were none. -/
theorem Spent.append {m n : Nat} {before middle after : Option String} {answered : Bool}
    {a b : Journal} (ha : Spent m before middle true a) (hb : Spent n middle after answered b) :
    Spent (m + n) before after answered (a ++ b) where
  kept := ha.kept.append hb.kept
  calls := by
    have hm := ha.calls
    have hn := hb.calls
    rw [List.length_append]
    omega
  logins := by
    have hm := ha.logins
    have hn := hb.logins
    rw [List.flatten_append, Credential.logins_append]
    by_cases hmiddle : middle.isSome
    · rw [if_pos hmiddle] at hn
      omega
    · have hnone : ¬before.isSome := fun h => hmiddle (ha.holds rfl (.inl h))
      have hempty : a = [] :=
        Classical.byContradiction fun h => hmiddle (ha.holds rfl (.inr h))
      rw [if_neg hmiddle] at hn
      rw [if_neg hnone, hempty, List.flatten_nil, Credential.logins_nil]
      omega
  holds hanswered h := by
    refine hb.holds hanswered ?_
    by_cases hmiddle : middle.isSome
    · exact .inl hmiddle
    · right
      rintro rfl
      rw [List.append_nil] at h
      exact hmiddle (ha.holds rfl h)

theorem Spent.mono {m n : Nat} {before after : Option String} {answered : Bool} {new : Journal}
    (h : Spent m before after answered new) (hmn : m ≤ n) : Spent n before after answered new where
  kept := h.kept
  calls := Nat.le_trans h.calls hmn
  logins := Nat.le_trans h.logins (Nat.add_le_add_right hmn _)
  holds := h.holds

section Spends

variable {α β : Type}

theorem spends_pure (a : α) : Spends 0 (pure a) := fun s journal =>
  ⟨.ok a, s, [], by rw [List.append_nil]; rfl, spent_nothing 0 _ _⟩

theorem spends_fail (e : Failure) : Spends 0 (Work.fail e : Work _ _ α) := fun s journal =>
  ⟨.error e, s, [], by rw [List.append_nil]; rfl, spent_nothing 0 _ _⟩

theorem spends_ofExcept (r : Except Failure α) : Spends 0 (Work.ofExcept r) := fun s journal =>
  ⟨r, s, [], by rw [List.append_nil]; rfl, spent_nothing 0 _ _⟩

theorem Spends.mono {m n : Nat} {w : Work Failure (Session × Journal) α} (h : Spends m w)
    (hmn : m ≤ n) : Spends n w := by
  intro s journal
  obtain ⟨result, t, new, hrun, hspent⟩ := h s journal
  exact ⟨result, t, new, hrun, hspent.mono hmn⟩

theorem spends_bind {m n : Nat} {w : Work Failure (Session × Journal) α}
    {f : α → Work Failure (Session × Journal) β} (hw : Spends m w) (hf : ∀ a, Spends n (f a)) :
    Spends (m + n) (w >>= f) := by
  intro s journal
  obtain ⟨result, t, a, hrun, ha⟩ := hw s journal
  rw [Work.start_bind, hrun]
  cases result with
  | error e => exact ⟨.error e, t, a, rfl, ha.mono (Nat.le_add_right m n)⟩
  | ok x =>
    obtain ⟨result, u, b, hrun, hb⟩ := hf x t (journal ++ a)
    rw [List.append_assoc] at hrun
    exact ⟨result, u, a ++ b, hrun, ha.append hb⟩

/-- A region that is remembered takes no call. -/
theorem spends_readThrough {n : Nat} {now : Session × Journal → Instant} (place : Coordinates)
    {ask : Work Failure (Session × Journal) String} (h : Spends n ask) :
    Spends n (RegionCache.readThrough (Slot.beside.inside Session.regionSlot) now place ask) := by
  intro s journal
  unfold RegionCache.readThrough
  rw [Work.start_of]
  cases ((Slot.beside.inside Session.regionSlot).get (s, journal)).find? (now (s, journal)) place with
  | some region => exact ⟨.ok region, s, [], by rw [List.append_nil], spent_nothing n _ _⟩
  | none =>
    obtain ⟨result, t, new, hrun, hspent⟩ := h s journal
    rw [hrun]
    cases result with
    | error e => exact ⟨.error e, t, new, rfl, hspent⟩
    | ok region => exact ⟨.ok region, _, new, rfl, hspent⟩

end Spends

/-! ## What a question spends -/

section Questions

variable (c : Client)

theorem spends_request (url : Url) (query : List (String × String)) :
    Spends 1 (c.watchedLink.request url query) := by
  intro s journal
  obtain ⟨result, t, new, hrun, htrip, hok⟩ :=
    Credential.start_watched Session.tokenSlot c.login (Session.send providerName) (fun _ _ => rfl)
      (fun _ _ => rfl) url query s []
  have honce := htrip.once fun a b => Credential.url_get url query _ _
  have hcarries := htrip.carries fun token =>
    Credential.mem_headers_get url query (List.mem_singleton_self (Header.bearer token))
  refine ⟨result, t, [new], ?_, Credential.kept_singleton honce hcarries htrip.held_eq,
    Nat.le_refl 1, ?_, fun hanswered _ => ?_⟩
  · show (Credential.watched _ _ _ url query).journaled.start (s, journal) = _
    unfold Work.journaled
    rw [Work.start_of, hrun]
    rfl
  · have hlogins := honce.logins
    rw [List.flatten_singleton]
    by_cases hheld : (Session.tokenSlot.get s).isSome
    · rw [if_pos hheld] at hlogins
      omega
    · rw [if_neg hheld] at hlogins
      have hnone : ¬s.memory.token.isSome := hheld
      rw [if_neg hnone]
      exact hlogins
  · cases result with
    | error e => cases hanswered
    | ok a => exact hok a rfl

theorem spends_ask {α : Type} (path : String) (query : List (String × String)) (resource : String)
    (read : Json → Option α) : Spends 1 (c.ask c.watchedLink path query resource read) := by
  refine spends_bind (m := 0) (spends_ofExcept _) fun url =>
    spends_bind (n := 0) (c.spends_request url query) fun answer => ?_
  split
  · exact spends_ofExcept _
  · exact spends_fail _

theorem spends_region (place : Coordinates) : Spends 1 (c.region c.watchedLink place) :=
  spends_readThrough place (spends_bind (n := 0) (c.spends_ask _ _ _ _) fun _ => spends_pure _)

theorem spends_regionOf (location : String) : Spends 1 (c.regionOf c.watchedLink location) :=
  spends_bind (m := 0) (spends_ofExcept _) fun place => c.spends_region place

theorem spends_history (location : String) (p : Period) :
    Spends 2 (c.history c.watchedLink location p) :=
  spends_bind (n := 1) (c.spends_regionOf location) fun _ =>
    spends_bind (n := 0) (c.spends_ask _ _ _ _) fun _ => spends_pure _

theorem spends_currentForecast (location : String) :
    Spends 2 (c.currentForecast c.watchedLink location) :=
  spends_bind (n := 1) (c.spends_regionOf location) fun _ =>
    spends_bind (n := 0) (c.spends_ask _ _ _ _) fun _ => spends_ofExcept _

theorem spends_forecastAsOf (location : String) (requested : Instant) :
    Spends 2 (c.forecastAsOf c.watchedLink location requested) := by
  refine spends_bind (n := 1) (c.spends_regionOf location) fun _ =>
    spends_bind (n := 0) (c.spends_ask _ _ _ _) fun snapshots => ?_
  cases snapshots.list with
  | nil => exact spends_pure _
  | cons first _ => exact spends_bind (m := 0) (spends_ofExcept _) fun _ => spends_pure _

/-- A question takes at most two calls. -/
theorem after_watched (s : Session) (journal : Journal) (q : Question) :
    ∃ t new answered, c.watched.after (s, journal) q = (t, journal ++ new) ∧
      Spent 2 s.memory.token t.memory.token answered new := by
  have hspends : ∀ {α : Type} {w : Work Failure (Session × Journal) α}, Spends 2 w →
      ∃ t new answered, (w.start (s, journal)).2 = (t, journal ++ new) ∧
        Spent 2 s.memory.token t.memory.token answered new := by
    intro α w h
    obtain ⟨result, t, new, hrun, hspent⟩ := h s journal
    exact ⟨t, new, result.isOk, by rw [hrun], hspent⟩
  cases q with
  | history location p => exact hspends (c.spends_history location p)
  | currentForecast location => exact hspends (c.spends_currentForecast location)
  | forecastAsOf location requested => exact hspends (c.spends_forecastAsOf location requested)
  | region place =>
    exact hspends ((c.spends_region place).mono (Nat.le_succ 1))

end Questions

/-! ## Runs -/

theorem nextWatched_kept (c : Client) {before : Option String} {x : Session × Journal}
    (h : Kept before x.2 x.1.memory.token) (e : Step) :
    Kept before (c.nextWatched x e).2 (c.nextWatched x e).1.memory.token := by
  cases e with
  | change f => exact h
  | ask q =>
    obtain ⟨t, new, answered, hafter, hspent⟩ := c.after_watched x.1 x.2 q
    show Kept before (c.watched.after x q).2 (c.watched.after x q).1.memory.token
    rw [hafter]
    exact h.append hspent.kept

theorem runWatched_kept (c : Client) (s : Session) (steps : List Step) :
    Kept s.memory.token (c.runWatched s steps).2 (c.runWatched s steps).1.memory.token :=
  List.foldlRecOn (motive := fun x => Kept s.memory.token x.2 x.1.memory.token) steps c.nextWatched
    (Credential.kept_nil _) fun _ h e _ => c.nextWatched_kept h e

/-- **One retry at most.** From every session, over every run of questions and changes of the line: the
watched run is the run, every call in its journal keeps to two sends and two logins and every send
carries the token of the latest login, and the client holds that token at the end. A question that
follows, such as one for a history, takes at most four sends and three logins. -/
theorem run_retries_once (c : Client) (s : Session) (steps : List Step) :
    let x := c.runWatched s steps
    x.1 = c.run s steps ∧ Kept s.memory.token x.2 x.1.memory.token ∧
      ∀ q : Question, (c.watched.after x q).1 = c.provider.after x.1 q ∧
        ∃ new, (c.watched.after x q).2 = x.2 ++ new ∧
          sends new.flatten ≤ 4 ∧ logins new.flatten ≤ 3 := by
  intro x
  refine ⟨c.runWatched_fst s steps, c.runWatched_kept s steps, fun q => ⟨?_, ?_⟩⟩
  · exact (c.erases_watched).after x.1 x.2 q
  · obtain ⟨t, new, answered, hafter, hspent⟩ := c.after_watched x.1 x.2 q
    refine ⟨new, by rw [hafter], ?_, ?_⟩
    · have hsends := hspent.kept.sends_le
      have hcalls := hspent.calls
      omega
    · have hlogins := hspent.logins
      split at hlogins <;> omega

end CarbonIntensity.WattTime.Client
