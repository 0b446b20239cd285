import CarbonIntensity.Proofs.Lists
import CarbonIntensity.Proofs.Provider.Watch

/-!
# Calls with a credential

A call logs in if no token is held, sends its request, and if that is rejected logs in and sends it
once more. Its logins and sends are recorded, and there are not many ways a call can go (`Trip`):
it sends at most twice (Once.sends), logs in at most twice, at most once if a token was held
(Once.logins), and sends again exactly after a rejection and a login that succeeded (Once.resent).

Calls one after another, the second from the token that the first left, form a journal. Every send in
it carries the token of the latest login before it, and the token held at its end is

    after = held before journal.flatten      (Kept.token)
-/

namespace CarbonIntensity.Credential

/-- A login or a request, and what came of it. -/
inductive Event where
  | login (outcome : Except Failure String)
  | data (request : Request) (outcome : Except Failure Answer)

namespace Event

def isLogin : Event → Bool
  | login _ => true
  | data _ _ => false

def isData : Event → Bool
  | login _ => false
  | data _ _ => true

end Event

def logins (events : List Event) : Nat := events.countP Event.isLogin

def sends (events : List Event) : Nat := events.countP Event.isData

/-- The token of the latest login, none if that failed, and what was held before if there was none. -/
def held (before : Option String) : List Event → Option String
  | [] => before
  | .login outcome :: events => held outcome.toOption events
  | .data _ _ :: events => held before events

/-- The first send of a call, and the events after it. -/
def FirstSend (call : List Event) (r : Request) (o : Except Failure Answer) (later : List Event) : Prop :=
  ∃ earlier, call = earlier ++ .data r o :: later ∧ sends earlier = 0

/-- The first send was rejected, and the login that followed it succeeded. -/
def Renewed (call : List Event) : Prop :=
  ∃ r a token later, FirstSend call r (.ok a) (.login (.ok token) :: later) ∧
    (a.status = 401 ∨ a.status = 403)

/-- Every request carries the token of the latest login before it, which succeeded. -/
def Carries (before : Option String) (events : List Event) : Prop :=
  ∀ earlier r o later, events = earlier ++ .data r o :: later →
    ∃ token, held before earlier = some token ∧ Header.bearer token ∈ r.headers

/-- What holds of the events of one call, begun with the token held before it. -/
structure Once (before : Option String) (call : List Event) : Prop where
  sends : sends call ≤ 2
  logins : logins call ≤ if before.isSome then 1 else 2
  /-- The call opens with a send if a token is held. -/
  opens : before.isSome → ∃ r o later, call = .data r o :: later
  /-- Otherwise it opens with a login, and a send follows if that succeeds. -/
  enters : before = none → (∃ e, call = [.login (.error e)]) ∨
    ∃ token r o later, call = .login (.ok token) :: .data r o :: later
  /-- A login follows the first send if that is rejected. -/
  renews : ∀ r a later, FirstSend call r (.ok a) later → a.status = 401 ∨ a.status = 403 →
    ∃ o rest, later = .login o :: rest
  resent : Credential.sends call = 2 ↔ Renewed call
  /-- All requests of the call ask for one URL with one query, which is a part of it. -/
  alike : ∀ r o r' o', .data r o ∈ call → .data r' o' ∈ call → r.url = r'.url

/-- What holds of a journal of calls, between the token held before and that held after it. -/
structure Kept (before : Option String) (journal : List (List Event)) (after : Option String) :
    Prop where
  once : ∀ earlier call later, journal = earlier ++ call :: later →
    Once (held before earlier.flatten) call
  carries : Carries before journal.flatten
  token : after = held before journal.flatten

/-! ## Events -/

theorem held_append (before : Option String) (a b : List Event) :
    held before (a ++ b) = held (held before a) b := by
  induction a generalizing before with
  | nil => rfl
  | cons e a ih =>
    cases e with
    | login outcome => exact ih outcome.toOption
    | data r o => exact ih before

theorem sends_append (a b : List Event) : sends (a ++ b) = sends a + sends b := List.countP_append

theorem logins_append (a b : List Event) : logins (a ++ b) = logins a + logins b := List.countP_append

@[simp] theorem sends_nil : sends [] = 0 := rfl

@[simp] theorem logins_nil : logins [] = 0 := rfl

@[simp] theorem sends_login (o : Except Failure String) (events : List Event) :
    sends (.login o :: events) = sends events := List.countP_cons_of_neg Bool.false_ne_true

@[simp] theorem sends_data (r : Request) (o : Except Failure Answer) (events : List Event) :
    sends (.data r o :: events) = sends events + 1 := List.countP_cons_of_pos rfl

@[simp] theorem logins_login (o : Except Failure String) (events : List Event) :
    logins (.login o :: events) = logins events + 1 := List.countP_cons_of_pos rfl

@[simp] theorem logins_data (r : Request) (o : Except Failure Answer) (events : List Event) :
    logins (.data r o :: events) = logins events := List.countP_cons_of_neg Bool.false_ne_true

theorem not_firstSend_nil (r : Request) (o : Except Failure Answer) (later : List Event) :
    ¬FirstSend [] r o later := by
  rintro ⟨earlier, heq, -⟩
  simp at heq

theorem firstSend_login (l : Except Failure String) (call : List Event) (r : Request)
    (o : Except Failure Answer) (later : List Event) :
    FirstSend (.login l :: call) r o later ↔ FirstSend call r o later := by
  constructor
  · rintro ⟨earlier, heq, hnone⟩
    cases earlier with
    | nil => cases heq
    | cons e earlier =>
      obtain ⟨rfl, htail⟩ := List.cons.inj heq
      rw [sends_login] at hnone
      exact ⟨earlier, htail, hnone⟩
  · rintro ⟨earlier, rfl, hnone⟩
    refine ⟨.login l :: earlier, rfl, ?_⟩
    rw [sends_login]
    exact hnone

theorem firstSend_data (r r' : Request) (o o' : Except Failure Answer) (call later : List Event) :
    FirstSend (.data r o :: call) r' o' later ↔ r = r' ∧ o = o' ∧ call = later := by
  constructor
  · rintro ⟨earlier, heq, hnone⟩
    cases earlier with
    | nil =>
      obtain ⟨hevent, htail⟩ := List.cons.inj heq
      obtain ⟨hr, ho⟩ := Event.data.inj hevent
      exact ⟨hr, ho, htail⟩
    | cons e earlier =>
      obtain ⟨rfl, -⟩ := List.cons.inj heq
      rw [sends_data] at hnone
      omega
  · rintro ⟨rfl, rfl, rfl⟩
    exact ⟨[], rfl, sends_nil⟩

theorem renewed_login (o : Except Failure String) (call : List Event) :
    Renewed (.login o :: call) ↔ Renewed call := by
  unfold Renewed
  simp only [firstSend_login]

theorem not_renewed_nil : ¬Renewed [] := by
  rintro ⟨r, a, token, later, hfirst, -⟩
  exact not_firstSend_nil _ _ _ hfirst

theorem carries_nil (before : Option String) : Carries before [] := by
  intro earlier r o later heq
  simp at heq

theorem carries_login {before : Option String} {o : Except Failure String} {events : List Event}
    (h : Carries o.toOption events) : Carries before (.login o :: events) := by
  intro earlier r o' later heq
  cases earlier with
  | nil => cases heq
  | cons e earlier =>
    obtain ⟨rfl, htail⟩ := List.cons.inj heq
    exact h earlier r o' later htail

theorem carries_data {token : String} {r : Request} {o : Except Failure Answer} {events : List Event}
    (hr : Header.bearer token ∈ r.headers) (h : Carries (some token) events) :
    Carries (some token) (.data r o :: events) := by
  intro earlier r' o' later heq
  cases earlier with
  | nil =>
    obtain ⟨hevent, -⟩ := List.cons.inj heq
    obtain ⟨rfl, -⟩ := Event.data.inj hevent
    exact ⟨token, rfl, hr⟩
  | cons e earlier =>
    obtain ⟨rfl, htail⟩ := List.cons.inj heq
    exact h earlier r' o' later htail

/-! ## One call -/

/-- The headers do not change what is asked for. -/
theorem url_get (url : Url) (query : List (String × String)) (a b : List Header) :
    (Request.get url query a).url = (Request.get url query b).url := by
  unfold Request.get
  split
  · rfl
  · cases Request.credentials? url with
    | none => rfl
    | some pair => rfl

theorem mem_headers_get (url : Url) (query : List (String × String)) {h : Header}
    {headers : List Header} (hmem : h ∈ headers) : h ∈ (Request.get url query headers).headers := by
  unfold Request.get
  split
  · exact hmem
  · cases Request.credentials? url with
    | none => exact hmem
    | some pair => exact List.mem_cons_of_mem _ hmem

section Trip

variable (put : String → Request)

/-- The ways to go on with a token, and the token held in the end. -/
inductive Delivery (token : String) : List Event → Option String → Prop where
  | final (o : Except Failure Answer) (h : ∀ a, o = .ok a → Status.isRejection a.status = false) :
    Delivery token [.data (put token) o] (some token)
  | refused (a : Answer) (h : Status.isRejection a.status = true) (e : Failure) :
    Delivery token [.data (put token) (.ok a), .login (.error e)] none
  | renewed (a : Answer) (h : Status.isRejection a.status = true) (token' : String)
      (o : Except Failure Answer) :
    Delivery token [.data (put token) (.ok a), .login (.ok token'), .data (put token') o] (some token')

/-- The ways a call can go, from the token held before to that held after it. -/
inductive Trip : Option String → List Event → Option String → Prop where
  | going {token : String} {events : List Event} {after : Option String}
      (h : Delivery put token events after) : Trip (some token) events after
  | entered {token : String} {events : List Event} {after : Option String}
      (h : Delivery put token events after) : Trip none (.login (.ok token) :: events) after
  | barred (e : Failure) : Trip none [.login (.error e)] none

variable {put}

theorem isRejection_iff (status : Nat) :
    Status.isRejection status = true ↔ status = 401 ∨ status = 403 := by
  unfold Status.isRejection
  rw [Bool.or_eq_true, beq_iff_eq, beq_iff_eq]

theorem Delivery.held_eq {token : String} {events : List Event} {after : Option String}
    (h : Delivery put token events after) : held (some token) events = after := by
  cases h with
  | final => rfl
  | refused => rfl
  | renewed => rfl

theorem Trip.held_eq {before after : Option String} {events : List Event}
    (h : Trip put before events after) : held before events = after := by
  cases h with
  | going h => exact h.held_eq
  | entered h => exact h.held_eq
  | barred => rfl

theorem Delivery.carries (hput : ∀ token, Header.bearer token ∈ (put token).headers) {token : String}
    {events : List Event} {after : Option String} (h : Delivery put token events after) :
    Carries (some token) events := by
  cases h with
  | final o _ => exact carries_data (hput token) (carries_nil _)
  | refused a _ e => exact carries_data (hput token) (carries_login (carries_nil _))
  | renewed a _ token' o =>
    exact carries_data (hput token) (carries_login (carries_data (hput token') (carries_nil _)))

theorem Trip.carries (hput : ∀ token, Header.bearer token ∈ (put token).headers)
    {before after : Option String} {events : List Event} (h : Trip put before events after) :
    Carries before events := by
  cases h with
  | going h => exact h.carries hput
  | entered h => exact carries_login (h.carries hput)
  | barred e => exact carries_login (carries_nil _)

/-- A delivery opens with a send, and sends once or, after a rejection and a login, twice. -/
theorem Delivery.shape {token : String} {events : List Event} {after : Option String}
    (h : Delivery put token events after) :
    (∃ r o later, events = .data r o :: later) ∧ sends events ≤ 2 ∧ logins events ≤ 1 ∧
      (∀ r a later, FirstSend events r (.ok a) later → a.status = 401 ∨ a.status = 403 →
        ∃ o rest, later = .login o :: rest) ∧
      (sends events = 2 ↔ Renewed events) := by
  cases h with
  | final o h =>
    refine ⟨⟨_, _, _, rfl⟩, by simp, by simp, ?_, ?_⟩
    · intro r a later hfirst hrejected
      obtain ⟨-, rfl, -⟩ := (firstSend_data ..).mp hfirst
      rw [← isRejection_iff, h a rfl] at hrejected
      cases hrejected
    · rw [sends_data, sends_nil]
      constructor
      · intro h
        omega
      · rintro ⟨_, _, _, _, hfirst, -⟩
        cases ((firstSend_data ..).mp hfirst).2.2
  | refused a h e =>
    refine ⟨⟨_, _, _, rfl⟩, by simp, by simp, ?_, ?_⟩
    · intro r a' later hfirst _
      obtain ⟨-, -, rfl⟩ := (firstSend_data ..).mp hfirst
      exact ⟨.error e, [], rfl⟩
    · rw [sends_data, sends_login, sends_nil]
      constructor
      · intro h
        omega
      · rintro ⟨_, _, _, _, hfirst, -⟩
        cases ((firstSend_data ..).mp hfirst).2.2
  | renewed a h token' o =>
    refine ⟨⟨_, _, _, rfl⟩, by simp, by simp, ?_, ?_⟩
    · intro r a' later hfirst _
      obtain ⟨-, -, rfl⟩ := (firstSend_data ..).mp hfirst
      exact ⟨.ok token', _, rfl⟩
    · rw [sends_data, sends_login, sends_data, sends_nil]
      refine ⟨fun _ => ⟨put token, a, token', [.data (put token') o], ?_, ?_⟩, fun _ => rfl⟩
      · exact (firstSend_data ..).mpr ⟨rfl, rfl, rfl⟩
      · exact (isRejection_iff a.status).mp h

theorem Delivery.alike {token : String} {events : List Event} {after : Option String}
    (h : Delivery put token events after) {r : Request} {o : Except Failure Answer}
    (hr : .data r o ∈ events) : ∃ token, r = put token := by
  cases h with
  | final =>
    obtain ⟨rfl, -⟩ := Event.data.inj (List.mem_singleton.mp hr)
    exact ⟨token, rfl⟩
  | refused =>
    rcases List.mem_cons.mp hr with heq | hr
    · obtain ⟨rfl, -⟩ := Event.data.inj heq
      exact ⟨token, rfl⟩
    · cases List.mem_singleton.mp hr
  | renewed _ _ token' =>
    rcases List.mem_cons.mp hr with heq | hr
    · obtain ⟨rfl, -⟩ := Event.data.inj heq
      exact ⟨token, rfl⟩
    · rcases List.mem_cons.mp hr with heq | hr
      · cases heq
      · obtain ⟨rfl, -⟩ := Event.data.inj (List.mem_singleton.mp hr)
        exact ⟨token', rfl⟩

theorem Trip.alike {before after : Option String} {events : List Event}
    (h : Trip put before events after) {r : Request} {o : Except Failure Answer}
    (hr : .data r o ∈ events) : ∃ token, r = put token := by
  cases h with
  | going h => exact h.alike hr
  | entered h =>
    rcases List.mem_cons.mp hr with heq | hr
    · cases heq
    · exact h.alike hr
  | barred => cases List.mem_singleton.mp hr

theorem Trip.once (hput : ∀ a b, (put a).url = (put b).url) {before after : Option String}
    {events : List Event} (h : Trip put before events after) : Once before events := by
  have halike : ∀ r o r' o', .data r o ∈ events → .data r' o' ∈ events → r.url = r'.url := by
    intro r o r' o' hr hr'
    obtain ⟨a, rfl⟩ := h.alike hr
    obtain ⟨b, rfl⟩ := h.alike hr'
    exact hput a b
  cases h with
  | going h =>
    obtain ⟨hopens, hsends, hlogins, hrenews, hresent⟩ := h.shape
    exact ⟨hsends, hlogins, fun _ => hopens, nofun, hrenews, hresent, halike⟩
  | entered h =>
    obtain ⟨⟨r, o, later, heq⟩, hsends, hlogins, hrenews, hresent⟩ := h.shape
    refine ⟨?_, ?_, nofun, fun _ => .inr ⟨_, r, o, later, congrArg _ heq⟩, ?_, ?_, halike⟩
    · rw [sends_login]
      exact hsends
    · rw [logins_login]
      exact Nat.succ_le_succ hlogins
    · intro r a later hfirst
      exact hrenews r a later ((firstSend_login ..).mp hfirst)
    · rw [sends_login, renewed_login]
      exact hresent
  | barred e =>
    refine ⟨by simp, by simp, nofun, fun _ => .inl ⟨e, rfl⟩, ?_, ?_, halike⟩
    · intro r a later hfirst
      exact absurd ((firstSend_login ..).mp hfirst) (not_firstSend_nil _ _ _)
    · rw [renewed_login, sends_login, sends_nil]
      constructor
      · intro h
        omega
      · intro h
        exact absurd h not_renewed_nil

end Trip

/-! ## Journals -/

theorem carries_append {before : Option String} {a b : List Event} (ha : Carries before a)
    (hb : Carries (held before a) b) : Carries before (a ++ b) := by
  have hsplit := split_append (a := a) (b := b)
    (motive := fun earlier e => ∀ r o, e = .data r o →
      ∃ token, held before earlier = some token ∧ Header.bearer token ∈ r.headers)
    (fun earlier e later heq r o he => ha earlier r o later (he ▸ heq))
    (fun earlier e later heq r o he => by
      rw [held_append]
      exact hb earlier r o later (he ▸ heq))
  exact fun earlier r o later heq => hsplit earlier (.data r o) later heq r o rfl

theorem kept_nil (before : Option String) : Kept before [] before where
  once earlier call later heq := by simp at heq
  carries := carries_nil before
  token := rfl

theorem kept_singleton {before after : Option String} {call : List Event} (honce : Once before call)
    (hcarries : Carries before call) (htoken : held before call = after) :
    Kept before [call] after where
  once earlier call' later heq := by
    cases earlier with
    | nil =>
      obtain ⟨rfl, -⟩ := List.cons.inj heq
      exact honce
    | cons e earlier =>
      obtain ⟨-, htail⟩ := List.cons.inj heq
      simp at htail
  carries := by
    rw [List.flatten_singleton]
    exact hcarries
  token := by
    rw [List.flatten_singleton]
    exact htoken.symm

theorem Kept.append {before middle after : Option String} {a b : List (List Event)}
    (ha : Kept before a middle) (hb : Kept middle b after) : Kept before (a ++ b) after where
  once := by
    refine split_append ha.once fun earlier call later heq => ?_
    rw [List.flatten_append, held_append, ← ha.token]
    exact hb.once earlier call later heq
  carries := by
    rw [List.flatten_append]
    refine carries_append ha.carries ?_
    rw [← ha.token]
    exact hb.carries
  token := by
    rw [List.flatten_append, held_append, ← ha.token]
    exact hb.token

/-- Every call sends at most twice. -/
theorem Kept.sends_le {before after : Option String} {journal : List (List Event)}
    (h : Kept before journal after) : sends journal.flatten ≤ 2 * journal.length := by
  have hcalls : ∀ call ∈ journal, sends call ≤ 2 := by
    intro call hcall
    obtain ⟨earlier, later, heq⟩ := List.append_of_mem hcall
    exact (h.once earlier call later heq).sends
  clear h
  induction journal with
  | nil => exact Nat.le_refl 0
  | cons call journal ih =>
    have hcall := hcalls call List.mem_cons_self
    have hrest := ih fun c hc => hcalls c (List.mem_cons_of_mem call hc)
    rw [List.flatten_cons, sends_append, List.length_cons]
    omega

/-! ## A watched call -/

section Watched

variable {σ : Type} (slot : Slot σ (Option String)) (ask : Work Failure σ String)
  (deliver : Request → Work Failure σ Answer)

/-- A request whose logins and sends are recorded. -/
def watched (url : Url) (query : List (String × String)) : Work Failure (σ × List Event) Answer :=
  request (Slot.beside.inside slot) (ask.recorded .login) (fun r => (deliver r).recorded (.data r)) url
    query

theorem erases_watched (url : Url) (query : List (String × String)) :
    Work.Erases (watched slot ask deliver url query) (request slot ask deliver url query) :=
  erases_send (Work.erases_recorded _ ask) fun _ => Work.erases_recorded _ _

variable {slot ask deliver}

/-- A recorded login leaves its token and is added to the record. -/
theorem start_login (s : σ) (events : List Event) :
    (login (Slot.beside.inside slot) (ask.recorded .login)).start (s, events) =
      ((ask.start s).1, slot.set (ask.start s).1.toOption (ask.start s).2,
        events ++ [.login (ask.start s).1]) := by
  unfold login Work.recorded
  rw [Work.start_of, Work.start_of]
  rcases ask.start s with ⟨e | token, t⟩
  · rfl
  · rfl

theorem start_recorded (r : Request) (s : σ) (events : List Event) :
    ((deliver r).recorded (Event.data r)).start (s, events) =
      (((deliver r).start s).1, ((deliver r).start s).2, events ++ [.data r ((deliver r).start s).1]) :=
  rfl

variable (slot ask deliver)
variable (hget : ∀ token s, slot.get (slot.set token s) = token)
  (hdeliver : ∀ r s, slot.get ((deliver r).start s).2 = slot.get s)

include hget hdeliver

/-- What is done with a token is a delivery. If there is an answer, a token is held after it. -/
theorem start_sendWith (put : String → Request) {s : σ} {token : String}
    (hs : slot.get s = some token) (events : List Event) :
    ∃ result t new,
      (sendWith (Slot.beside.inside slot) (ask.recorded .login)
        (fun token => (deliver (put token)).recorded (.data (put token))) token).start (s, events) =
          (result, t, events ++ new) ∧
      Delivery put token new (slot.get t) ∧ (∀ a, result = .ok a → (slot.get t).isSome) := by
  unfold sendWith
  rw [Work.start_bind, start_recorded]
  rcases hfirst : (deliver (put token)).start s with ⟨e | a, t⟩
  · have ht : slot.get t = some token := by rw [← hs, ← hdeliver (put token) s, hfirst]
    refine ⟨.error e, t, _, rfl, ?_, fun _ h => by cases h⟩
    rw [ht]
    exact .final (.error e) fun _ h => by cases h
  · have ht : slot.get t = some token := by rw [← hs, ← hdeliver (put token) s, hfirst]
    dsimp only
    cases hrejected : Status.isRejection a.status with
    | false =>
      rw [if_neg Bool.false_ne_true]
      refine ⟨.ok a, t, _, rfl, ?_, fun _ _ => by rw [ht]; rfl⟩
      rw [ht]
      exact .final (.ok a) fun _ h => by cases h; exact hrejected
    | true =>
      rw [if_pos rfl, Work.start_bind, start_login]
      rcases ask.start t with ⟨e | token', u⟩
      · refine ⟨.error e, slot.set none u, [.data (put token) (.ok a), .login (.error e)], ?_, ?_,
          fun _ h => by cases h⟩
        · rw [List.append_assoc]
          rfl
        · rw [hget]
          exact .refused a hrejected e
      · dsimp only [Except.toOption]
        rw [start_recorded]
        rcases hsecond : (deliver (put token')).start (slot.set (some token') u) with ⟨o, v⟩
        have hv : slot.get v = some token' := by
          have hkept := hdeliver (put token') (slot.set (some token') u)
          rw [hsecond, hget] at hkept
          exact hkept
        refine ⟨o, v, [.data (put token) (.ok a), .login (.ok token'), .data (put token') o], ?_, ?_,
          fun _ _ => by rw [hv]; rfl⟩
        · rw [List.append_assoc, List.append_assoc]
          rfl
        · rw [hv]
          exact .renewed a hrejected token' o

/-- A watched call is a trip. If there is an answer, a token is held after it. -/
theorem start_watched (url : Url) (query : List (String × String)) (s : σ) (events : List Event) :
    ∃ result t new, (watched slot ask deliver url query).start (s, events) = (result, t, events ++ new) ∧
      Trip (fun token => Request.get url query [Header.bearer token]) (slot.get s) new (slot.get t) ∧
      (∀ a, result = .ok a → (slot.get t).isSome) := by
  let put (token : String) : Request := Request.get url query [Header.bearer token]
  unfold watched request send current
  rw [Work.start_bind, Work.start_bind, Work.start_read]
  have hbeside : (Slot.beside.inside slot).get (s, events) = slot.get s := rfl
  rw [hbeside]
  cases hs : slot.get s with
  | some token =>
    obtain ⟨result, t, new, hrun, hdelivery, hok⟩ :=
      start_sendWith slot ask deliver hget hdeliver put hs events
    exact ⟨result, t, new, hrun, .going hdelivery, hok⟩
  | none =>
    dsimp only
    rw [start_login]
    rcases ask.start s with ⟨e | token, u⟩
    · refine ⟨.error e, slot.set none u, _, rfl, ?_, fun _ h => by cases h⟩
      rw [hget]
      exact .barred e
    · obtain ⟨result, t, new, hrun, hdelivery, hok⟩ :=
        start_sendWith slot ask deliver hget hdeliver put (hget (some token) u) (events ++ [.login (.ok token)])
      refine ⟨result, t, .login (.ok token) :: new, ?_, .entered hdelivery, hok⟩
      rw [List.append_assoc] at hrun
      exact hrun

end Watched

end CarbonIntensity.Credential
