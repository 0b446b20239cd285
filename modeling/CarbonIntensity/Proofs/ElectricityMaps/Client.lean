import CarbonIntensity.ElectricityMaps.Client
import CarbonIntensity.Proofs.Provider.Watch
import CarbonIntensity.Proofs.Url.Join
import Mathlib.Data.List.Basic
import Mathlib.Data.List.Induction

/-!
# Runs of the Electricity Maps client

A question of a run is put to the service in one way (`Aim`), or not at all. The first one that is about a
zone asks for the table of zones before its own request; no other one does. What came of that decides all
questions about zones, its own one and those that follow:

    (c.run s steps).memory.entitlements = remembered (c.firstTable? s steps)      (run_keeps)

A failure decides nothing, so that all of them pass. Requests for the table are told from the others by the
last segment of their path, which joining to a base keeps (getLast?_of_mem_sentFor).
-/

namespace CarbonIntensity

/-- The request is one for the table of zones. -/
def Request.isForZones (r : Request) : Bool := r.url.path.segmentList.getLast? == some "zones"

def Failure.isEntitlement : Failure → Bool
  | .entitlement .. => true
  | _ => false

/-- The failure that an answer is, if it is one. -/
def failureOf? {α : Type} : Except Failure α → Option Failure
  | .ok _ => none
  | .error e => some e

/-- How a question fails, if it does. -/
def Provider.failure? {σ : Type} (q : Provider σ) (s : σ) : Question → Option Failure
  | .history location p => failureOf? ((q.history location p).start s).1
  | .currentForecast location => failureOf? ((q.currentForecast location).start s).1
  | .forecastAsOf location requested => failureOf? ((q.forecastAsOf location requested).start s).1
  | .region place => failureOf? ((q.region place).start s).1

namespace ElectricityMaps

def Target.isZone : Target → Bool
  | coordinates _ => false
  | zone _ => true

/-- How a question is put to the service. -/
structure Aim where
  path : String
  target : Target
  extra : List (String × String)

namespace Client

/-- How a question is put, from a session; none if its location has no target, the clock is not a day past
the first instant, its region is remembered or there is no such path. -/
def aim? (c : Client) (s : Session) : Question → Option Aim
  | .history location p =>
    if (horizon? s.now).isNone then none
    else
      (c.target location).toOption.map fun t =>
        if isRecent s.now p.start && isRecent s.now p.stop then ⟨"carbon-intensity/history", t, c.options⟩
        else
          ⟨"carbon-intensity/past-range", t,
            [("start", p.start.wholeSecondText), ("end", p.stop.wholeSecondText)] ++ c.options⟩
  | .currentForecast location =>
    (c.target location).toOption.map fun t => ⟨"carbon-intensity/forecast", t, []⟩
  | .forecastAsOf _ _ => none
  | .region place =>
    if (s.memory.regions.find? s.now place).isSome then none
    else some ⟨"carbon-intensity/history", .coordinates place, []⟩

/-- What goes over the line for a path: a request, unless it has no URL or cannot be sent. -/
def sentFor (c : Client) (path : String) (query : List (String × String)) : List Request :=
  match BaseUrl.endpoint providerName c.baseUrl path with
  | .error _ => []
  | .ok url =>
    let r := Request.get url query c.settings.header?.toList
    if r.trouble?.isNone then [r] else []

/-- What happens to a client: a question, or a change of the clock and of the peer of its line. -/
inductive Step where
  | ask (q : Question)
  | change (clock : Clock) (peer : Peer)

def next (c : Client) (s : Session) : Step → Session
  | .ask q => c.provider.after s q
  | .change clock peer => { s with line := { s.line with clock := clock, peer := peer } }

def run (c : Client) (s : Session) (steps : List Step) : Session := steps.foldl c.next s

/-- What comes of asking for the table where a step is a question about a zone. -/
def tableOf? (c : Client) (s : Session) : Step → Option (Except Failure ZoneTable)
  | .ask q => if (c.aim? s q).any (·.target.isZone) then some (c.zones.start s).1 else none
  | .change .. => none

/-- What comes of asking for the table at the first question about a zone. -/
def firstTable? (c : Client) (s : Session) : List Step → Option (Except Failure ZoneTable)
  | [] => none
  | step :: steps => (c.tableOf? s step).or (c.firstTable? (c.next s step) steps)

/-- The zone is not in the table, or what it grants is neither the path nor everything. A failure denies
nothing. -/
def Denies (table : Except Failure ZoneTable) (zone path : String) : Prop :=
  ∃ zones, table = .ok zones ∧
    ∀ access, zones.lookup zone = some access → path ∉ access.access ∧ "*" ∉ access.access

/-- What is remembered of the first table. -/
def remembered : Option (Except Failure ZoneTable) → Entitlements
  | none => .unasked
  | some table => .ofAnswer table

/-- From a session, these requests were sent, this is remembered, and the outcome is a denial or not. -/
structure Leaves (s : Session) (new : List Request) (e : Entitlements) (denied : Prop)
    (failure? : Option Failure) (t : Session) : Prop where
  sent : t.line.sent = s.line.sent ++ new
  entitlements : t.memory.entitlements = e
  denied : failure?.any Failure.isEntitlement = true ↔ denied

/-- What work leaves behind, done from a session. -/
def Does {α : Type} (w : Work Failure Session α) (s : Session) (new : List Request) (e : Entitlements)
    (denied : Prop) : Prop :=
  Leaves s new e denied (failureOf? (w.start s).1) (w.start s).2

/-- The ways a question can go from a session, where this is remembered of the table. -/
inductive Turn (c : Client) (s : Session) (table? : Option (Except Failure ZoneTable))
    (failure? : Option Failure) (t : Session) : Option Aim → Prop
  | idle (h : Leaves s [] (remembered table?) False failure? t) : Turn c s table? failure? t none
  | place {path : String} {place : Coordinates} {extra : List (String × String)}
      (h : Leaves s (c.sentFor path ((Target.coordinates place).query ++ extra)) (remembered table?) False
        failure? t) :
      Turn c s table? failure? t (some ⟨path, .coordinates place, extra⟩)
  | denied {path zone : String} {extra : List (String × String)}
      (hdenies : Denies (table?.getD (c.zones.start s).1) zone path)
      (h : Leaves s (if table?.isNone then c.sentFor "zones" [] else [])
        (.ofAnswer (table?.getD (c.zones.start s).1)) True failure? t) :
      Turn c s table? failure? t (some ⟨path, .zone zone, extra⟩)
  | allowed {path zone : String} {extra : List (String × String)}
      (hdenies : ¬Denies (table?.getD (c.zones.start s).1) zone path)
      (h : Leaves s ((if table?.isNone then c.sentFor "zones" [] else []) ++
          c.sentFor path ((Target.zone zone).query ++ extra))
        (.ofAnswer (table?.getD (c.zones.start s).1)) False failure? t) :
      Turn c s table? failure? t (some ⟨path, .zone zone, extra⟩)

/-! ## Work -/

section

variable {α β : Type} {s : Session} {new more : List Request} {e e' : Entitlements} {denied : Prop}

theorem leaves_nothing {failure? : Option Failure} (h : failure?.any Failure.isEntitlement = false) :
    Leaves s [] s.memory.entitlements False failure? s where
  sent := (List.append_nil _).symm
  entitlements := rfl
  denied := by rw [h]; exact iff_of_false Bool.false_ne_true id

/-- Work whose failure is followed by nothing. -/
theorem does_bind_of_error {w : Work Failure Session α} {f : α → Work Failure Session β} {failure : Failure}
    {t : Session} (hw : w.start s = (.error failure, t)) (h : Does w s new e denied) :
    Does (w >>= f) s new e denied := by
  unfold Does at h ⊢
  rw [Work.start_bind, hw]
  rw [hw] at h
  exact h

/-- Work after work that does not fail. -/
theorem does_bind_of_ok {w : Work Failure Session α} {f : α → Work Failure Session β} {a : α} {t : Session}
    (hw : w.start s = (.ok a, t)) (h : Does w s new e False) (hf : Does (f a) t more e' denied) :
    Does (w >>= f) s (new ++ more) e' denied := by
  unfold Does at h hf ⊢
  rw [Work.start_bind, hw]
  rw [hw] at h
  exact ⟨by rw [← List.append_assoc, ← h.sent]; exact hf.sent, hf.entitlements, hf.denied⟩

/-- Work after which nothing is sent, nothing is decided and the table is not touched. -/
theorem does_bind_of_quiet {w : Work Failure Session α} {f : α → Work Failure Session β}
    (h : Does w s new e denied) (hf : ∀ a t, Does (f a) t [] t.memory.entitlements False) :
    Does (w >>= f) s new e denied := by
  rcases hw : w.start s with ⟨failure | a, t⟩
  · exact does_bind_of_error hw h
  · unfold Does at h
    rw [hw] at h
    have hdenied : ¬denied := fun hd => Bool.false_ne_true (h.denied.mpr hd)
    have hquiet := hf a t
    unfold Does at hquiet ⊢
    rw [Work.start_bind, hw]
    refine ⟨?_, hquiet.entitlements.trans h.entitlements,
      hquiet.denied.trans (iff_of_false id hdenied)⟩
    rw [hquiet.sent, List.append_nil]
    exact h.sent

theorem does_ofExcept {r : Except Failure α} (h : (failureOf? r).any Failure.isEntitlement = false) :
    Does (Work.ofExcept r) s [] s.memory.entitlements False := leaves_nothing h

theorem does_pure (a : α) : Does (pure a) s [] s.memory.entitlements False := leaves_nothing rfl

end

/-! ## Requests -/

section

variable {α : Type}

theorem read_isEntitlement {provider resource body : String} {decode : Json → Option α} :
    (failureOf? (Payload.read provider resource decode body)).any Failure.isEntitlement = false := by
  unfold Payload.read
  split
  · rfl
  · split <;> rfl

theorem endpoint_isEntitlement (provider : String) (base : Url) (path : String) :
    (failureOf? (BaseUrl.endpoint provider base path)).any Failure.isEntitlement = false := by
  unfold BaseUrl.endpoint
  split <;> rfl

theorem does_send (provider : String) (r : Request) (s : Session) :
    Does (Session.send provider r) s (if r.trouble?.isNone then [r] else []) s.memory.entitlements False := by
  unfold Does Session.send
  rw [Work.start_within]
  unfold Line.send
  rw [Work.start_of]
  cases r.trouble? with
  | some reason => exact leaves_nothing rfl
  | none =>
    simp only
    rcases (Session.lineSlot.get s).peer.respond with ⟨_ | a, peer⟩
    · exact ⟨rfl, rfl, iff_of_false Bool.false_ne_true id⟩
    · exact ⟨rfl, rfl, iff_of_false Bool.false_ne_true id⟩

theorem does_request (c : Client) (path : String) (query : List (String × String)) (resource : String)
    (read : Json → Option α) (s : Session) :
    Does (c.request path query resource read) s (c.sentFor path query) s.memory.entitlements False := by
  unfold request sentFor
  have hendpoint := endpoint_isEntitlement providerName c.baseUrl path
  cases hurl : BaseUrl.endpoint providerName c.baseUrl path with
  | error failure =>
    rw [hurl] at hendpoint
    exact does_bind_of_error rfl (does_ofExcept hendpoint)
  | ok url =>
    refine does_bind_of_ok rfl (does_ofExcept rfl) (does_bind_of_quiet (does_send providerName _ s) ?_)
    intro a t
    split
    · exact does_ofExcept read_isEntitlement
    · exact leaves_nothing rfl

end

/-! ## The table -/

theorem allows_iff {access : ZoneAccess} {path : String} :
    access.allows path = true ↔ path ∈ access.access ∨ "*" ∈ access.access := by
  unfold ZoneAccess.allows
  rw [List.any_eq_true]
  constructor
  · rintro ⟨granted, hmem, h⟩
    rw [Bool.or_eq_true, beq_iff_eq, beq_iff_eq] at h
    exact h.imp (fun heq : granted = path => heq ▸ hmem) fun heq : granted = "*" => heq ▸ hmem
  · rintro (hmem | hmem)
    · exact ⟨path, hmem, by rw [beq_self_eq_true]; rfl⟩
    · exact ⟨"*", hmem, by rw [beq_self_eq_true, Bool.or_true]⟩

/-- A zone and a path pass, or the failure is one of entitlement. -/
theorem decide_ofAnswer (table : Except Failure ZoneTable) (provider zone path : String) :
    ((Entitlements.ofAnswer table).decide provider zone path = .ok () ∧ ¬Denies table zone path) ∨
      ∃ failure, (Entitlements.ofAnswer table).decide provider zone path = .error failure ∧
        failure.isEntitlement = true ∧ Denies table zone path := by
  cases table with
  | error failure => exact .inl ⟨rfl, fun ⟨_, h, _⟩ => nomatch h⟩
  | ok zones =>
    unfold Entitlements.ofAnswer Entitlements.decide
    simp only
    cases hzone : zones.lookup zone with
    | none => exact .inr ⟨_, rfl, rfl, zones, rfl, fun access h => nomatch hzone.symm.trans h⟩
    | some access =>
      simp only
      cases hallows : access.allows path with
      | true =>
        refine .inl ⟨rfl, ?_⟩
        rintro ⟨zones', hzones, hdenies⟩
        obtain rfl := Except.ok.inj hzones
        obtain ⟨hpath, hall⟩ := hdenies access hzone
        exact (allows_iff.mp hallows).elim hpath hall
      | false =>
        refine .inr ⟨_, rfl, rfl, zones, rfl, fun access' h => ?_⟩
        obtain rfl := Option.some.inj (hzone.symm.trans h)
        exact not_or.mp fun h => Bool.false_ne_true (hallows.symm.trans (allows_iff.mpr h))

section

variable {α : Type} {c : Client} {s : Session} {table? : Option (Except Failure ZoneTable)}

/-- The request for the table, if nobody asked for it, and the decision by what is remembered then. -/
theorem start_check (h : s.memory.entitlements = remembered table?) (zone path : String) :
    let table := table?.getD (c.zones.start s).1
    ∃ t, (Entitlements.check Session.entitlementSlot providerName zone path c.zones).start s =
        ((Entitlements.ofAnswer table).decide providerName zone path, t) ∧
      t.line.sent = s.line.sent ++ (if table?.isNone then c.sentFor "zones" [] else []) ∧
      t.memory.entitlements = .ofAnswer table := by
  intro table
  have hget : Session.entitlementSlot.get s = s.memory.entitlements := rfl
  unfold Entitlements.check
  rw [Work.start_of, hget, h]
  cases table? with
  | none =>
    have hzones : Does c.zones s (c.sentFor "zones" []) s.memory.entitlements False :=
      does_request c "zones" [] "zones" ZoneTable.ofJson? s
    exact ⟨_, rfl, hzones.sent, rfl⟩
  | some known =>
    refine ⟨s, ?_, (List.append_nil _).symm, h⟩
    cases known <;> rfl

/-- A question about coordinates. -/
theorem does_ask_coordinates (path : String) (place : Coordinates) (extra : List (String × String))
    (resource : String) (read : Json → Option α) :
    Does (c.ask path (.coordinates place) extra resource read) s
      (c.sentFor path ((Target.coordinates place).query ++ extra)) s.memory.entitlements False := by
  unfold ask
  exact does_request c path _ resource read s

/-- A question about a zone, decided by the table that is remembered or asked for. -/
theorem does_ask_zone (h : s.memory.entitlements = remembered table?) (path zone : String)
    (extra : List (String × String)) (resource : String) (read : Json → Option α) :
    let table := table?.getD (c.zones.start s).1
    let before := if table?.isNone then c.sentFor "zones" [] else []
    (Denies table zone path →
      Does (c.ask path (.zone zone) extra resource read) s before (.ofAnswer table) True) ∧
    (¬Denies table zone path →
      Does (c.ask path (.zone zone) extra resource read) s
        (before ++ c.sentFor path ((Target.zone zone).query ++ extra)) (.ofAnswer table) False) := by
  intro table before
  obtain ⟨t, hstart, hsent, hentitlements⟩ := start_check (c := c) h zone path
  obtain ⟨hok, hdenies⟩ | ⟨failure, herror, hfailure, hdenies⟩ :=
    decide_ofAnswer table providerName zone path
  · refine ⟨fun hd => absurd hd hdenies, fun _ => ?_⟩
    have hcheck : (Entitlements.check Session.entitlementSlot providerName zone path c.zones).start s =
      (.ok (), t) := hstart.trans (by rw [hok])
    refine does_bind_of_ok (e := .ofAnswer table) hcheck ?_ ?_
    · unfold Does
      rw [hcheck]
      exact ⟨hsent, hentitlements, iff_of_false Bool.false_ne_true id⟩
    · rw [← hentitlements]
      exact does_request c path _ resource read t
  · refine ⟨fun _ => ?_, fun hd => absurd hdenies hd⟩
    have hcheck : (Entitlements.check Session.entitlementSlot providerName zone path c.zones).start s =
      (.error failure, t) := hstart.trans (by rw [herror])
    refine does_bind_of_error hcheck ?_
    unfold Does
    rw [hcheck]
    exact ⟨hsent, hentitlements, iff_of_true hfailure trivial⟩

end

/-! ## Questions -/

section

variable {c : Client} {s : Session} {new : List Request} {e : Entitlements} {denied : Prop}

theorem target_isEntitlement (c : Client) (location : String) :
    (failureOf? (c.target location)).any Failure.isEntitlement = false := by
  unfold target Registry.resolve
  split
  · next failure h =>
    split at h
    · cases h
    · obtain rfl := Except.error.inj h
      rfl
  · split <;> rfl

theorem does_readThrough {place : Coordinates} {ask : Work Failure Session String}
    (hfind : s.memory.regions.find? s.now place = none) (h : Does ask s new e denied) :
    Does (RegionCache.readThrough Session.regionSlot Session.now place ask) s new e denied := by
  have hget : Session.regionSlot.get s = s.memory.regions := rfl
  unfold Does RegionCache.readThrough at *
  rw [Work.start_of, hget, hfind]
  rcases hask : ask.start s with ⟨failure | region, t⟩
  · rw [hask] at h
    exact h
  · rw [hask] at h
    exact ⟨h.sent, h.entitlements, h.denied⟩

theorem does_target {α : Type} {location : String} {t : Target} {f : Target → Work Failure Session α}
    (h : (c.target location).toOption = some t) (hf : Does (f t) s new e denied) :
    Does (Work.ofExcept (c.target location) >>= f) s new e denied := by
  cases htarget : c.target location with
  | error failure =>
    rw [htarget] at h
    cases h
  | ok t' =>
    rw [htarget] at h
    obtain rfl := Option.some.inj h
    exact does_bind_of_ok rfl (does_ofExcept rfl) hf

theorem does_no_target {α : Type} {location : String} {f : Target → Work Failure Session α}
    (h : (c.target location).toOption = none) :
    Does (Work.ofExcept (c.target location) >>= f) s [] s.memory.entitlements False := by
  have hfailure := target_isEntitlement c location
  cases htarget : c.target location with
  | error failure =>
    rw [htarget] at hfailure
    exact does_bind_of_error rfl (does_ofExcept hfailure)
  | ok t =>
    rw [htarget] at h
    cases h

/-- A question is the work of asking as it is aimed, and what follows that is quiet. -/
theorem leaves_of_aim {q : Question} {a : Aim} (haim : c.aim? s q = some a)
    (hask : ∀ {α : Type} (resource : String) (read : Json → Option α),
      Does (c.ask a.path a.target a.extra resource read) s new e denied) :
    Leaves s new e denied (c.provider.failure? s q) (c.provider.after s q) := by
  cases q with
  | history location p =>
    show Does (c.history location p) s new e denied
    rw [aim?] at haim
    split at haim
    · cases haim
    · next hday =>
      obtain ⟨t, htarget, rfl⟩ := Option.map_eq_some_iff.mp haim
      refine does_target htarget (does_bind_of_ok rfl (leaves_nothing rfl) ?_)
      show Does (if (horizon? s.now).isNone = true then _
        else if (isRecent s.now p.start && isRecent s.now p.stop) = true then _ else _) s new e denied
      rw [if_neg hday]
      by_cases hrecent : (isRecent s.now p.start && isRecent s.now p.stop) = true
      · rw [if_pos hrecent] at hask ⊢
        exact does_bind_of_quiet (hask _ _) fun answer t => does_pure _
      · rw [if_neg hrecent] at hask ⊢
        exact does_bind_of_quiet (hask _ _) fun answer t => does_pure _
  | currentForecast location =>
    show Does (c.currentForecast location) s new e denied
    obtain ⟨t, htarget, rfl⟩ := Option.map_eq_some_iff.mp haim
    exact does_target htarget (does_bind_of_quiet (hask _ _) fun answer t => leaves_nothing rfl)
  | forecastAsOf location requested => cases haim
  | region place =>
    show Does (c.region place) s new e denied
    rw [aim?] at haim
    cases hfind : s.memory.regions.find? s.now place with
    | some region =>
      rw [hfind] at haim
      cases haim
    | none =>
      rw [hfind] at haim
      obtain rfl := Option.some.inj haim
      refine does_readThrough hfind (does_bind_of_quiet (hask _ _) fun answer t => ?_)
      split
      · exact leaves_nothing rfl
      · exact does_pure _

theorem leaves_of_no_aim {q : Question} (haim : c.aim? s q = none) :
    Leaves s [] s.memory.entitlements False (c.provider.failure? s q) (c.provider.after s q) := by
  cases q with
  | history location p =>
    show Does (c.history location p) s [] _ False
    cases htarget : (c.target location).toOption with
    | none => exact does_no_target htarget
    | some t =>
      rw [aim?] at haim
      split at haim
      · next hday =>
        refine does_target htarget (does_bind_of_ok rfl (leaves_nothing rfl) ?_)
        show Does (if (horizon? s.now).isNone = true then _
          else if (isRecent s.now p.start && isRecent s.now p.stop) = true then _ else _) s [] _ False
        rw [if_pos hday]
        exact leaves_nothing rfl
      · rw [htarget] at haim
        cases haim
  | currentForecast location =>
    show Does (c.currentForecast location) s [] _ False
    exact does_no_target (Option.map_eq_none_iff.mp haim)
  | forecastAsOf location requested => exact leaves_nothing rfl
  | region place =>
    show Does (c.region place) s [] _ False
    rw [aim?] at haim
    cases hfind : s.memory.regions.find? s.now place with
    | none =>
      rw [hfind] at haim
      cases haim
    | some region =>
      have hget : Session.regionSlot.get s = s.memory.regions := rfl
      unfold Does Client.region RegionCache.readThrough
      rw [Work.start_of, hget, hfind]
      exact leaves_nothing rfl

/-- Every question goes one of these ways. -/
theorem turn_question {table? : Option (Except Failure ZoneTable)}
    (h : s.memory.entitlements = remembered table?) (q : Question) :
    Turn c s table? (c.provider.failure? s q) (c.provider.after s q) (c.aim? s q) := by
  cases haim : c.aim? s q with
  | none => exact .idle (h ▸ leaves_of_no_aim haim)
  | some a =>
    obtain ⟨path, place | zone, extra⟩ := a
    · refine .place (h ▸ leaves_of_aim haim fun resource read => ?_)
      exact does_ask_coordinates path place extra resource read
    · have hask := fun {α : Type} (resource : String) (read : Json → Option α) =>
        does_ask_zone (c := c) h path zone extra resource read
      by_cases hdenies : Denies (table?.getD (c.zones.start s).1) zone path
      · exact .denied hdenies (leaves_of_aim haim fun resource read => (hask resource read).1 hdenies)
      · exact .allowed hdenies (leaves_of_aim haim fun resource read => (hask resource read).2 hdenies)

end

/-! ## What is sent for a path -/

theorem length_sentFor_le (c : Client) (path : String) (query : List (String × String)) :
    (c.sentFor path query).length ≤ 1 := by
  unfold sentFor
  split
  · exact Nat.zero_le 1
  · simp only
    split
    · exact Nat.le_refl 1
    · exact Nat.zero_le 1

theorem path_get (url : Url) (query : List (String × String)) (headers : List Header) :
    (Request.get url query headers).url.path = url.path := by
  unfold Request.get
  split
  · rfl
  · simp only
    split <;> split <;> rfl

theorem scheme_get (url : Url) (query : List (String × String)) (headers : List Header) :
    (Request.get url query headers).url.scheme = url.scheme := by
  unfold Request.get
  split
  · rfl
  · simp only
    split <;> split <;> rfl

/-- Files are not asked for over a line. -/
theorem scheme_of_trouble? {r : Request} (h : r.trouble? = none) : r.url.scheme ≠ "file" := by
  intro hfile
  have haskable : Request.isAskable r.url = false := by
    unfold Request.isAskable
    rw [hfile]
    rfl
  unfold Request.trouble? at h
  simp only at h
  rw [haskable] at h
  split at h
  · cases h
  · split at h <;> cases h

/-- A request for a plain path ends in its last segment. -/
theorem getLast?_of_mem_sentFor {c : Client} {segments : List String} (hne : segments ≠ [])
    (hplain : ∀ x ∈ segments, Url.IsPlain x) {query : List (String × String)} {r : Request}
    (hr : r ∈ c.sentFor (String.intercalate "/" segments) query) :
    r.url.path.segmentList.getLast? = segments.getLast? := by
  unfold sentFor BaseUrl.endpoint at hr
  cases hurl : c.baseUrl.join (String.intercalate "/" segments) with
  | error fault =>
    rw [hurl] at hr
    cases hr
  | ok url =>
    rw [hurl] at hr
    simp only at hr
    split at hr
    · next htrouble =>
      obtain rfl := List.mem_singleton.mp hr
      -- A base that is a file is joined in another way, but its URLs are not asked for.
      have hscheme := scheme_of_trouble? (Option.isNone_iff_eq_none.mp htrouble)
      rw [scheme_get] at hscheme
      have hfile : c.baseUrl.scheme ≠ "file" := fun hbase =>
        hscheme (Url.scheme_of_join_file hne hplain hbase hurl)
      have hpath := Url.hasRootlessPath_of_join hne hplain hurl
      obtain rfl := Except.ok.inj (hurl.symm.trans (Url.join_plain hne hplain hpath hfile))
      rw [path_get]
      exact List.getLast?_append_of_ne_nil _ hne
    · cases hr

theorem filter_sentFor_zones (c : Client) :
    (c.sentFor "zones" []).filter Request.isForZones = c.sentFor "zones" [] := by
  rw [List.filter_eq_self]
  intro r hr
  have hlast : r.url.path.segmentList.getLast? = ["zones"].getLast? :=
    getLast?_of_mem_sentFor (by decide) (by decide) hr
  unfold Request.isForZones
  rw [hlast]
  rfl

theorem path_of_aim? {c : Client} {s : Session} {q : Question} {a : Aim} (h : c.aim? s q = some a) :
    ∃ last ∈ ["history", "past-range", "forecast"],
      a.path = String.intercalate "/" ["carbon-intensity", last] := by
  have hpaths : ∀ path ∈ ["carbon-intensity/history", "carbon-intensity/past-range",
      "carbon-intensity/forecast"], ∃ last ∈ ["history", "past-range", "forecast"],
        path = String.intercalate "/" ["carbon-intensity", last] := by decide
  refine hpaths a.path ?_
  cases q with
  | history location p =>
    rw [aim?] at h
    split at h
    · cases h
    · obtain ⟨t, -, rfl⟩ := Option.map_eq_some_iff.mp h
      split <;> simp
  | currentForecast location =>
    obtain ⟨t, -, rfl⟩ := Option.map_eq_some_iff.mp h
    simp
  | forecastAsOf location requested => cases h
  | region place =>
    rw [aim?] at h
    split at h
    · cases h
    · obtain rfl := Option.some.inj h
      simp

/-- The own request of a question is not for the table. -/
theorem filter_sentFor_of_aim {c : Client} {s : Session} {q : Question} {a : Aim}
    (h : c.aim? s q = some a) (query : List (String × String)) :
    (c.sentFor a.path query).filter Request.isForZones = [] := by
  obtain ⟨last, hmem, hpath⟩ := path_of_aim? h
  have hlasts : ∀ last ∈ ["history", "past-range", "forecast"],
      (∀ x ∈ ["carbon-intensity", last], Url.IsPlain x) ∧ last ≠ "zones" := by decide
  obtain ⟨hplain, hne⟩ := hlasts last hmem
  rw [List.filter_eq_nil_iff, hpath]
  intro r hr hzones
  have hlast := getLast?_of_mem_sentFor (List.cons_ne_nil _ _) hplain hr
  unfold Request.isForZones at hzones
  rw [hlast, beq_iff_eq] at hzones
  exact hne (Option.some.inj hzones)

/-! ## Runs -/

section

variable (c : Client) {s : Session}

theorem run_snoc (s : Session) (steps : List Step) (step : Step) :
    c.run s (steps ++ [step]) = c.next (c.run s steps) step := List.foldl_append

theorem firstTable?_snoc (s : Session) (steps : List Step) (step : Step) :
    c.firstTable? s (steps ++ [step]) =
      (c.firstTable? s steps).or (c.tableOf? (c.run s steps) step) := by
  induction steps generalizing s with
  | nil => exact Option.or_none
  | cons first steps ih =>
    show (c.tableOf? s first).or (c.firstTable? (c.next s first) (steps ++ [step])) = _
    rw [ih, ← Option.or_assoc]
    rfl

theorem remembered_or (table? : Option (Except Failure ZoneTable)) (table : Except Failure ZoneTable) :
    remembered (table?.or (some table)) = .ofAnswer (table?.getD table) := by
  cases table? <;> rfl

theorem filter_before (b : Bool) :
    (if b then c.sentFor "zones" [] else []).filter Request.isForZones =
      if b then c.sentFor "zones" [] else [] := by
  cases b with
  | false => rfl
  | true => exact c.filter_sentFor_zones

/-- One step: the table is asked for if this is a question about a zone and nobody asked for it. -/
theorem next_keeps {table? : Option (Except Failure ZoneTable)}
    (h : s.memory.entitlements = remembered table?) (step : Step) :
    (c.next s step).memory.entitlements = remembered (table?.or (c.tableOf? s step)) ∧
      ∃ new, (c.next s step).line.sent = s.line.sent ++ new ∧
        new.filter Request.isForZones =
          if table?.isNone && (c.tableOf? s step).isSome then c.sentFor "zones" [] else [] := by
  cases step with
  | change clock peer =>
    rw [tableOf?, Option.or_none, Option.isSome_none, Bool.and_false]
    exact ⟨h, [], (List.append_nil _).symm, rfl⟩
  | ask q =>
    have hturn := turn_question (c := c) h q
    show (c.provider.after s q).memory.entitlements = _ ∧ ∃ new, (c.provider.after s q).line.sent = _ ∧ _
    rw [tableOf?]
    -- Only the last two ways are about a zone; the table is in neither of the others.
    generalize haim : c.aim? s q = aim? at hturn ⊢
    cases hturn with
    | idle hleaves =>
      rw [Option.any_none, if_neg Bool.false_ne_true, Option.or_none, Option.isSome_none, Bool.and_false]
      exact ⟨hleaves.entitlements, _, hleaves.sent, rfl⟩
    | place hleaves =>
      rw [Option.any_some, Target.isZone, if_neg Bool.false_ne_true, Option.or_none, Option.isSome_none,
        Bool.and_false]
      exact ⟨hleaves.entitlements, _, hleaves.sent, filter_sentFor_of_aim haim _⟩
    | denied hdenies hleaves =>
      rw [Option.any_some, Target.isZone, if_pos rfl, remembered_or, Option.isSome_some, Bool.and_true]
      exact ⟨hleaves.entitlements, _, hleaves.sent, c.filter_before _⟩
    | allowed hdenies hleaves =>
      rw [Option.any_some, Target.isZone, if_pos rfl, remembered_or, Option.isSome_some, Bool.and_true]
      refine ⟨hleaves.entitlements, _, hleaves.sent, ?_⟩
      rw [List.filter_append, filter_before, filter_sentFor_of_aim haim, List.append_nil]

theorem run_keeps (h : s.memory.entitlements = .unasked) (steps : List Step) :
    (c.run s steps).memory.entitlements = remembered (c.firstTable? s steps) ∧
      ∃ new, (c.run s steps).line.sent = s.line.sent ++ new ∧
        new.filter Request.isForZones =
          if (c.firstTable? s steps).isSome then c.sentFor "zones" [] else [] := by
  -- From the end, since what is remembered depends on the steps before and not on those after.
  induction steps using List.reverseRecOn with
  | nil => exact ⟨h, [], (List.append_nil _).symm, rfl⟩
  | append_singleton steps step ih =>
    obtain ⟨hentitlements, new, hsent, hfilter⟩ := ih
    obtain ⟨hentitlements', more, hsent', hfilter'⟩ := c.next_keeps hentitlements step
    rw [run_snoc, firstTable?_snoc]
    refine ⟨hentitlements', new ++ more, ?_, ?_⟩
    · rw [hsent', hsent, List.append_assoc]
    · rw [List.filter_append, hfilter, hfilter']
      cases c.firstTable? s steps with
      | some table => exact List.append_nil _
      | none => rfl

/-- **The table is asked for once.** Over every run of a client from its beginning, whatever the peer answers
and however clock and peer change: the requests for the table are what is sent for it once if there was a
question about a zone, and nothing otherwise. A question that is not put to the service sends nothing, and
one about coordinates sends its own request only. A question about a zone sends its own request unless the
table denies it, which is the way in which it fails by entitlement; if it is the first such question, the
request for the table comes right before. That first table decides, and a failure denies nothing. -/
theorem run_asks_zones_once (line : Line) (lifetime : Span) (steps : List Step) (q : Question) :
    let start : Session := ⟨line, Memory.fresh lifetime⟩
    let s := c.run start steps
    let sent := (c.provider.after s q).line.sent
    let denied := (c.provider.failure? s q).any Failure.isEntitlement
    (∃ new, s.line.sent = line.sent ++ new ∧
      (new.filter Request.isForZones).length ≤ 1 ∧
      new.filter Request.isForZones =
        if (c.firstTable? start steps).isSome then c.sentFor "zones" [] else []) ∧
      (c.aim? s q = none → sent = s.line.sent ∧ denied = false) ∧
      (∀ path place extra, c.aim? s q = some ⟨path, .coordinates place, extra⟩ →
        sent = s.line.sent ++ c.sentFor path ((Target.coordinates place).query ++ extra) ∧
          denied = false) ∧
      ∀ path zone extra, c.aim? s q = some ⟨path, .zone zone, extra⟩ →
        ∃ table, c.firstTable? start (steps ++ [.ask q]) = some table ∧
          (denied = true ↔ Denies table zone path) ∧
          sent = s.line.sent ++
            (if (c.firstTable? start steps).isNone then c.sentFor "zones" [] else []) ++
            if denied then [] else c.sentFor path ((Target.zone zone).query ++ extra) := by
  intro start s sent denied
  obtain ⟨hentitlements, new, hsent, hfilter⟩ := c.run_keeps (s := start) rfl steps
  refine ⟨⟨new, hsent, ?_, hfilter⟩, ?_⟩
  · rw [hfilter]
    split
    · exact c.length_sentFor_le "zones" []
    · exact Nat.zero_le 1
  · have hturn := turn_question (c := c) hentitlements q
    have hfirst := c.firstTable?_snoc start steps (.ask q)
    have hasks : (c.aim? s q).any (·.target.isZone) = true →
        c.firstTable? start (steps ++ [.ask q]) =
          some ((c.firstTable? start steps).getD (c.zones.start s).1) := fun hzone => by
      have htable : c.tableOf? s (.ask q) = some (c.zones.start s).1 := if_pos hzone
      rw [hfirst, htable, Option.or_some]
    have hpasses : ∀ {new e}, Leaves s new e False (c.provider.failure? s q) (c.provider.after s q) →
        denied = false := fun hleaves => Bool.eq_false_iff.mpr hleaves.denied.mp
    generalize haim : c.aim? s q = aim? at hturn hasks ⊢
    cases hturn with
    | idle hleaves =>
      refine ⟨fun _ => ⟨hleaves.sent.trans (List.append_nil _), hpasses hleaves⟩, nofun, nofun⟩
    | place hleaves =>
      refine ⟨nofun, ?_, nofun⟩
      rintro path place extra ⟨rfl⟩
      exact ⟨hleaves.sent, hpasses hleaves⟩
    | denied hdenies hleaves =>
      refine ⟨nofun, nofun, ?_⟩
      rintro path zone extra ⟨rfl⟩
      have htrue : denied = true := hleaves.denied.mpr trivial
      refine ⟨_, hasks rfl, iff_of_true htrue hdenies, ?_⟩
      rw [htrue, if_pos rfl, List.append_nil]
      exact hleaves.sent
    | allowed hdenies hleaves =>
      refine ⟨nofun, nofun, ?_⟩
      rintro path zone extra ⟨rfl⟩
      have hfalse := hpasses hleaves
      refine ⟨_, hasks rfl, iff_of_false (Bool.eq_false_iff.mp hfalse) hdenies, ?_⟩
      rw [hfalse, if_neg Bool.false_ne_true, List.append_assoc]
      exact hleaves.sent

end

end Client

end ElectricityMaps

end CarbonIntensity
