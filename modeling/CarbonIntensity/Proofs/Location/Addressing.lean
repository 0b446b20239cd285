import CarbonIntensity.ElectricityMapsFree.Client
import CarbonIntensity.Proofs.ElectricityMaps.Client
import CarbonIntensity.Proofs.Location.Loading
import CarbonIntensity.Proofs.Outcome

/-!
# How registered locations are addressed

The clients of Electricity Maps put a position into a query by its coordinates or else by its name, and
have a failure for one that has neither. No load leaves such a position behind, however it follows on
others:

    (replay loads .empty).resolve name = .ok p → p.Placed                       (placed_of_resolve)

so that every name that is found has an address (`Position.Address`), and the failure never occurs. Whatever
is sent for a question about the name carries that address; the only other request is the one for the table
of zones. Both are followed through the work of a client by one predicate (`Work.Confined`), which holds of
work if it holds of its parts.
-/

namespace CarbonIntensity

/-- How a position stands in a query: by its coordinates if both of them are known, and otherwise by its
name, which is not blank, under a key of the service. -/
inductive Position.Address (key : String) (p : Position) : List (String × String) → Prop
  | coordinates {latitude longitude : Float} (hlatitude : p.latitude = some latitude)
      (hlongitude : p.longitude = some longitude) :
      Address key p [("lat", displayFloat latitude), ("lon", displayFloat longitude)]
  | name {name : String} (hcoordinates : p.latitude = none ∨ p.longitude = none)
      (hname : p.name = some name) (hblank : Text.isBlankText name = false) :
      Address key p [(key, name)]

namespace Request

/-- The keys by which places are put into queries. -/
def placeKeys : List String := ["lat", "lon", "zone", "countryCode"]

/-- The request asks about a position: in its query stand an address of it and nothing else that is about a
place. -/
def Addresses (key : String) (p : Position) (r : Request) : Prop :=
  ∃ address extra, p.Address key address ∧ (∀ pair ∈ extra, pair.1 ∉ placeKeys) ∧
    r.url.query = some (String.ofList (Text.formPairs (address ++ extra)))

end Request

/-- An outcome other than the failure to put a location the way the provider needs it. -/
def Converts {α : Type} (r : Except Failure α) : Prop :=
  ∀ location reason, r ≠ .error (.locationConversion location reason)

theorem Converts.failure {α β : Type} {e : Failure} (h : Converts (.error e : Except Failure α)) :
    Converts (.error e : Except Failure β) :=
  fun location reason heq => h location reason (congrArg _ (Except.error.inj heq))

/-! ## Work -/

namespace Work

variable {α β : Type} {sends : Request → Prop}

/-- Work that does not fail because a location cannot be put, and sends only such requests. -/
structure Confined (sends : Request → Prop) (w : Work Failure Session α) : Prop where
  converts : ∀ s, Converts (w.start s).1
  sent : ∀ s, ∃ new, (w.start s).2.line.sent = s.line.sent ++ new ∧ ∀ r ∈ new, sends r

theorem confined_ofExcept {r : Except Failure α} (h : Converts r) : Confined sends (ofExcept r) where
  converts _ := h
  sent _ := ⟨[], (List.append_nil _).symm, nofun⟩

theorem confined_ok_bind {a : α} {f : α → Work Failure Session β} (h : Confined sends (f a)) :
    Confined sends (ofExcept (.ok a) >>= f) := h

theorem confined_pure (a : α) : Confined sends (pure a) := confined_ofExcept nofun

theorem confined_fail {e : Failure} (h : Converts (.error e : Except Failure α)) :
    Confined sends (fail e : Work Failure Session α) := confined_ofExcept h

theorem confined_read {τ : Type} (p : Slot Session τ) : Confined sends (read p) where
  converts _ := nofun
  sent _ := ⟨[], (List.append_nil _).symm, nofun⟩

theorem confined_bind {w : Work Failure Session α} {f : α → Work Failure Session β}
    (hw : Confined sends w) (hf : ∀ a, Confined sends (f a)) : Confined sends (w >>= f) := by
  have hstart : ∀ s, (∃ e t, w.start s = (.error e, t) ∧ (w >>= f).start s = (.error e, t)) ∨
      ∃ a t, w.start s = (.ok a, t) ∧ (w >>= f).start s = (f a).start t := by
    intro s
    rw [start_bind]
    rcases w.start s with ⟨e | a, t⟩
    · exact .inl ⟨e, t, rfl, rfl⟩
    · exact .inr ⟨a, t, rfl, rfl⟩
  refine ⟨fun s => ?_, fun s => ?_⟩
  · have hconverts := hw.converts s
    rcases hstart s with ⟨e, t, hs, hbind⟩ | ⟨a, t, -, hbind⟩
    · rw [hs] at hconverts
      rw [hbind]
      exact hconverts.failure
    · rw [hbind]
      exact (hf a).converts t
  · obtain ⟨new, hsent, hnew⟩ := hw.sent s
    rcases hstart s with ⟨e, t, hs, hbind⟩ | ⟨a, t, hs, hbind⟩
    · rw [hs] at hsent
      rw [hbind]
      exact ⟨new, hsent, hnew⟩
    · rw [hs] at hsent
      obtain ⟨more, hsent', hmore⟩ := (hf a).sent t
      rw [hbind, hsent', hsent, List.append_assoc]
      exact ⟨new ++ more, rfl, List.forall_mem_append.mpr ⟨hnew, hmore⟩⟩

/-- A request is sent if it can be, and nothing else is. -/
theorem confined_send (provider : String) {r : Request} (h : r.trouble? = none → sends r) :
    Confined sends (Session.send provider r) := by
  have hstart : ∀ s, Converts ((Session.send provider r).start s).1 ∧
      ((Session.send provider r).start s).2.line.sent =
        s.line.sent ++ if r.trouble?.isNone then [r] else [] := by
    intro s
    unfold Session.send
    rw [start_within]
    unfold Line.send
    rw [start_of]
    cases r.trouble? with
    | some reason => exact ⟨nofun, (List.append_nil _).symm⟩
    | none =>
      simp only
      rcases (Session.lineSlot.get s).peer.respond with ⟨_ | a, peer⟩
      · exact ⟨nofun, rfl⟩
      · exact ⟨nofun, rfl⟩
  refine ⟨fun s => (hstart s).1, fun s => ⟨_, (hstart s).2, ?_⟩⟩
  split
  · next htrouble => exact List.forall_mem_singleton.mpr (h (Option.isNone_iff_eq_none.mp htrouble))
  · exact nofun

theorem confined_readPayload {provider resource body : String} {decode : Json → Option α} :
    Confined sends (ofExcept (Payload.read provider resource decode body)) := by
  refine confined_ofExcept ?_
  unfold Payload.read
  split
  · exact nofun
  · split <;> exact nofun

end Work

open Work

/-- Questions about a name are put to a service: none fails because the location cannot be, and only such
requests are sent for them. -/
structure Provider.Puts (q : Provider Session) (name : String) (sends : Request → Prop) : Prop where
  history : ∀ p, Confined sends (q.history name p)
  currentForecast : Confined sends (q.currentForecast name)
  forecastAsOf : ∀ requested, Confined sends (q.forecastAsOf name requested)

namespace Entitlements

theorem converts_decide (e : Entitlements) (provider zone path : String) :
    Converts (e.decide provider zone path) := by
  unfold Entitlements.decide
  split
  · split
    · exact nofun
    · split <;> exact nofun
  · exact nofun

theorem confined_check {sends : Request → Prop} (provider zone path : String)
    {ask : Work Failure Session ZoneTable} (h : Confined sends ask) :
    Confined sends (check Session.entitlementSlot provider zone path ask) := by
  refine ⟨fun s => ?_, fun s => ?_⟩
  · unfold check
    rw [start_of]
    split
    · exact converts_decide _ provider zone path
    · exact converts_decide _ provider zone path
  · unfold check
    rw [start_of]
    split
    · exact h.sent s
    · exact ⟨[], (List.append_nil _).symm, nofun⟩

end Entitlements

namespace Credential

variable {sends : Request → Prop} {ask : Work Failure Session String}

theorem confined_login (h : Confined sends ask) : Confined sends (login Session.tokenSlot ask) := by
  refine ⟨fun s => ?_, fun s => ?_⟩
  · have hconverts := h.converts s
    unfold login
    rw [start_of]
    rcases hask : ask.start s with ⟨e | token, t⟩
    · rw [hask] at hconverts
      exact hconverts
    · exact nofun
  · have hsent := h.sent s
    unfold login
    rw [start_of]
    rcases hask : ask.start s with ⟨e | token, t⟩
    · rw [hask] at hsent
      exact hsent
    · rw [hask] at hsent
      exact hsent

theorem confined_credential_send (h : Confined sends ask) {request : String → Work Failure Session Answer}
    (hrequest : ∀ token, Confined sends (request token)) :
    Confined sends (send Session.tokenSlot ask request) := by
  have hcurrent : Confined sends (current Session.tokenSlot ask) := by
    refine confined_bind (confined_read _) fun held => ?_
    cases held with
    | some token => exact confined_pure token
    | none => exact confined_login h
  refine confined_bind hcurrent fun token => confined_bind (hrequest token) fun answer => ?_
  split
  · exact confined_bind (confined_login h) hrequest
  · exact confined_pure answer

end Credential

/-! ## Requests -/

namespace Request

theorem host_get (url : Url) (query : List (String × String)) (headers : List Header) :
    (get url query headers).url.host = url.host := by
  unfold get
  split
  · rfl
  · simp only
    split <;> split <;> rfl

/-- A request that can be sent carries the query that it was made with. -/
theorem query_get {url : Url} {query : List (String × String)} {headers : List Header}
    (hne : query ≠ []) (h : (get url query headers).trouble? = none) :
    (get url query headers).url.query = some (String.ofList (Text.formPairs query)) := by
  have hhost : url.hasHost = true := by
    have hget : (get url query headers).url.hasHost = true := by
      unfold trouble? at h
      simp only at h
      split at h
      · cases h
      · next hhost => simpa using hhost
    unfold Url.hasHost at hget ⊢
    rwa [host_get] at hget
  unfold get
  rw [hhost, Bool.not_true, if_neg Bool.false_ne_true]
  have hempty : query.isEmpty = false := List.isEmpty_eq_false_iff.mpr hne
  simp only [hempty]
  split <;> rfl

theorem addresses_get {key : String} {p : Position} {address extra : List (String × String)}
    (haddress : p.Address key address) (hextra : ∀ pair ∈ extra, pair.1 ∉ placeKeys) {url : Url}
    {headers : List Header} (h : (get url (address ++ extra) headers).trouble? = none) :
    (get url (address ++ extra) headers).Addresses key p := by
  have hne : address ++ extra ≠ [] := by cases haddress <;> simp
  exact ⟨address, extra, haddress, hextra, query_get hne h⟩

end Request

/-! ## Positions -/

/-- Whatever was loaded, a name that is found has a position with a name or both coordinates. -/
theorem Load.placed_of_resolve {loads : List Load} {name : String} {p : Position}
    (h : (replay loads .empty).resolve name = .ok p) : p.Placed := by
  rcases resolve_replay loads .empty name with
    ⟨q, ⟨earlier, x, later, -, ⟨entries, hdecoded, hplaced⟩, hdefines, -⟩, hresolve⟩ | ⟨-, hresolve⟩
  · obtain rfl := Except.ok.inj (hresolve.symm.trans h)
    obtain ⟨entries', key, hdecoded', hmem, -⟩ := hdefines
    obtain rfl := Except.ok.inj (hdecoded.symm.trans hdecoded')
    exact hplaced (key, q) hmem
  · rw [h] at hresolve
    cases hresolve

/-- A position with a name or both coordinates has an address, by the first of the two ways that there are. -/
theorem Position.Placed.address {p : Position} (h : p.Placed) (key : String) :
    (∃ place, p.coordinates? = some place ∧
        p.Address key [("lat", place.latitudeText), ("lon", place.longitudeText)]) ∨
      ∃ name, p.coordinates? = none ∧ p.name = some name ∧ p.Address key [(key, name)] := by
  have hnamed : p.latitude = none ∨ p.longitude = none →
      ∃ name, p.name = some name ∧ p.Address key [(key, name)] := by
    intro hnone
    rcases h with ⟨name, hname, hblank⟩ | ⟨latitude, longitude, hlatitude, hlongitude⟩
    · exact ⟨name, hname, .name hnone hname hblank⟩
    · simp [hlatitude, hlongitude] at hnone
  unfold coordinates?
  cases hlatitude : p.latitude with
  | none =>
    obtain ⟨name, hname, haddress⟩ := hnamed (.inl hlatitude)
    exact .inr ⟨name, rfl, hname, haddress⟩
  | some latitude =>
    cases hlongitude : p.longitude with
    | none =>
      obtain ⟨name, hname, haddress⟩ := hnamed (.inr hlongitude)
      exact .inr ⟨name, rfl, hname, haddress⟩
    | some longitude => exact .inl ⟨⟨latitude, longitude⟩, rfl, .coordinates hlatitude hlongitude⟩

section

variable {loads : List Load} {name : String} {p : Position}

namespace ElectricityMaps.Client

variable {c : Client}

theorem target_of_placed (hresolve : c.locations.resolve name = .ok p) (h : p.Placed) :
    ∃ t, c.target name = .ok t ∧ p.Address "zone" t.query := by
  unfold target
  rw [hresolve]
  rcases h.address "zone" with ⟨place, hcoordinates, haddress⟩ | ⟨zone, hcoordinates, hname, haddress⟩
  · simp only [hcoordinates]
    exact ⟨.coordinates place, rfl, haddress⟩
  · simp only [hcoordinates, hname]
    exact ⟨.zone zone, rfl, haddress⟩

theorem options_keys (c : Client) : ∀ pair ∈ c.options, pair.1 ∉ Request.placeKeys := by
  intro pair hpair
  unfold options at hpair
  simp only [List.mem_append, List.mem_map] at hpair
  rcases hpair with ⟨factor, -, rfl⟩ | ⟨b, -, rfl⟩
  · show "emissionFactorType" ∉ Request.placeKeys
    decide
  · show "disableEstimations" ∉ Request.placeKeys
    decide

theorem converts_endpoint (provider : String) (base : Url) (path : String) :
    Converts (BaseUrl.endpoint provider base path) := by
  unfold BaseUrl.endpoint
  split <;> exact nofun

variable {α : Type} {sends : Request → Prop}

theorem confined_request {path : String} {query : List (String × String)}
    (h : ∀ r ∈ c.sentFor path query, sends r) (resource : String) (read : Json → Option α) :
    Confined sends (c.request path query resource read) := by
  unfold sentFor at h
  unfold request
  have hendpoint := converts_endpoint providerName c.baseUrl path
  cases hurl : BaseUrl.endpoint providerName c.baseUrl path with
  | error failure =>
    rw [hurl] at hendpoint
    exact confined_fail hendpoint.failure
  | ok url =>
    rw [hurl] at h
    refine confined_ok_bind (confined_bind (confined_send providerName fun htrouble => ?_) fun answer => ?_)
    · refine h _ ?_
      simp only [htrouble, Option.isNone_none, if_true]
      exact List.mem_singleton_self _
    · split
      · exact confined_readPayload
      · exact confined_fail nofun

/-- Beside the request for the table, a question about a target only sends requests with its address. -/
theorem confined_ask {path : String} {t : Target} {extra : List (String × String)}
    (haddress : p.Address "zone" t.query) (hextra : ∀ pair ∈ extra, pair.1 ∉ Request.placeKeys)
    (resource : String) (read : Json → Option α) :
    Confined (fun r => r ∈ c.sentFor "zones" [] ∨ r.Addresses "zone" p)
      (c.ask path t extra resource read) := by
  have hrequest : Confined (fun r => r ∈ c.sentFor "zones" [] ∨ r.Addresses "zone" p)
      (c.request path (t.query ++ extra) resource read) := by
    refine confined_request (fun r hr => .inr ?_) resource read
    unfold sentFor at hr
    split at hr
    · cases hr
    · simp only at hr
      split at hr
      · next htrouble =>
        obtain rfl := List.mem_singleton.mp hr
        exact Request.addresses_get haddress hextra (Option.isNone_iff_eq_none.mp htrouble)
      · cases hr
  cases t with
  | coordinates place => exact hrequest
  | zone zone =>
    have hzones : Confined (fun r => r ∈ c.sentFor "zones" [] ∨ r.Addresses "zone" p) c.zones :=
      confined_request (fun r hr => .inl hr) "zones" ZoneTable.ofJson?
    exact confined_bind (Entitlements.confined_check providerName zone path hzones) fun _ => hrequest

theorem puts_of_placed (hresolve : c.locations.resolve name = .ok p) (h : p.Placed) :
    c.provider.Puts name fun r => r ∈ c.sentFor "zones" [] ∨ r.Addresses "zone" p := by
  obtain ⟨t, htarget, haddress⟩ := target_of_placed hresolve h
  refine ⟨fun period => ?_, ?_, fun requested => confined_fail nofun⟩
  · show Confined _ (c.history name period)
    unfold history
    rw [htarget]
    refine confined_ok_bind (confined_bind (confined_read _) fun line => ?_)
    simp only
    split
    · exact confined_fail nofun
    split
    · exact confined_bind (confined_ask haddress c.options_keys _ _) fun answer => confined_pure _
    · have hextra : ∀ pair ∈ [("start", period.start.wholeSecondText),
          ("end", period.stop.wholeSecondText)] ++ c.options, pair.1 ∉ Request.placeKeys :=
        List.forall_mem_append.mpr ⟨by simp [Request.placeKeys], c.options_keys⟩
      exact confined_bind (confined_ask haddress hextra _ _) fun answer => confined_pure _
  · show Confined _ (c.currentForecast name)
    unfold currentForecast
    rw [htarget]
    refine confined_ok_bind (confined_bind (confined_ask haddress (by simp) _ _) fun answer => ?_)
    exact confined_bind (confined_read _) fun line => confined_pure _

end ElectricityMaps.Client

namespace ElectricityMapsFree.Client

variable {c : Client}

theorem query_of_placed (hresolve : c.locations.resolve name = .ok p) (h : p.Placed) :
    ∃ query, c.query name = .ok query ∧ p.Address "countryCode" query := by
  unfold query
  rw [hresolve]
  rcases h.address "countryCode" with ⟨place, hcoordinates, haddress⟩ | ⟨code, hcoordinates, hname, haddress⟩
  · simp only [hcoordinates]
    exact ⟨_, rfl, haddress⟩
  · simp only [hcoordinates, hname]
    exact ⟨_, rfl, haddress⟩

theorem confined_latest {query : List (String × String)} (haddress : p.Address "countryCode" query) :
    Confined (Request.Addresses "countryCode" p) (c.latest query) := by
  have hrequest : ∀ token, Confined (Request.Addresses "countryCode" p)
      (Session.send providerName (Request.get c.latestUrl query [⟨"auth-token", token⟩])) := by
    intro token
    refine confined_send providerName fun htrouble => ?_
    rw [← List.append_nil query] at htrouble ⊢
    exact Request.addresses_get haddress (by simp) htrouble
  unfold latest
  refine confined_bind (Credential.confined_credential_send (confined_pure c.token) hrequest) fun answer => ?_
  split
  · exact confined_readPayload
  · exact confined_fail nofun

theorem puts_of_placed (hresolve : c.locations.resolve name = .ok p) (h : p.Placed) :
    c.provider.Puts name (Request.Addresses "countryCode" p) := by
  obtain ⟨query, hquery, haddress⟩ := query_of_placed hresolve h
  refine ⟨fun period => confined_fail nofun, ?_, fun requested => confined_fail nofun⟩
  show Confined _ (c.currentForecast name)
  unfold currentForecast
  rw [hquery]
  refine confined_ok_bind (confined_bind (confined_latest haddress) fun answer => ?_)
  exact confined_bind (confined_read _) fun line => confined_pure _

end ElectricityMapsFree.Client

/-- **Every location that is loaded can be asked about.** Whatever texts were loaded one after the other
into an empty registry, with whatever labels, delimiters and faults: each name that is found in it has an
address, by which both clients of Electricity Maps put it. No question about the name fails because the
location cannot be put, and but for the table of zones, whatever is sent for one has the address in its
query and says nothing else about the place. -/
theorem Load.puts_of_resolve {loads : List Load} {name : String} {p : Position}
    (h : (replay loads .empty).resolve name = .ok p) :
    (∀ c : ElectricityMaps.Client, c.locations = replay loads .empty →
      (∃ t, c.target name = .ok t ∧ p.Address "zone" t.query) ∧
        c.provider.Puts name fun r => r ∈ c.sentFor "zones" [] ∨ r.Addresses "zone" p) ∧
    ∀ c : ElectricityMapsFree.Client, c.locations = replay loads .empty →
      (∃ query, c.query name = .ok query ∧ p.Address "countryCode" query) ∧
        c.provider.Puts name (Request.Addresses "countryCode" p) := by
  have hplaced := placed_of_resolve h
  constructor
  · intro c hlocations
    rw [← hlocations] at h
    exact ⟨c.target_of_placed h hplaced, c.puts_of_placed h hplaced⟩
  · intro c hlocations
    rw [← hlocations] at h
    exact ⟨c.query_of_placed h hplaced, c.puts_of_placed h hplaced⟩

/-- A zone that lost its coordinates to a later text, in which one of them is blank. -/
theorem Load.puts_of_resolve_overridden :
    let entry (key : String) (fields : List (String × Document)) : String × Document := (key, .object fields)
    let loads := [inOrder none "-" (Document.object [entry "eu.de" [("name", .string "DE"),
        ("latitude", .string "52.5"), ("longitude", .string "13.4")]]).compact,
      inOrder (some "EU") "." (Document.object [entry "DE" [("name", .string "DE"),
        ("latitude", .string "52.5"), ("longitude", .string " ")]]).compact]
    ∃ p, (replay loads .empty).resolve "eu.DE" = .ok p ∧
      (p.name = some "DE" ∧ p.latitude.isSome = true ∧ p.longitude.isSome = false) ∧
      (∀ c : ElectricityMaps.Client, c.locations = replay loads .empty →
        (∃ t, c.target "eu.DE" = .ok t ∧ p.Address "zone" t.query) ∧
          c.provider.Puts "eu.DE" fun r => r ∈ c.sentFor "zones" [] ∨ r.Addresses "zone" p) ∧
      ∀ c : ElectricityMapsFree.Client, c.locations = replay loads .empty →
        (∃ query, c.query "eu.DE" = .ok query ∧ p.Address "countryCode" query) ∧
          c.provider.Puts "eu.DE" (Request.Addresses "countryCode" p) := by
  intro entry loads
  have hresolve : ((replay loads .empty).resolve "eu.DE").toOption.map
      (fun p => (p.name, p.latitude.isSome, p.longitude.isSome)) = some (some "DE", true, false) := by
    decide +kernel
  obtain ⟨p, h, hp⟩ := ok_of_toOption_map hresolve
  simp only [Prod.mk.injEq] at hp
  exact ⟨p, h, hp, Load.puts_of_resolve h⟩

end

end CarbonIntensity
