import CarbonIntensity.Proofs.Provider.Watch
import CarbonIntensity.Time.Instant
import Mathlib.Data.List.Dedup
import Mathlib.Data.List.Induction
import Mathlib.Data.List.Perm.Subperm

/-!
# Regions read through the cache

A ledger beside the cache keeps all that was ever stored and forgets nothing. While the clock does not
go back, nobody can tell the cache from the ledger: a region is found if and only if the latest deposit
for the place has not expired,

    cache.find? now place = (ledger.live? lifetime now key).map region      (find?_of_tracks)

because what the cache drops had expired by a reading of the clock in the past. What it holds right after
storing a region is that region and what has not expired (size_insert_le).
-/

namespace CarbonIntensity.RegionCache

/-- A region that was stored, under which key and when. -/
structure Deposit where
  key : RegionKey
  region : String
  stored : Instant
deriving DecidableEq

def Deposit.expiry (d : Deposit) (lifetime : Span) : Instant := d.stored.addOrLatest lifetime

/-- All that was ever stored, the latest first. -/
abbrev Ledger := List Deposit

namespace Ledger

def latest? (l : Ledger) (key : RegionKey) : Option Deposit := l.find? (·.key == key)

/-- The latest deposit for a key, if it has not expired. -/
def live? (l : Ledger) (lifetime : Span) (now : Instant) (key : RegionKey) : Option Deposit :=
  (l.latest? key).filter fun d => now < d.expiry lifetime

def liveKeys (l : Ledger) (lifetime : Span) (now : Instant) : List RegionKey :=
  (l.map (·.key)).dedup.filter fun key => (l.live? lifetime now key).isSome

end Ledger

/-- The cache knows the latest deposits but for some that had expired when the clock was read. -/
structure Tracks (lifetime : Span) (cache : RegionCache) (ledger : Ledger) (readings : List Instant) :
    Prop where
  sameLifetime : cache.lifetime = lifetime
  keys : (cache.entries.map Prod.fst).Nodup
  held : ∀ key e, cache.entries.lookup key = some e →
    ∃ d, ledger.latest? key = some d ∧ d.region = e.region ∧ d.expiry lifetime = e.expires
  dropped : ∀ key d, cache.entries.lookup key = none → ledger.latest? key = some d →
    ∃ r ∈ readings, d.expiry lifetime ≤ r

/-! ## Cache and ledger -/

section Tracks

variable {lifetime : Span} {cache : RegionCache} {ledger : Ledger} {readings : List Instant}

theorem latest?_cons (d : Deposit) (l : Ledger) (key : RegionKey) :
    Ledger.latest? (d :: l) key = if d.key = key then some d else l.latest? key := by
  unfold Ledger.latest?
  rw [List.find?_cons]
  by_cases h : d.key = key
  · rw [if_pos h, beq_iff_eq.mpr h]
  · rw [if_neg h, beq_eq_false_iff_ne.mpr h]

theorem tracks_empty (lifetime : Span) : Tracks lifetime (empty lifetime) [] [] where
  sameLifetime := rfl
  keys := List.nodup_nil
  held _ _ h := by cases h
  dropped _ _ _ h := by cases h

theorem Tracks.mono (h : Tracks lifetime cache ledger readings) {readings' : List Instant}
    (hsub : readings ⊆ readings') : Tracks lifetime cache ledger readings' where
  sameLifetime := h.sameLifetime
  keys := h.keys
  held := h.held
  dropped key d hnone hlatest := by
    obtain ⟨r, hr, hle⟩ := h.dropped key d hnone hlatest
    exact ⟨r, hsub hr, hle⟩

/-- If the clock was never ahead, the cache finds what is live in the ledger. -/
theorem find?_of_tracks (h : Tracks lifetime cache ledger readings) {now : Instant}
    (hlater : ∀ r ∈ readings, r ≤ now) (place : Coordinates) :
    cache.find? now place =
      (ledger.live? lifetime now (.ofCoordinates place)).map Deposit.region := by
  unfold find? Ledger.live?
  cases hlookup : cache.entries.lookup (RegionKey.ofCoordinates place) with
  | some e =>
    obtain ⟨d, hlatest, hregion, hexpiry⟩ := h.held _ _ hlookup
    rw [hlatest, Option.filter_some, hexpiry]
    by_cases hnow : now < e.expires
    · simp only [hnow, decide_true, if_true, Option.map_some, hregion]
    · simp only [hnow, decide_false, Bool.false_eq_true, if_false, Option.map_none]
  | none =>
    cases hlatest : ledger.latest? (RegionKey.ofCoordinates place) with
    | none => rfl
    | some d =>
      obtain ⟨r, hr, hle⟩ := h.dropped _ _ hlookup hlatest
      have hexpired : ¬now < d.expiry lifetime := by
        have hlate := hlater r hr
        rw [Instant.le_def] at hle hlate
        rw [Instant.lt_def]
        omega
      rw [Option.filter_some, decide_eq_false hexpired]
      rfl

/-- What is looked up after storing a region: that region, or what has not expired by then. -/
theorem lookup_insert (h : (cache.entries.map Prod.fst).Nodup) (now : Instant) (place : Coordinates)
    (region : String) (key : RegionKey) :
    (cache.insert now place region).entries.lookup key =
      if key = .ofCoordinates place then some ⟨region, cache.expiry now⟩
      else (cache.entries.lookup key).filter fun e => now < e.expires := by
  unfold insert
  rw [Assoc.lookup_put, Assoc.lookup_filter h]
  by_cases hkey : key = .ofCoordinates place
  · rw [if_pos (beq_iff_eq.mpr hkey), if_pos hkey]
  · rw [if_neg (mt beq_iff_eq.mp hkey), if_neg hkey]

theorem nodup_keys_insert (h : (cache.entries.map Prod.fst).Nodup) (now : Instant)
    (place : Coordinates) (region : String) :
    ((cache.insert now place region).entries.map Prod.fst).Nodup :=
  Assoc.nodup_keys_put _ _ (h.sublist (List.filter_sublist.map _))

/-- Storing a region is a deposit. What the cache drops has expired by this reading of the clock. -/
theorem tracks_insert (h : Tracks lifetime cache ledger readings) {now : Instant}
    (hnow : now ∈ readings) (place : Coordinates) (region : String) :
    Tracks lifetime (cache.insert now place region) (⟨.ofCoordinates place, region, now⟩ :: ledger)
      readings where
  sameLifetime := h.sameLifetime
  keys := nodup_keys_insert h.keys now place region
  held key e hlookup := by
    rw [lookup_insert h.keys] at hlookup
    rw [latest?_cons]
    by_cases hkey : key = .ofCoordinates place
    · rw [if_pos hkey] at hlookup
      obtain rfl := Option.some.inj hlookup
      refine ⟨_, if_pos hkey.symm, rfl, ?_⟩
      show now.addOrLatest lifetime = now.addOrLatest cache.lifetime
      rw [h.sameLifetime]
    · rw [if_neg hkey, Option.filter_eq_some_iff] at hlookup
      obtain ⟨d, hlatest, hsame⟩ := h.held key e hlookup.1
      exact ⟨d, by rw [if_neg (Ne.symm hkey), hlatest], hsame⟩
  dropped key d hlookup hlatest := by
    rw [lookup_insert h.keys] at hlookup
    rw [latest?_cons] at hlatest
    by_cases hkey : key = .ofCoordinates place
    · rw [if_pos hkey] at hlookup
      cases hlookup
    · rw [if_neg hkey] at hlookup
      rw [if_neg (Ne.symm hkey)] at hlatest
      cases hbefore : cache.entries.lookup key with
      | none => exact h.dropped key d hbefore hlatest
      | some e =>
        obtain ⟨d', hlatest', -, hexpiry⟩ := h.held key e hbefore
        obtain rfl := Option.some.inj (hlatest'.symm.trans hlatest)
        rw [hbefore, Option.filter_eq_none_iff] at hlookup
        have hexpired := hlookup e rfl
        refine ⟨now, hnow, ?_⟩
        rw [decide_eq_true_iff, Instant.lt_def] at hexpired
        rw [hexpiry, Instant.le_def]
        omega

/-- Right after storing a region, the cache holds at most one place more than those whose latest
deposit has not expired. -/
theorem size_insert_le (h : Tracks lifetime cache ledger readings) (now : Instant)
    (place : Coordinates) (region : String) :
    (cache.insert now place region).size ≤
      (Ledger.liveKeys (⟨.ofCoordinates place, region, now⟩ :: ledger) lifetime now).length + 1 := by
  have hnodup := nodup_keys_insert h.keys now place region
  have hsubset : (cache.insert now place region).entries.map Prod.fst ⊆
      .ofCoordinates place ::
        Ledger.liveKeys (⟨.ofCoordinates place, region, now⟩ :: ledger) lifetime now := by
    intro key hmem
    obtain ⟨⟨key, e⟩, hentry, rfl⟩ := List.mem_map.mp hmem
    by_cases hkey : key = .ofCoordinates place
    · rw [hkey]
      exact List.mem_cons_self
    · refine List.mem_cons_of_mem _ ?_
      have hlookup := (Assoc.lookup_eq_some_iff_mem hnodup key e).mpr hentry
      rw [lookup_insert h.keys, if_neg hkey, Option.filter_eq_some_iff] at hlookup
      obtain ⟨d, hlatest, -, hexpiry⟩ := h.held key e hlookup.1
      have hlatest' : Ledger.latest? (⟨.ofCoordinates place, region, now⟩ :: ledger) key = some d := by
        rw [latest?_cons, if_neg (Ne.symm hkey), hlatest]
      unfold Ledger.liveKeys Ledger.live?
      rw [List.mem_filter, List.mem_dedup, hlatest', Option.filter_some, hexpiry, if_pos hlookup.2]
      refine ⟨?_, rfl⟩
      have hfind := hlatest'
      unfold Ledger.latest? at hfind
      exact List.mem_map.mpr ⟨d, List.mem_of_find?_eq_some hfind, by simpa using List.find?_some hfind⟩
  have hlength := (List.subperm_of_subset hnodup hsubset).length_le
  rw [List.length_map, List.length_cons] at hlength
  exact hlength

end Tracks

/-! ## Runs -/

/-- What happens to a cache in a world: a region is looked up, stored, or looked up and else resolved
and stored; or the world goes on, with its clock. -/
inductive Step (σ : Type) where
  | find (place : Coordinates)
  | insert (place : Coordinates) (region : String)
  | resolve (place : Coordinates) (ask : Work Failure σ String)
  | change (f : σ → σ)

/-- The world and the cache, beside the ledger and what the clock was read as, the first reading
first. -/
structure Watched (σ : Type) where
  world : σ
  cache : RegionCache
  ledger : Ledger
  readings : List Instant

section Runs

variable {σ : Type} (now : σ → Instant) (lifetime : Span)

def cacheSlot : Slot (σ × RegionCache) RegionCache := ⟨Prod.snd, fun c x => (x.1, c)⟩

/-- A region read through the cache. Its resolver works on the world. -/
def resolve (place : Coordinates) (ask : Work Failure σ String) :
    Work Failure (σ × RegionCache) String :=
  readThrough cacheSlot (fun x => now x.1) place (Work.within Slot.beside ask)

/-- The ledger after a region was resolved, and the readings of the clock: a region that is live is not
asked for, and of an answer there is a deposit. -/
def Ledger.resolved (l : Ledger) (place : Coordinates) (ask : Work Failure σ String) (s : σ) :
    Ledger × List Instant :=
  match l.live? lifetime (now s) (.ofCoordinates place) with
  | some _ => (l, [now s])
  | none =>
    match ask.start s with
    | (.ok region, t) => (⟨.ofCoordinates place, region, now t⟩ :: l, [now s, now t])
    | (.error _, _) => (l, [now s])

def next (w : Watched σ) : Step σ → Watched σ
  | .find _ => { w with readings := w.readings ++ [now w.world] }
  | .insert place region =>
    { w with
      cache := w.cache.insert (now w.world) place region
      ledger := ⟨.ofCoordinates place, region, now w.world⟩ :: w.ledger
      readings := w.readings ++ [now w.world] }
  | .resolve place ask =>
    let after := ((resolve now place ask).start (w.world, w.cache)).2
    let noted := w.ledger.resolved now lifetime place ask w.world
    ⟨after.1, after.2, noted.1, w.readings ++ noted.2⟩
  | .change f => { w with world := f w.world }

/-- A run in a world, with nothing stored. -/
def run (start : σ) (steps : List (Step σ)) : Watched σ :=
  steps.foldl (next now lifetime) ⟨start, empty lifetime, [], []⟩

/-- A region that is found is the answer and the resolver is not asked. Otherwise it is asked once, and
what it answers is stored. -/
theorem start_resolve_of_find (s : σ) (cache : RegionCache) (place : Coordinates)
    (ask : Work Failure σ String) :
    (resolve now place ask).start (s, cache) =
      match cache.find? (now s) place with
      | some region => (.ok region, s, cache)
      | none =>
        match ask.start s with
        | (.ok region, t) => (.ok region, t, cache.insert (now t) place region)
        | (.error e, t) => (.error e, t, cache) := by
  unfold resolve readThrough
  rw [Work.start_of]
  have hget : (cacheSlot (σ := σ)).get (s, cache) = cache := rfl
  rw [hget]
  cases cache.find? (now s) place with
  | some region => rfl
  | none =>
    rw [Work.start_within]
    have hbeside : (Slot.beside (ρ := RegionCache)).get (s, cache) = s := rfl
    rw [hbeside]
    rcases ask.start s with ⟨e | region, t⟩
    · rfl
    · rfl

/-- While the clock does not go back, what is found is what is live. -/
theorem start_resolve {cache : RegionCache} {ledger : Ledger} {readings : List Instant}
    (h : Tracks lifetime cache ledger readings) (s : σ) (hlater : ∀ r ∈ readings, r ≤ now s)
    (place : Coordinates) (ask : Work Failure σ String) :
    (resolve now place ask).start (s, cache) =
      match ledger.live? lifetime (now s) (.ofCoordinates place) with
      | some d => (.ok d.region, s, cache)
      | none =>
        match ask.start s with
        | (.ok region, t) => (.ok region, t, cache.insert (now t) place region)
        | (.error e, t) => (.error e, t, cache) := by
  rw [start_resolve_of_find, find?_of_tracks h hlater place]
  cases ledger.live? lifetime (now s) (.ofCoordinates place) with
  | some d => rfl
  | none => rfl

theorem tracks_next {w : Watched σ} (h : Tracks lifetime w.cache w.ledger w.readings) (e : Step σ)
    (hforward : (next now lifetime w e).readings.Pairwise (· ≤ ·)) :
    Tracks lifetime (next now lifetime w e).cache (next now lifetime w e).ledger
      (next now lifetime w e).readings := by
  cases e with
  | change f => exact h
  | find place => exact h.mono (List.subset_append_left _ _)
  | insert place region =>
    exact tracks_insert (h.mono (List.subset_append_left _ _))
      (List.mem_append_right _ (List.mem_singleton_self _)) place region
  | resolve place ask =>
    have hlater : ∀ r ∈ w.readings, r ≤ now w.world := by
      intro r hr
      refine (List.pairwise_append.mp hforward).2.2 r hr _ ?_
      unfold Ledger.resolved
      split
      · exact List.mem_cons_self
      · split
        · exact List.mem_cons_self
        · exact List.mem_cons_self
    show Tracks lifetime ((resolve now place ask).start (w.world, w.cache)).2.2
      (w.ledger.resolved now lifetime place ask w.world).1
      (w.readings ++ (w.ledger.resolved now lifetime place ask w.world).2)
    rw [start_resolve now lifetime h w.world hlater]
    unfold Ledger.resolved
    cases w.ledger.live? lifetime (now w.world) (.ofCoordinates place) with
    | some d => exact h.mono (List.subset_append_left _ _)
    | none =>
      rcases ask.start w.world with ⟨e | region, t⟩
      · exact h.mono (List.subset_append_left _ _)
      · refine tracks_insert (h.mono (List.subset_append_left _ _)) ?_ place region
        exact List.mem_append_right _ (List.mem_cons_of_mem _ List.mem_cons_self)

/-- A step reads the clock after all readings before it. -/
theorem readings_next (w : Watched σ) (e : Step σ) :
    ∃ new, (next now lifetime w e).readings = w.readings ++ new := by
  cases e with
  | change f => exact ⟨[], (List.append_nil _).symm⟩
  | find place => exact ⟨_, rfl⟩
  | insert place region => exact ⟨_, rfl⟩
  | resolve place ask => exact ⟨_, rfl⟩

theorem tracks_run (start : σ) (steps : List (Step σ))
    (hforward : (run now lifetime start steps).readings.Pairwise (· ≤ ·)) :
    Tracks lifetime (run now lifetime start steps).cache (run now lifetime start steps).ledger
      (run now lifetime start steps).readings := by
  induction steps using List.reverseRecOn with
  | nil => exact tracks_empty lifetime
  | append_singleton steps e ih =>
    unfold run at hforward ih ⊢
    rw [List.foldl_append, List.foldl_cons, List.foldl_nil] at hforward ⊢
    obtain ⟨new, hnew⟩ := readings_next now lifetime (steps.foldl (next now lifetime) _) e
    have hbefore := hforward
    rw [hnew] at hbefore
    exact tracks_next now lifetime (ih (List.pairwise_append.mp hbefore).1) e hforward

/-- **Nobody can tell that regions are forgotten.** After every run under a clock that does not go back,
a region is found if and only if the latest deposit for the place has not expired, and it is the region
of that deposit. The resolver is asked exactly where none is found; what it answers is stored, and if it
fails the cache stays as it is. Right after a region is stored, by whatever clock, there are at most as
many entries as keys that have not expired, and one more. -/
theorem run_forgets_nothing (start : σ) (steps : List (Step σ))
    (hforward : ((run now lifetime start steps).readings ++
      [now (run now lifetime start steps).world]).Pairwise (· ≤ ·)) (place : Coordinates) :
    let w := run now lifetime start steps
    let key := RegionKey.ofCoordinates place
    (∀ region, w.cache.find? (now w.world) place = some region ↔
      ∃ d, w.ledger.latest? key = some d ∧ now w.world < d.stored.addOrLatest lifetime ∧
        d.region = region) ∧
      (∀ ask, (resolve now place ask).start (w.world, w.cache) =
        match w.ledger.live? lifetime (now w.world) key with
        | some d => (.ok d.region, w.world, w.cache)
        | none =>
          match ask.start w.world with
          | (.ok region, t) => (.ok region, t, w.cache.insert (now t) place region)
          | (.error e, t) => (.error e, t, w.cache)) ∧
      ∀ t region, (w.cache.insert t place region).size ≤
        (Ledger.liveKeys (⟨key, region, t⟩ :: w.ledger) lifetime t).length + 1 := by
  intro w key
  obtain ⟨hbefore, -, hlast⟩ := List.pairwise_append.mp hforward
  have htracks := tracks_run now lifetime start steps hbefore
  have hlater : ∀ r ∈ w.readings, r ≤ now w.world := fun r hr =>
    hlast r hr _ (List.mem_singleton_self _)
  refine ⟨fun region => ?_, fun ask => ?_, fun t region => ?_⟩
  · rw [find?_of_tracks htracks hlater place, Option.map_eq_some_iff]
    unfold Ledger.live?
    constructor
    · rintro ⟨d, hlive, hregion⟩
      rw [Option.filter_eq_some_iff, decide_eq_true_iff] at hlive
      exact ⟨d, hlive.1, hlive.2, hregion⟩
    · rintro ⟨d, hlatest, hnow, hregion⟩
      exact ⟨d, Option.filter_eq_some_iff.mpr ⟨hlatest, decide_eq_true hnow⟩, hregion⟩
  · exact start_resolve now lifetime htracks w.world hlater place ask
  · exact size_insert_le htracks t place region

end Runs

/-- Regions are remembered for an hour. Of three, the first is dropped when the third is stored an hour
later, and the second is found. -/
theorem run_forgets_nothing_after_an_hour :
    let berlin : Coordinates := ⟨52.5, 13.4⟩
    let paris : Coordinates := ⟨48.9, 2.4⟩
    let accra : Coordinates := ⟨5.6, -0.2⟩
    let steps : List (Step Clock) :=
      [.insert berlin "DE", .change fun c => c.advance (Span.minutes 40), .resolve paris (pure "FR"),
        .change fun c => c.advance (Span.minutes 20), .insert accra "GH"]
    let w := run Clock.now (Span.minutes 60) ⟨0⟩ steps
    (w.readings ++ [w.world.now]).Pairwise (· ≤ ·) ∧ w.ledger.length = 3 ∧ w.cache.size = 2 ∧
      w.cache.find? w.world.now paris = some "FR" := by
  intro berlin paris accra steps w
  have hforward : (w.readings ++ [w.world.now]).Pairwise (· ≤ ·) := by decide +kernel
  obtain ⟨hfound, -, -⟩ :=
    run_forgets_nothing Clock.now (Span.minutes 60) ⟨0⟩ steps hforward paris
  refine ⟨hforward, by decide +kernel, by decide +kernel, (hfound "FR").mpr ?_⟩
  exact ⟨⟨.ofCoordinates paris, "FR", Instant.epoch.addOrLatest (Span.minutes 40)⟩, by decide +kernel,
    by decide +kernel, rfl⟩

end CarbonIntensity.RegionCache
