import CarbonIntensity.Location.Position
import CarbonIntensity.Proofs.Number.Rounding
import CarbonIntensity.Proofs.Provider.RegionCache

/-!
# Places with one key

The cache tells places apart by their coordinates in whole ten thousandths, as 64-bit numbers. Coordinates
with the same key are at most one ten thousandth apart,

    tenThousandths x = tenThousandths y → Alike x y       (alike_of_tenThousandths_eq)

but for those so far out that whole numbers of ten thousandths are not told apart any more or are out of
range, and but for what is no number, which has the key of zero. A region is found only at places like the
one that it was stored for (run_finds_alike).
-/

namespace CarbonIntensity

/-! ## Coordinates with one key -/

namespace RegionKey

open CarbonIntensity.Dyadic

/-- A coordinate in ten thousandths, as keys hold it. -/
def tenThousandths (x : Float) : ℤ := (ofFloat (x * 10000.0)).nearestInt64

theorem ofCoordinates_eq (c : Coordinates) :
    ofCoordinates c = ⟨tenThousandths c.latitude, tenThousandths c.longitude⟩ :=
  rfl

/-- Equal, or at most a ten thousandth apart. -/
def Close (x y : Float) : Prop :=
  x == y ∨ ∃ v w, (ofFloat x).value? = some v ∧ (ofFloat y).value? = some w ∧ |v - w| ≤ 1 / 10000

/-- So far out, on one side, that ten thousandths have no halves among floats. -/
def Far (negative : Bool) (x : Float) : Prop :=
  ofFloat x = infinite negative ∨
    ∃ m q, ofFloat x = finite negative m q ∧ 450359962737 ≤ (m : ℚ) * 2 ^ q

/-- No number, or at most half a ten thousandth from zero. -/
def Nought (x : Float) : Prop :=
  ofFloat x = nan ∨ ∃ v, (ofFloat x).value? = some v ∧ |v| ≤ 1 / 20000

/-- What coordinates with one key have in common. -/
def Alike (x y : Float) : Prop :=
  Close x y ∨ (∃ negative, Far negative x ∧ Far negative y) ∨
    (ofFloat x = nan ∨ ofFloat y = nan) ∧ Nought x ∧ Nought y

/-- A magnitude whose product with ten thousand is a float with halves, and the whole number next to that
float. -/
structure Kept (a : ℚ) (n : ℕ) : Prop where
  nonneg : 0 ≤ a
  rounded : ∃ v t, Rounds (a * 10000) v t ∧ t ≤ -1 ∧ (n : ℚ) - 1 / 2 ≤ v ∧ v < n + 1 / 2

theorem Kept.sub_le {a b : ℚ} {n : ℕ} (ha : Kept a n) (hb : Kept b n) (hle : a ≤ b) :
    b - a ≤ 1 / 10000 := by
  obtain ⟨v, t, hround, -, hv, -⟩ := ha.rounded
  obtain ⟨v', t', hround', ht', -, hv'⟩ := hb.rounded
  have := hround.sub_le_one hround' (by linarith) ht' hv hv'
  linarith

theorem Kept.abs_sub_le {a b : ℚ} {n : ℕ} (ha : Kept a n) (hb : Kept b n) : |a - b| ≤ 1 / 10000 := by
  rcases le_total a b with hle | hle
  · rw [abs_sub_comm, abs_of_nonneg (sub_nonneg.mpr hle)]
    exact ha.sub_le hb hle
  · rw [abs_of_nonneg (sub_nonneg.mpr hle)]
    exact hb.sub_le ha hle

theorem Kept.le_of_zero {a : ℚ} (h : Kept a 0) : a ≤ 1 / 20000 := by
  obtain ⟨v, t, hround, ht, -, hv⟩ := h.rounded
  have hstep : (0 : ℚ) < 2 ^ t := zpow_pos two_pos t
  have := hround.le_half ht hv
  rw [Nat.cast_zero] at this
  linarith

/-- What is known of a coordinate with a key. -/
inductive Keyed (x : Float) (key : ℤ) : Prop where
  | nan (hx : ofFloat x = .nan) (hkey : key = 0)
  | far {negative : Bool} (hx : Far negative x) (hkey : Beyond negative key)
  | near {negative : Bool} {a : ℚ} {n : ℕ} (hx : (ofFloat x).value? = some (signed negative a))
    (hn : n < 2 ^ 52) (hkey : key = if negative then -(n : ℤ) else n) (hkept : Kept a n)

theorem keyed_tenThousandths (x : Float) : Keyed x (tenThousandths x) := by
  have hunit : (10000.0 : Float).toModel.unpack = .finite .positive (10000 * 2 ^ 39) (-39) (by decide) :=
    rfl
  unfold tenThousandths
  cases hx : ofFloat x with
  | nan =>
    rw [mul_nan hx]
    exact .nan hx rfl
  | infinite negative =>
    rw [mul_infinite hx hunit]
    exact .far (.inl hx) (beyond_infinite negative)
  | finite negative m q =>
    obtain ⟨v, t, hround, hholds⟩ := mul_of_normal hx hunit (by decide)
    have hvalue : (m : ℚ) * 2 ^ q * ((10000 * 2 ^ 39 : ℕ) * 2 ^ (-39 : ℤ)) = m * 2 ^ q * 10000 := by
      norm_num
    rw [hvalue] at hround
    by_cases hv : v < 2 ^ 52 - 1 / 2
    · obtain ⟨n, hn, hkey, hlow, hhigh⟩ := nearestInt64_of_lt hholds hv
      have hnonneg : (0 : ℚ) ≤ m * 2 ^ q := mul_nonneg (Nat.cast_nonneg m) (zpow_nonneg two_pos.le q)
      have hsigned : (ofFloat x).value? = some (signed negative (m * 2 ^ q)) := by
        rw [hx]
        rfl
      exact .near hsigned hn hkey ⟨hnonneg, v, t, hround, hround.exponent_neg hv, hlow, hhigh⟩
    · have hlarge := hround.large (not_lt.mp hv)
      refine .far (.inr ⟨m, q, hx, ?_⟩) (beyond_of_le hholds (not_lt.mp hv))
      norm_num at hlarge
      linarith

theorem natAbs_ite_neg (negative : Bool) (n : ℕ) : (if negative then -(n : ℤ) else n).natAbs = n := by
  split
  · rw [Int.natAbs_neg, Int.natAbs_natCast]
  · rw [Int.natAbs_natCast]

theorem Keyed.nought {x : Float} (h : Keyed x 0) : Nought x := by
  cases h with
  | nan hx _ => exact .inl hx
  | far _ hkey =>
    have := hkey.le_natAbs
    rw [Int.natAbs_zero] at this
    omega
  | @near negative a n hx _ hkey hkept =>
    have hn := natAbs_ite_neg negative n
    rw [← hkey, Int.natAbs_zero] at hn
    subst hn
    refine .inr ⟨_, hx, ?_⟩
    rw [abs_signed negative hkept.nonneg]
    exact hkept.le_of_zero

/-- On both sides of zero, what is kept as the same number with sign is a ten thousandth apart. -/
theorem Kept.abs_signed_sub_le {negative negative' : Bool} {a b : ℚ} {n n' : ℕ} (ha : Kept a n)
    (hb : Kept b n') (h : (if negative then -(n : ℤ) else n) = if negative' then -(n' : ℤ) else n') :
    |signed negative a - signed negative' b| ≤ 1 / 10000 := by
  have hn := natAbs_ite_neg negative n
  rw [h, natAbs_ite_neg] at hn
  subst hn
  have hdist := ha.abs_sub_le hb
  by_cases hsame : negative = negative'
  · subst hsame
    unfold signed
    split
    · rw [neg_sub_neg, abs_sub_comm]
      exact hdist
    · exact hdist
  · -- only zero has two signs
    obtain rfl : negative' = !negative := Bool.eq_not.mpr (Ne.symm hsame)
    obtain rfl : n' = 0 := by
      cases negative <;>
        simp only [Bool.not_true, Bool.not_false, if_true, Bool.false_eq_true, if_false] at h <;> omega
    have := ha.nonneg
    have := ha.le_of_zero
    have := hb.nonneg
    have := hb.le_of_zero
    unfold signed
    rw [abs_le]
    constructor <;> split <;> split <;> linarith

/-- Coordinates with the same key are alike. -/
theorem alike_of_tenThousandths_eq {x y : Float} (h : tenThousandths x = tenThousandths y) :
    Alike x y := by
  have hx := keyed_tenThousandths x
  have hy := keyed_tenThousandths y
  rw [← h] at hy
  generalize tenThousandths x = key at hx hy
  cases hx with
  | nan hnan hkey =>
    subst hkey
    exact .inr (.inr ⟨.inl hnan, .inl hnan, hy.nought⟩)
  | far hfar hkey =>
    cases hy with
    | nan _ hkey' =>
      subst hkey'
      exact absurd hkey.le_natAbs (by decide)
    | far hfar' hkey' =>
      obtain rfl := hkey.negative_eq.trans hkey'.negative_eq.symm
      exact .inr (.inl ⟨_, hfar, hfar'⟩)
    | near _ hn hkey' _ =>
      have := hkey.le_natAbs
      rw [hkey', natAbs_ite_neg] at this
      omega
  | near hvalue hn hkey hkept =>
    cases hy with
    | nan hnan hkey' =>
      subst hkey'
      exact .inr (.inr ⟨.inr hnan, (Keyed.near hvalue hn hkey hkept).nought, .inl hnan⟩)
    | far _ hkey' =>
      have := hkey'.le_natAbs
      rw [hkey, natAbs_ite_neg] at this
      omega
    | near hvalue' _ hkey' hkept' =>
      exact .inl (.inr ⟨_, _, hvalue, hvalue', hkept.abs_signed_sub_le hkept' (hkey.symm.trans hkey')⟩)

end RegionKey

/-! ## Regions -/

namespace RegionCache

open RegionKey

/-- The cache without what has expired. -/
def live (c : RegionCache) (now : Instant) : RegionCache :=
  { c with entries := c.entries.filter fun e => now < e.2.expires }

theorem find?_insert_self (c : RegionCache) {now later : Instant} (h : later < c.expiry now)
    (place : Coordinates) (region : String) :
    (c.insert now place region).find? later place = some region := by
  unfold find? insert
  dsimp only
  rw [Assoc.lookup_put, if_pos (beq_self_eq_true _)]
  exact if_pos h

/-- Where coordinates are not alike, nobody can tell that a region is stored, but for what is dropped. -/
theorem find?_insert_of_not_alike (c : RegionCache) (now later : Instant) {p q : Coordinates}
    (h : ¬(Alike p.latitude q.latitude ∧ Alike p.longitude q.longitude)) (region : String) :
    (c.insert now p region).find? later q = (c.live now).find? later q := by
  have hkey : (RegionKey.ofCoordinates q == RegionKey.ofCoordinates p) = false := by
    rw [beq_eq_false_iff_ne, ofCoordinates_eq, ofCoordinates_eq]
    intro heq
    obtain ⟨hlatitude, hlongitude⟩ := RegionKey.mk.inj heq
    exact h ⟨alike_of_tenThousandths_eq hlatitude.symm, alike_of_tenThousandths_eq hlongitude.symm⟩
  unfold find? insert live
  dsimp only
  rw [Assoc.lookup_put, hkey]
  rfl

/-- What a step stores in a cache: the place, the region and when. -/
def Step.stores? {σ : Type} (now : σ → Instant) (w : Watched σ) :
    Step σ → Option (Coordinates × String × Instant)
  | .insert place region => some (place, region, now w.world)
  | .resolve place ask =>
    match w.cache.find? (now w.world) place, ask.start w.world with
    | none, (.ok region, t) => some (place, region, now t)
    | _, _ => none
  | _ => none

section Runs

variable {σ : Type} (now : σ → Instant) (lifetime : Span)

theorem cache_next (w : Watched σ) (e : Step σ) :
    (next now lifetime w e).cache =
      match e.stores? now w with
      | some (place, region, t) => w.cache.insert t place region
      | none => w.cache := by
  cases e with
  | find place => rfl
  | insert place region => rfl
  | change f => rfl
  | resolve place ask =>
    show ((resolve now place ask).start (w.world, w.cache)).2.2 = _
    rw [start_resolve_of_find]
    unfold Step.stores?
    dsimp only
    cases w.cache.find? (now w.world) place with
    | some region => rfl
    | none =>
      rcases ask.start w.world with ⟨e | region, t⟩
      · rfl
      · rfl

/-- A step of the run stored the region for the place. -/
def StoredFor (start : σ) (steps : List (Step σ)) (place : Coordinates) (region : String) : Prop :=
  ∃ before e after t, steps = before ++ e :: after ∧
    e.stores? now (run now lifetime start before) = some (place, region, t)

theorem StoredFor.concat {start : σ} {steps : List (Step σ)} {place : Coordinates} {region : String}
    (h : StoredFor now lifetime start steps place region) (e : Step σ) :
    StoredFor now lifetime start (steps ++ [e]) place region := by
  obtain ⟨before, e', after, t, rfl, hstores⟩ := h
  exact ⟨before, e', after ++ [e], t, List.append_assoc _ _ _, hstores⟩

/-- Keys stand once and every entry was stored for a place with its key. -/
theorem storedFor_of_lookup (start : σ) (steps : List (Step σ)) :
    ((run now lifetime start steps).cache.entries.map Prod.fst).Nodup ∧
      ∀ key e, (run now lifetime start steps).cache.entries.lookup key = some e →
        ∃ place, StoredFor now lifetime start steps place e.region ∧ key = .ofCoordinates place := by
  induction steps using List.reverseRecOn with
  | nil => exact ⟨List.nodup_nil, fun _ _ h => by cases h⟩
  | append_singleton steps step ih =>
    have hrun : run now lifetime start (steps ++ [step]) =
        next now lifetime (run now lifetime start steps) step := by
      unfold run
      rw [List.foldl_append]
      rfl
    obtain ⟨hkeys, hbefore⟩ := ih
    rw [hrun, cache_next]
    cases hstores : step.stores? now (run now lifetime start steps) with
    | none =>
      refine ⟨hkeys, fun key e hlookup => ?_⟩
      obtain ⟨place, hstored, hkey⟩ := hbefore key e hlookup
      exact ⟨place, hstored.concat now lifetime step, hkey⟩
    | some stored =>
      obtain ⟨place, region, t⟩ := stored
      refine ⟨nodup_keys_insert hkeys t place region, fun key e hlookup => ?_⟩
      rw [lookup_insert hkeys] at hlookup
      by_cases hkey : key = .ofCoordinates place
      · rw [if_pos hkey] at hlookup
        obtain rfl := Option.some.inj hlookup
        exact ⟨place, ⟨steps, step, [], t, rfl, hstores⟩, hkey⟩
      · rw [if_neg hkey, Option.filter_eq_some_iff] at hlookup
        obtain ⟨place', hstored, hkey'⟩ := hbefore key e hlookup.1
        exact ⟨place', hstored.concat now lifetime step, hkey'⟩

/-- **A region is found near the place it was stored for.** After every run, under any clock, a region that
is found for a place was stored by a step of the run, for a place with alike coordinates: they are equal or
at most a ten thousandth apart, but for those of 450359962737 degrees and more on one side, and for those
that are no number, which are taken for zero. A region that is stored in any cache is found for its place
until it expires, and for places that are not alike nothing changes. -/
theorem run_finds_alike (start : σ) (steps : List (Step σ)) (later : Instant) (q : Coordinates) :
    (∀ region, (run now lifetime start steps).cache.find? later q = some region →
      ∃ p, StoredFor now lifetime start steps p region ∧ Alike p.latitude q.latitude ∧
        Alike p.longitude q.longitude) ∧
      ∀ (c : RegionCache) (t : Instant) (p : Coordinates) (region : String),
        (later < c.expiry t → (c.insert t p region).find? later p = some region) ∧
          (Alike p.latitude q.latitude ∧ Alike p.longitude q.longitude ∨
            (c.insert t p region).find? later q = (c.live t).find? later q) := by
  constructor
  · intro region hfound
    obtain ⟨-, hstored⟩ := storedFor_of_lookup now lifetime start steps
    unfold find? at hfound
    split at hfound
    · next e hlookup =>
      obtain ⟨p, hp, hkey⟩ := hstored _ e hlookup
      split at hfound
      · obtain rfl := Option.some.inj hfound
        obtain ⟨hlatitude, hlongitude⟩ := RegionKey.mk.inj hkey
        exact ⟨p, hp, alike_of_tenThousandths_eq hlatitude.symm,
          alike_of_tenThousandths_eq hlongitude.symm⟩
      · cases hfound
    · cases hfound
  · intro c t p region
    refine ⟨fun h => find?_insert_self c h p region, ?_⟩
    by_cases h : Alike p.latitude q.latitude ∧ Alike p.longitude q.longitude
    · exact .inl h
    · exact .inr (find?_insert_of_not_alike c t later h region)

end Runs

/-- A region is stored for a place in Berlin and found four meters from it. -/
theorem run_finds_alike_four_meters :
    let berlin : Coordinates := ⟨52.52, 13.405⟩
    let nearby : Coordinates := ⟨52.52004, 13.40496⟩
    let steps : List (Step Clock) := [.insert berlin "DE", .change fun c => c.advance (Span.minutes 20)]
    let w := run Clock.now (Span.minutes 60) ⟨0⟩ steps
    w.cache.find? w.world.now nearby = some "DE" ∧
      ∃ p, StoredFor Clock.now (Span.minutes 60) ⟨0⟩ steps p "DE" ∧ Alike p.latitude nearby.latitude ∧
        Alike p.longitude nearby.longitude := by
  intro berlin nearby steps w
  have hfound : w.cache.find? w.world.now nearby = some "DE" := by decide +kernel
  exact ⟨hfound,
    (run_finds_alike Clock.now (Span.minutes 60) ⟨0⟩ steps w.world.now nearby).1 "DE" hfound⟩

/-- A coordinate may be read as no number. The region of the place at zero is found there, which is not
close to it. -/
theorem find?_no_number :
    let zero : Coordinates := ⟨0.0, 0.0⟩
    let cache := (empty (Span.minutes 60)).insert Instant.epoch zero "GH"
    ∃ x, Position.coordinateOfJson? (.string "nan") = some (some x) ∧
      cache.find? Instant.epoch ⟨x, x⟩ = some "GH" ∧ ¬Close zero.latitude x ∧ ¬Close zero.longitude x := by
  intro zero cache
  have hread : ((Position.coordinateOfJson? (.string "nan")).map fun x? => x?.map fun x =>
      (Dyadic.ofFloat x, 0.0 == x, cache.find? Instant.epoch ⟨x, x⟩)) =
      some (some (.nan, false, some "GH")) := by
    decide +kernel
  rw [Option.map_eq_some_iff] at hread
  obtain ⟨x?, hjson, hread⟩ := hread
  rw [Option.map_eq_some_iff] at hread
  obtain ⟨x, rfl, hread⟩ := hread
  obtain ⟨hnan, hread⟩ := Prod.mk.inj hread
  obtain ⟨hne, hfound⟩ := Prod.mk.inj hread
  have hfar : ¬Close 0.0 x := by
    rintro (heq | ⟨_, _, -, hvalue, -⟩)
    · rw [hne] at heq
      cases heq
    · rw [hnan] at hvalue
      cases hvalue
  exact ⟨x, hjson, hfound, hfar, hfar⟩

end RegionCache

end CarbonIntensity
