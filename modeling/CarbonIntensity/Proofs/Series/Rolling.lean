import CarbonIntensity.Proofs.Lists
import CarbonIntensity.Proofs.Time.Instant
import CarbonIntensity.Series.Rolling
import Mathlib.Algebra.Order.BigOperators.Group.List
import Mathlib.Algebra.Order.Ring.Int

/-!
# Rolling windows

The windows of a grid start at the asked instant or later, one after another, and stop by the limit.
Where no leap second is involved each of them lasts for the asked size. What `rolling` gives out are
windows of such a grid:

    rolling w series = .ok windows → s ∈ windows →
      s.duration = w.size ∧ start ≤ s.start ∧ s.start + w.size ≤ stop      (mem_rolling)

Milliseconds are not negative, so that no sum on the way is larger than the last one. A window has a mean
exactly if the sum of its milliseconds fits into 64 bits, and this mean is the one of the exact sum. One
window that has no mean leaves the whole grid without result (filterMapM_window).
-/

namespace CarbonIntensity

/-! ## Milliseconds in 64 bits -/

namespace Weight

/-- The mean weighted by milliseconds, these added up without bounds. -/
def exactMean (ws : List Weight) : Float :=
  ws.foldl (fun sum w => sum + w.product) 0.0 / Float.ofInt (ws.map Weight.millis).sum

variable {ws : List Weight}

theorem sum_millis_nonneg (hws : ∀ w ∈ ws, 0 ≤ w.millis) : 0 ≤ (ws.map Weight.millis).sum := by
  apply List.sum_nonneg
  intro millis hmillis
  obtain ⟨w, hw, rfl⟩ := List.mem_map.mp hmillis
  exact hws w hw

theorem totalMillis?_eq (hws : ∀ w ∈ ws, 0 ≤ w.millis) :
    totalMillis? ws = Integer.inWord? (ws.map Weight.millis).sum := by
  -- From any sum so far that fits.
  have key : ∀ (ws : List Weight) (total : Int), (∀ w ∈ ws, 0 ≤ w.millis) → 0 ≤ total → total < twoTo 63 →
      ws.foldlM (fun total w => Integer.inWord? (total + w.millis)) total =
        Integer.inWord? (total + (ws.map Weight.millis).sum) := by
    intro ws
    induction ws with
    | nil =>
      intro total _ hnonneg hlt
      rw [List.map_nil, List.sum_nil, Int.add_zero, Integer.inWord?_of_lt hnonneg hlt]
      rfl
    | cons w ws ih =>
      intro total hws hnonneg hlt
      have hw := hws w (List.mem_cons_self ..)
      have hrest := List.forall_mem_of_forall_mem_cons hws
      rw [List.foldlM_cons, List.map_cons, List.sum_cons]
      by_cases hfits : total + w.millis < twoTo 63
      · rw [Integer.inWord?_of_lt (by omega) hfits, ← Int.add_assoc]
        exact ih _ hrest (by omega) hfits
      · have hsum := sum_millis_nonneg hrest
        rw [Integer.inWord?_of_le (by omega), Integer.inWord?_of_le (by omega)]
        rfl
  have hzero := key ws 0 hws (Int.le_refl 0) (by decide)
  rwa [Int.zero_add] at hzero

theorem windowMean?_of_totalMillis? {total : Int} (h : totalMillis? ws = some total) :
    windowMean? ws = some (ws.foldl (fun sum w => sum + w.product) 0.0 / Float.ofInt total) :=
  Option.map_eq_some_iff.mpr ⟨total, h, rfl⟩

theorem windowMean?_of_lt (hws : ∀ w ∈ ws, 0 ≤ w.millis)
    (hfits : (ws.map Weight.millis).sum < twoTo 63) : windowMean? ws = some (exactMean ws) := by
  unfold windowMean?
  rw [totalMillis?_eq hws, Integer.inWord?_of_lt (sum_millis_nonneg hws) hfits]
  rfl

theorem windowMean?_of_le (hws : ∀ w ∈ ws, 0 ≤ w.millis)
    (hlarge : twoTo 63 ≤ (ws.map Weight.millis).sum) : windowMean? ws = none := by
  unfold windowMean?
  rw [totalMillis?_eq hws, Integer.inWord?_of_le hlarge]
  rfl

end Weight

namespace Series

/-! ## The grid -/

section Grid

variable {size tick : Span} {forward : Span.zero < tick} {limit : Instant}

/-- An induction along the grid, from each start to the next. -/
theorem mem_grid_induction {motive : Instant → Period → Prop}
    (first : ∀ start stop, start.add? size = some stop → stop ≤ limit → motive start ⟨start, stop⟩)
    (next : ∀ start next p, start.add? tick = some next → motive next p → motive start p)
    {start : Instant} {p : Period} : p ∈ grid size tick forward limit start → motive start p := by
  fun_induction grid size tick forward limit start with
  | case1 => simp
  | case2 start stop hstop hle hnone =>
    intro hp
    obtain rfl := List.mem_singleton.mp hp
    exact first start stop hstop hle
  | case3 start stop hstop hle n hn ih =>
    intro hp
    rcases List.mem_cons.mp hp with rfl | hp
    · exact first start stop hstop hle
    · exact next start n p hn (ih hp)
  | case4 => simp

theorem start_le_of_mem_grid {start : Instant} {p : Period}
    (hp : p ∈ grid size tick forward limit start) : start ≤ p.start := by
  refine mem_grid_induction (motive := fun start p => start ≤ p.start) ?_ ?_ hp
  · intro start stop _ _
    exact Int.le_refl start.rank
  · intro start next p hnext ih
    have hlt := Instant.rank_lt_of_add? forward hnext
    rw [Instant.le_def] at ih ⊢
    omega

/-- Each window has the asked size and stops by the limit. -/
theorem window_of_mem_grid {start : Instant} {p : Period}
    (hp : p ∈ grid size tick forward limit start) :
    p.start.add? size = some p.stop ∧ p.stop ≤ limit :=
  mem_grid_induction (motive := fun _ p => p.start.add? size = some p.stop ∧ p.stop ≤ limit)
    (fun _ _ hstop hle => ⟨hstop, hle⟩) (fun _ _ _ _ ih => ih) hp

theorem isLeap_of_mem_grid {start : Instant} {p : Period} (hstart : start.isLeap = false)
    (hp : p ∈ grid size tick forward limit start) : p.start.isLeap = false :=
  mem_grid_induction (motive := fun start p => start.isLeap = false → p.start.isLeap = false)
    (fun _ _ _ _ h => h) (fun _ _ _ hnext ih h => ih (Instant.isLeap_of_add? h hnext)) hp hstart

theorem grid_pairwise (start : Instant) :
    (grid size tick forward limit start).Pairwise fun p q => p.start < q.start := by
  fun_induction grid size tick forward limit start with
  | case1 => exact .nil
  | case2 => exact List.pairwise_singleton ..
  | case3 start stop hstop hle n hn ih =>
    refine List.pairwise_cons.mpr ⟨fun q hq => ?_, ih⟩
    have hlt := Instant.rank_lt_of_add? forward hn
    have hle := start_le_of_mem_grid hq
    rw [Instant.le_def] at hle
    rw [Instant.lt_def]
    show start.rank < _
    omega
  | case4 => exact .nil

end Grid

/-! ## Windows -/

/-- The weights of the samples inside a window. -/
def windowWeights (ordered : List Sample) (p : Period) : List Weight :=
  (inside ordered p).map (Weight.ofSample p)

/-- The milliseconds of a window fit into 64 bits. -/
def Fits (ordered : List Sample) (p : Period) : Prop :=
  ((windowWeights ordered p).map Weight.millis).sum < twoTo 63

/-- The window with its exact mean. -/
def exactWindow? (ordered : List Sample) (p : Period) : Option Sample :=
  (inside ordered p).getLast?.map fun last =>
    ⟨last.location, p.start, p.length, Weight.exactMean (windowWeights ordered p)⟩

section Window

variable {ordered : List Sample} {p : Period}

theorem windowWeights_pos : ∀ w ∈ windowWeights ordered p, 0 < w.millis := by
  intro w hw
  obtain ⟨s, hs, rfl⟩ := List.mem_map.mp hw
  exact of_decide_eq_true (List.mem_filter.mp hs).2

theorem window_of_fits (h : Fits ordered p) : window ordered p = .ok (exactWindow? ordered p) := by
  have hmean := Weight.windowMean?_of_lt (fun w hw => Int.le_of_lt (windowWeights_pos w hw)) h
  unfold windowWeights at hmean
  unfold window exactWindow?
  cases (inside ordered p).getLast? with
  | none => rfl
  | some last =>
    simp only [hmean]
    rfl

theorem window_of_not_fits (h : ¬Fits ordered p) : window ordered p = .error .overflow := by
  have hlarge := Int.not_lt.mp h
  have hmean := Weight.windowMean?_of_le (fun w hw => Int.le_of_lt (windowWeights_pos w hw)) hlarge
  unfold windowWeights at hmean
  unfold window
  cases hlast : (inside ordered p).getLast? with
  | none =>
    -- Without samples the sum is zero.
    exfalso
    unfold windowWeights at hlarge
    rw [List.getLast?_eq_none_iff.mp hlast, List.map_nil, List.map_nil, List.sum_nil] at hlarge
    exact absurd hlarge (by decide)
  | some last => simp only [hmean]

theorem filterMapM_window_of_fits {ps : List Period} (h : ∀ p ∈ ps, Fits ordered p) :
    ps.filterMapM (window ordered) = .ok (ps.filterMap (exactWindow? ordered)) :=
  filterMapM_of_ok fun p hp => window_of_fits (h p hp)

theorem filterMapM_window_of_not_fits {ps : List Period} (h : ∃ p ∈ ps, ¬Fits ordered p) :
    ps.filterMapM (window ordered) = .error .overflow := by
  induction ps with
  | nil =>
    obtain ⟨p, hp, -⟩ := h
    cases hp
  | cons p ps ih =>
    rw [List.filterMapM_cons]
    by_cases hp : Fits ordered p
    · obtain ⟨q, hq, hlarge⟩ := h
      have hne : q ≠ p := fun heq => hlarge (heq ▸ hp)
      rw [window_of_fits hp, ih ⟨q, (List.mem_cons.mp hq).resolve_left hne, hlarge⟩]
      cases exactWindow? ordered p with
      | none => rfl
      | some s => rfl
    · rw [window_of_not_fits hp]
      rfl

theorem filterMapM_window_eq_ok {ps : List Period} {windows : List Sample}
    (h : ps.filterMapM (window ordered) = .ok windows) :
    windows = ps.filterMap (exactWindow? ordered) := by
  by_cases hfits : ∀ p ∈ ps, Fits ordered p
  · rw [filterMapM_window_of_fits hfits] at h
    exact (Except.ok.inj h).symm
  · rw [filterMapM_window_of_not_fits (by simpa using hfits)] at h
    cases h

theorem filterMapM_window_ne_invalid {ps : List Period} (reason : String) :
    ps.filterMapM (window ordered) ≠ .error (.invalid reason) := by
  intro h
  by_cases hfits : ∀ p ∈ ps, Fits ordered p
  · rw [filterMapM_window_of_fits hfits] at h
    cases h
  · rw [filterMapM_window_of_not_fits (by simpa using hfits)] at h
    cases h

end Window

/-- A window is placed where its period is. -/
theorem start_duration_of_exactWindow? {ordered : List Sample} {p : Period} {s : Sample}
    (h : exactWindow? ordered p = some s) : s.start = p.start ∧ s.duration = p.length := by
  obtain ⟨last, -, rfl⟩ := Option.map_eq_some_iff.mp h
  exact ⟨rfl, rfl⟩

theorem rolling_nil (w : Windows) : rolling w [] = .ok [] := by
  have hnil : chronological [] = [] := List.mergeSort_nil
  unfold rolling
  split
  · rfl
  · rw [hnil]

/-- Windows of a positive size are those of a grid, or there are no samples. -/
theorem rolling_eq_ok {w : Windows} {series windows : List Sample} (hsize : Span.zero < w.size)
    (h : rolling w series = .ok windows) :
    (series = [] ∧ windows = []) ∨
      ∃ first ∈ series, ∃ rest, ∃ forward : Span.zero < w.stride first,
        windows = (grid w.size (w.stride first) forward (w.limit first rest) (w.origin first)).filterMap
          (exactWindow? (first :: rest)) := by
  unfold rolling at h
  rw [if_neg (by rw [Span.le_def]; rw [Span.lt_def] at hsize; omega)] at h
  have hmem : ∀ s ∈ chronological series, s ∈ series := fun s hs => List.mem_mergeSort.mp hs
  split at h
  · next hnil =>
    left
    have hlen := congrArg List.length hnil
    unfold chronological at hlen
    rw [List.length_mergeSort] at hlen
    exact ⟨List.length_eq_zero_iff.mp hlen, (Except.ok.inj h).symm⟩
  · next first rest hcons =>
    right
    split at h
    · next forward =>
      split at h
      · cases h
      · exact ⟨first, hmem first (by rw [hcons]; simp), rest, forward, filterMapM_window_eq_ok h⟩
    · cases h

/-- Windows follow one another in time. -/
theorem rolling_pairwise {w : Windows} {series windows : List Sample} (hsize : Span.zero < w.size)
    (h : rolling w series = .ok windows) : windows.Pairwise fun s t => s.start < t.start := by
  rcases rolling_eq_ok hsize h with ⟨-, rfl⟩ | ⟨first, -, rest, forward, rfl⟩
  · exact .nil
  · refine List.Pairwise.filterMap _ ?_ (grid_pairwise _)
    intro p q hpq s hs t ht
    rw [(start_duration_of_exactWindow? hs).1, (start_duration_of_exactWindow? ht).1]
    exact hpq

/-- Each window has the asked size and lies in the asked period. -/
theorem mem_rolling {w : Windows} {series windows : List Sample} (hsize : Span.zero < w.size)
    {start stop : Instant} (hstart : w.start = some start) (hstop : w.stop = some stop)
    (hleap : start.isLeap = false) (hseries : ∀ s ∈ series, s.start.isLeap = false)
    (h : rolling w series = .ok windows) {s : Sample} (hs : s ∈ windows) :
    s.duration = w.size ∧ start ≤ s.start ∧ ∃ e, s.finish? = some e ∧ e ≤ stop := by
  rcases rolling_eq_ok hsize h with ⟨-, rfl⟩ | ⟨first, hfirst, rest, forward, rfl⟩
  · cases hs
  · obtain ⟨p, hp, hps⟩ := List.mem_filterMap.mp hs
    obtain ⟨hsstart, hsdur⟩ := start_duration_of_exactWindow? hps
    obtain ⟨hadd, hlimit⟩ := window_of_mem_grid hp
    have horigin : w.origin first = max start first.start := by
      unfold Windows.origin
      rw [hstart]
    have hle := start_le_of_mem_grid hp
    have hpleap : p.start.isLeap = false := by
      refine isLeap_of_mem_grid ?_ hp
      rw [horigin]
      exact Instant.isLeap_max hleap (hseries first hfirst)
    have hlength : p.length = w.size := Instant.since_of_add? hpleap hadd
    refine ⟨hsdur.trans hlength, ?_, p.stop, ?_, ?_⟩
    · rw [horigin, Instant.le_def, Instant.rank_max] at hle
      rw [hsstart, Instant.le_def]
      omega
    · show s.start.add? s.duration = some p.stop
      rw [hsstart, hsdur, hlength]
      exact hadd
    · unfold Windows.limit at hlimit
      rw [hstop, Instant.le_def, Instant.rank_min] at hlimit
      rw [Instant.le_def]
      omega

end Series

end CarbonIntensity
