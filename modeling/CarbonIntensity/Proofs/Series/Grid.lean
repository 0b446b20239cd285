import CarbonIntensity.Proofs.Series.Overlap
import CarbonIntensity.Series.Rolling
import Mathlib.Data.List.Forall2

/-!
# The grid of windows in closed form

Away from leap seconds the windows of a grid are those that start at `start + k·tick` for all `k` for
which they stop by the limit, in the order of `k`:

    k < n ↔ start + k·tick + size ≤ limit
    grid size tick forward limit start  ≈  [start + k·tick, start + k·tick + size),  k = 0, …, n - 1

The grid ends early where the start or the stop of the next window is out of range. Nothing is lost by
it: no limit is after the last instant, and later windows stop later still.
-/

namespace CarbonIntensity

/-- The period between two counts of ticks, outside leap seconds. -/
structure Period.Between (lower upper : Int) (p : Period) : Prop where
  steadyStart : p.start.isLeap = false
  steadyStop : p.stop.isLeap = false
  start : p.start.ticks = lower
  stop : p.stop.ticks = upper

/-- The first window of a grid, at the step zero. -/
theorem Period.between_first {start stop : Instant} {size : Span} (hstart : start.isLeap = false)
    (hstop : start.add? size = some stop) (tick : Int) :
    Period.Between (start.ticks + ((0 : Nat) : Int) * tick)
      (start.ticks + ((0 : Nat) : Int) * tick + size.nanos) ⟨start, stop⟩ := by
  have hzero : start.ticks + ((0 : Nat) : Int) * tick = start.ticks := by omega
  rw [hzero]
  exact ⟨hstart, Instant.isLeap_of_add? hstart hstop, rfl, Instant.ticks_of_add? hstart hstop⟩

namespace Series

theorem grid_between {size tick : Span} (forward : Span.zero < tick) {limit start : Instant}
    (hsize : Span.zero ≤ size) (hlimit : limit.isLeap = false) (hstart : start.isLeap = false) :
    ∃ n : Nat,
      (∀ k : Nat, k < n ↔ start.ticks + k * tick.nanos + size.nanos ≤ limit.ticks) ∧
      List.Forall₂ (fun (k : Nat) p =>
          Period.Between (start.ticks + k * tick.nanos) (start.ticks + k * tick.nanos + size.nanos) p)
        (List.range n) (grid size tick forward limit start) := by
  have htick : 0 < tick.nanos := forward
  have hpos : 0 ≤ size.nanos := hsize
  have hlatest := Instant.ticks_le_latest hlimit
  have hsteps : ∀ k : Nat, 0 ≤ (k : Int) * tick.nanos := fun k => Int.mul_nonneg (by omega) (by omega)
  have hsucc : ∀ k : Nat, ((k + 1 : Nat) : Int) * tick.nanos = k * tick.nanos + tick.nanos := by
    intro k
    rw [Int.natCast_add, Int.add_mul]
    omega
  fun_induction grid size tick forward limit start with
  | case1 start hstop =>
    -- The first window ends out of range, and so beyond the limit.
    have hout := mt (Instant.add?_isSome_iff hstart hsize).mpr (by rw [hstop]; decide)
    refine ⟨0, fun k => ?_, .nil⟩
    have hk := hsteps k
    omega
  | case2 start stop hstop hle hnext =>
    have hticks := Instant.ticks_of_add? hstart hstop
    have hout := mt (Instant.add?_isSome_iff hstart (Int.le_of_lt forward)).mpr (by rw [hnext]; decide)
    rw [Instant.le_iff_ticks_le (Instant.isLeap_of_add? hstart hstop) hlimit] at hle
    refine ⟨1, fun k => ?_, .cons (Period.between_first hstart hstop _) .nil⟩
    cases k with
    | zero => omega
    | succ k =>
      have hk := hsteps k
      rw [hsucc k]
      omega
  | case3 start stop hstop hle next hnext ih =>
    have hticks := Instant.ticks_of_add? hstart hstop
    have hnextTicks := Instant.ticks_of_add? hstart hnext
    obtain ⟨n, hn, hall⟩ := ih (Instant.isLeap_of_add? hstart hnext)
    rw [Instant.le_iff_ticks_le (Instant.isLeap_of_add? hstart hstop) hlimit] at hle
    have hshift : ∀ k : Nat, start.ticks + ((k + 1 : Nat) : Int) * tick.nanos =
        next.ticks + k * tick.nanos := by
      intro k
      rw [hsucc k, hnextTicks]
      omega
    refine ⟨n + 1, fun k => ?_, ?_⟩
    · cases k with
      | zero => omega
      | succ k =>
        rw [hshift k, ← hn k]
        omega
    · rw [List.range_succ_eq_map]
      refine .cons (Period.between_first hstart hstop _) (List.forall₂_map_left_iff.mpr ?_)
      refine hall.imp fun k p hp => ?_
      rw [hshift k]
      exact hp
  | case4 start stop hstop hgt =>
    have hticks := Instant.ticks_of_add? hstart hstop
    rw [Instant.le_iff_ticks_le (Instant.isLeap_of_add? hstart hstop) hlimit] at hgt
    refine ⟨0, fun k => ?_, .nil⟩
    have hk := hsteps k
    omega

/-- A grid whose first window stops at the limit has no other. -/
theorem grid_of_limit {size tick : Span} (forward : Span.zero < tick) {start stop : Instant}
    (hstart : start.isLeap = false) (h : start.add? size = some stop) :
    grid size tick forward stop start = [⟨start, stop⟩] := by
  have htick : 0 < tick.nanos := forward
  have hticks := Instant.ticks_of_add? hstart h
  have hstop := Instant.isLeap_of_add? hstart h
  unfold grid
  rw [h]
  simp only
  rw [if_pos stop.le_refl]
  split
  · rfl
  · next next hnext =>
    have hleap := Instant.isLeap_of_add? hstart hnext
    have hnextTicks := Instant.ticks_of_add? hstart hnext
    have hnone : grid size tick forward stop next = [] := by
      unfold grid
      split
      · rfl
      · next stop' hstop' =>
        have hlate := Instant.ticks_of_add? hleap hstop'
        rw [if_neg]
        rw [Instant.le_iff_ticks_le (Instant.isLeap_of_add? hleap hstop') hstop]
        omega
    rw [hnone]

end Series

end CarbonIntensity
