import Mathlib.Algebra.BigOperators.Group.List.Basic
import Mathlib.Algebra.Ring.Int.Defs
import Mathlib.Data.List.Chain
import Mathlib.Data.List.Forall2

/-!
# Lists

What is needed of lists whatever stands in them.
-/

namespace CarbonIntensity

section

variable {α β : Type}

theorem filter_eq_filter_iff {a b : α → Bool} {l : List α} : l.filter a = l.filter b ↔ ∀ x ∈ l, a x = b x := by
  refine ⟨fun h x hx => ?_, List.filter_congr⟩
  have hiff : (x ∈ l.filter a) ↔ (x ∈ l.filter b) := by rw [h]
  rw [List.mem_filter, List.mem_filter] at hiff
  rw [Bool.eq_iff_iff]
  exact ⟨fun ha => (hiff.mp ⟨hx, ha⟩).2, fun hb => (hiff.mpr ⟨hx, hb⟩).2⟩

/-- At most one element reads the same in both directions. -/
theorem reverse_of_few {l : List α} (h : ¬2 ≤ l.length) : l.reverse = l := by
  match l, h with
  | [], _ => rfl
  | [_], _ => rfl
  | a :: b :: rest, h => exact absurd (Nat.le_add_left 2 rest.length) h

/-- Lists that are related element by element have all of a property or both have not. -/
theorem forall_mem_iff_of_forall₂ {R : α → β → Prop} {P : α → Prop} {Q : β → Prop} {as : List α}
    {bs : List β} (h : List.Forall₂ R as bs) (hR : ∀ a b, R a b → (P a ↔ Q b)) :
    (∀ a ∈ as, P a) ↔ ∀ b ∈ bs, Q b := by
  induction h with
  | nil => simp
  | cons hab _ ih => rw [List.forall_mem_cons, List.forall_mem_cons, hR _ _ hab, ih]

/-- Going through many equal elements can be done in parts. -/
theorem foldl_replicate_add (f : α → β → α) (a : α) (b : β) (m n : Nat) :
    (List.replicate (m + n) b).foldl f a = (List.replicate n b).foldl f ((List.replicate m b).foldl f a) := by
  rw [← List.replicate_append_replicate, List.foldl_append]

theorem filterMapM_congr {ε : Type} {f g : α → Except ε (Option β)} {l : List α} (h : ∀ a ∈ l, f a = g a) :
    l.filterMapM f = l.filterMapM g := by
  induction l with
  | nil => rfl
  | cons a l ih =>
    rw [List.filterMapM_cons, List.filterMapM_cons, h a (List.mem_cons_self ..),
      ih (List.forall_mem_of_forall_mem_cons h)]

/-- Where no element fails, the faults can be left aside. -/
theorem filterMapM_of_ok {ε : Type} {f : α → Except ε (Option β)} {g : α → Option β} {l : List α}
    (h : ∀ a ∈ l, f a = .ok (g a)) : l.filterMapM f = .ok (l.filterMap g) := by
  induction l with
  | nil => rfl
  | cons a l ih =>
    rw [List.filterMapM_cons, h a (List.mem_cons_self ..), ih (List.forall_mem_of_forall_mem_cons h),
      List.filterMap_cons]
    cases g a with
    | none => rfl
    | some b => rfl

/-- What holds where a list is split holds where two lists are, the second after the first. -/
theorem split_append {motive : List α → α → Prop} {a b : List α}
    (ha : ∀ earlier x later, a = earlier ++ x :: later → motive earlier x)
    (hb : ∀ earlier x later, b = earlier ++ x :: later → motive (a ++ earlier) x) :
    ∀ earlier x later, a ++ b = earlier ++ x :: later → motive earlier x := by
  intro earlier x later heq
  rcases List.append_eq_append_iff.mp heq with ⟨middle, rfl, hmiddle⟩ | ⟨middle, hmiddle, hrest⟩
  · exact hb middle x later hmiddle
  · cases middle with
    | nil =>
      rw [List.append_nil] at hmiddle
      have := hb [] x later hrest.symm
      rw [List.append_nil, hmiddle] at this
      exact this
    | cons y middle =>
      obtain ⟨rfl, -⟩ := List.cons.inj hrest
      exact ha earlier x middle hmiddle

/-! ## Sums -/

/-- Whole parts and remainders of summands make up the sum. -/
theorem sum_div_add_mod (f : α → Int) (m : Int) (xs : List α) :
    (xs.map fun x => f x / m).sum * m + (xs.map fun x => f x % m).sum = (xs.map f).sum := by
  induction xs with
  | nil => simp
  | cons x xs ih =>
    have hx := Int.ediv_mul_add_emod (f x) m
    rw [List.map_cons, List.map_cons, List.map_cons, List.sum_cons, List.sum_cons, List.sum_cons, Int.add_mul]
    omega

/-! ## Numbers in order -/

/-- The first element of an increasing list is the least one. -/
theorem head_le_of_isChain {f : α → Int} {x : α} {xs : List α} (h : (x :: xs).IsChain fun a b => f a < f b)
    {y : α} (hy : y ∈ x :: xs) : f x ≤ f y := by
  rcases List.mem_cons.mp hy with rfl | hmem
  · exact Int.le_refl _
  · have hincreasing : (x :: xs).Pairwise fun a b => f a < f b :=
      List.isChain_iff_pairwise.mp h
    exact Int.le_of_lt (List.rel_of_pairwise_cons hincreasing hmem)

/-- Of elements with one distance between neighbours, the first two in an interval are neighbours. -/
theorem next_of_filter {f : α → Int} {step lower upper : Int} (hstep : 0 < step)
    {inside : α → Bool} {l : List α} (h : l.IsChain fun a b => f b = f a + step)
    (hinside : ∀ x ∈ l, inside x = true ↔ lower ≤ f x ∧ f x ≤ upper) {a b : α} {rest : List α}
    (hfilter : l.filter inside = a :: b :: rest) : f b = f a + step := by
  induction l with
  | nil => cases hfilter
  | cons x xs ih =>
    have hxs := fun y hy => hinside y (List.mem_cons_of_mem x hy)
    have hx := hinside x (List.mem_cons_self ..)
    cases hin : inside x with
    | false =>
      rw [List.filter_cons, hin, if_neg Bool.false_ne_true] at hfilter
      exact ih h.tail hxs hfilter
    | true =>
      rw [List.filter_cons, hin, if_pos rfl] at hfilter
      obtain ⟨rfl, hrest⟩ := List.cons.inj hfilter
      have hb : b ∈ xs ∧ inside b = true := by
        have hmem : b ∈ xs.filter inside := by
          rw [hrest]
          exact List.mem_cons_self ..
        exact List.mem_filter.mp hmem
      cases xs with
      | nil => cases hrest
      | cons y ys =>
        have hy : f y = f x + step := (List.isChain_cons_cons.mp h).1
        cases hnext : inside y with
        | true =>
          rw [List.filter_cons, hnext, if_pos rfl] at hrest
          obtain ⟨rfl, -⟩ := List.cons.inj hrest
          exact hy
        | false =>
          -- The neighbour is beyond the interval, and so is all that follows it.
          have hincreasing : (y :: ys).IsChain fun a b => f a < f b := by
            refine h.tail.imp fun a b hab => ?_
            omega
          have hbeyond := head_le_of_isChain hincreasing hb.1
          have hlast := (hxs b hb.1).mp hb.2
          have hfirst := hx.mp hin
          have hout : ¬(lower ≤ f y ∧ f y ≤ upper) := fun hy' => by
            rw [(hxs y (List.mem_cons_self ..)).mpr hy'] at hnext
            cases hnext
          omega

end

end CarbonIntensity
