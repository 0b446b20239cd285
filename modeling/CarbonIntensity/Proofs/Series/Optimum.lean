import CarbonIntensity.Proofs.Number.Order
import CarbonIntensity.Series.Basic

/-!
# The best samples of a series

A sample is among the best exactly if its rating is a number and no rating that is a number is less:

    optimum l = l.filter (IsBest l)      (optimum_eq_filter)

Ratings are compared as floats, so that the two zeros tie.

A part of a series that has for each rating one that is not greater has the same best samples. Such a part
are the best samples of several series, so that these are searched one by one:

    optimum ls.flatten = optimum (ls.map optimum).flatten      (optimum_flatten)
-/

namespace CarbonIntensity.Series

open FloatOrder

/-- The rating is a number and at most every other rating that is one. -/
def IsBest (l : List Sample) (s : Sample) : Prop :=
  s.rating.isNaN = false ∧ ∀ x ∈ l, x.rating.isNaN = false → s.rating ≤ x.rating

instance (l : List Sample) (s : Sample) : Decidable (IsBest l s) :=
  inferInstanceAs (Decidable (_ ∧ ∀ x ∈ l, _ → _))

/-! ## The least rating -/

theorem lesser_eq_or (a b : Float) : lesser a b = a ∨ lesser a b = b := by
  unfold lesser
  split
  · exact .inr rfl
  · split
    · exact .inl rfl
    · split
      · exact .inr rfl
      · exact .inl rfl

theorem lesser_le_left {a b : Float} (ha : a.isNaN = false) : lesser a b ≤ a := by
  unfold lesser
  rw [ha, if_neg Bool.false_ne_true]
  split
  · exact (le_iff a a).mpr ⟨ha, ha, le_refl _⟩
  · split
    · next hlt =>
      obtain ⟨hb, -, hlt⟩ := (lt_iff b a).mp hlt
      exact (le_iff b a).mpr ⟨hb, ha, hlt.le⟩
    · exact (le_iff a a).mpr ⟨ha, ha, le_refl _⟩

theorem lesser_le_right {a b : Float} (hb : b.isNaN = false) : lesser a b ≤ b := by
  unfold lesser
  split
  · exact (le_iff b b).mpr ⟨hb, hb, le_refl _⟩
  · next ha =>
    rw [hb, if_neg Bool.false_ne_true]
    split
    · exact (le_iff b b).mpr ⟨hb, hb, le_refl _⟩
    · next hlt =>
      have ha' : a.isNaN = false := Bool.eq_false_of_not_eq_true ha
      refine (le_iff a b).mpr ⟨ha', hb, not_lt.mp fun h => hlt ?_⟩
      exact (lt_iff b a).mpr ⟨hb, ha', h⟩

theorem le_trans_of_number {a b c : Float} (hab : a ≤ b) (hbc : b ≤ c) : a ≤ c := by
  obtain ⟨ha, -, hab⟩ := (le_iff a b).mp hab
  obtain ⟨-, hc, hbc⟩ := (le_iff b c).mp hbc
  exact (le_iff a c).mpr ⟨ha, hc, hab.trans hbc⟩

/-- The running minimum is one of the ratings seen, and at most all of them that are numbers. -/
theorem foldl_lesser_spec (rest : List Sample) (a : Float) :
    let least := rest.foldl (fun least s => lesser least s.rating) a
    (least = a ∨ ∃ x ∈ rest, least = x.rating) ∧
      (a.isNaN = false → least ≤ a) ∧ ∀ x ∈ rest, x.rating.isNaN = false → least ≤ x.rating := by
  induction rest generalizing a with
  | nil => exact ⟨.inl rfl, fun ha => (le_iff a a).mpr ⟨ha, ha, le_refl _⟩, by simp⟩
  | cons s rest ih =>
    obtain ⟨hmem, hstart, hrest⟩ := ih (lesser a s.rating)
    rw [List.foldl_cons]
    refine ⟨?_, fun ha => ?_, fun x hx hn => ?_⟩
    · rcases hmem with h | ⟨x, hx, h⟩
      · rcases lesser_eq_or a s.rating with h' | h'
        · exact .inl (h.trans h')
        · exact .inr ⟨s, by simp, h.trans h'⟩
      · exact .inr ⟨x, by simp [hx], h⟩
    · have hl := lesser_le_left (b := s.rating) ha
      exact le_trans_of_number (hstart ((le_iff _ _).mp hl).1) hl
    · rcases List.mem_cons.mp hx with rfl | hx
      · have hl := lesser_le_right (a := a) hn
        exact le_trans_of_number (hstart ((le_iff _ _).mp hl).1) hl
      · exact hrest x hx hn

theorem leastRating?_spec {l : List Sample} {least : Float} (h : leastRating? l = some least) :
    (∃ x ∈ l, least = x.rating) ∧ ∀ x ∈ l, x.rating.isNaN = false → least ≤ x.rating := by
  cases l with
  | nil => cases h
  | cons first rest =>
    obtain rfl : rest.foldl (fun least s => lesser least s.rating) first.rating = least :=
      Option.some.inj h
    obtain ⟨hmem, hfirst, hrest⟩ := foldl_lesser_spec rest first.rating
    refine ⟨?_, fun x hx hn => ?_⟩
    · rcases hmem with h | ⟨x, hx, h⟩
      · exact ⟨first, by simp, h⟩
      · exact ⟨x, by simp [hx], h⟩
    · rcases List.mem_cons.mp hx with rfl | hx
      · exact hfirst hn
      · exact hrest x hx hn

/-! ## The best samples -/

theorem beq_least_iff_isBest {l : List Sample} {least : Float} (h : leastRating? l = some least)
    {s : Sample} (hs : s ∈ l) : (s.rating == least) = true ↔ IsBest l s := by
  obtain ⟨⟨m, hm, hml⟩, hleast⟩ := leastRating?_spec h
  rw [beq_iff]
  constructor
  · rintro ⟨hsn, hln, hrank⟩
    refine ⟨hsn, fun x hx hn => ?_⟩
    obtain ⟨-, -, hle⟩ := (le_iff _ _).mp (hleast x hx hn)
    exact (le_iff _ _).mpr ⟨hsn, hn, hrank ▸ hle⟩
  · rintro ⟨hsn, hbest⟩
    obtain ⟨hln, -, hle⟩ := (le_iff _ _).mp (hleast s hs hsn)
    obtain ⟨-, -, hge⟩ := (le_iff _ _).mp (hbest m hm (hml ▸ hln))
    exact ⟨hsn, hln, le_antisymm (hml ▸ hge) hle⟩

theorem optimum_eq_filter (l : List Sample) : optimum l = l.filter (fun s => IsBest l s) := by
  unfold optimum
  cases h : leastRating? l with
  | none =>
    cases l with
    | nil => rfl
    | cons first rest => cases h
  | some least =>
    refine List.filter_congr fun s hs => ?_
    rw [Bool.eq_iff_iff, decide_eq_true_iff]
    exact beq_least_iff_isBest h hs

theorem mem_optimum {l : List Sample} {s : Sample} : s ∈ optimum l ↔ s ∈ l ∧ IsBest l s := by
  rw [optimum_eq_filter, List.mem_filter, decide_eq_true_iff]

/-- Below every rating that is a number is one of the best. -/
theorem exists_mem_optimum_le {l : List Sample} {x : Sample} (hx : x ∈ l) (hn : x.rating.isNaN = false) :
    ∃ y ∈ optimum l, y.rating ≤ x.rating := by
  cases h : leastRating? l with
  | none =>
    cases l with
    | nil => cases hx
    | cons first rest => cases h
  | some least =>
    obtain ⟨⟨m, hm, rfl⟩, hleast⟩ := leastRating?_spec h
    have hle := hleast x hx hn
    exact ⟨m, mem_optimum.mpr ⟨hm, ((le_iff _ _).mp hle).1, hleast⟩, hle⟩

/-- Nothing is best exactly if no rating is a number. -/
theorem optimum_eq_nil_iff {l : List Sample} : optimum l = [] ↔ ∀ s ∈ l, s.rating.isNaN = true := by
  constructor
  · intro hnil s hs
    by_contra hn
    obtain ⟨y, hy, -⟩ := exists_mem_optimum_le hs (Bool.eq_false_of_not_eq_true hn)
    rw [hnil] at hy
    cases hy
  · intro hnan
    rw [List.eq_nil_iff_forall_not_mem]
    intro s hs
    obtain ⟨hmem, hn, -⟩ := mem_optimum.mp hs
    rw [hnan s hmem] at hn
    cases hn

/-! ## Parts of a series -/

theorem isBest_iff_of_covers {l part : List Sample} (hpart : ∀ x ∈ part, x ∈ l)
    (hcovers : ∀ x ∈ l, x.rating.isNaN = false → ∃ y ∈ part, y.rating ≤ x.rating) (s : Sample) :
    IsBest l s ↔ IsBest part s := by
  constructor
  · rintro ⟨hs, hbest⟩
    exact ⟨hs, fun x hx hn => hbest x (hpart x hx) hn⟩
  · rintro ⟨hs, hbest⟩
    refine ⟨hs, fun x hx hn => ?_⟩
    obtain ⟨y, hy, hle⟩ := hcovers x hx hn
    exact le_trans_of_number (hbest y hy ((le_iff _ _).mp hle).1) hle

/-- The best samples of several series are the best of the best of each of them. -/
theorem optimum_flatten (ls : List (List Sample)) : optimum ls.flatten = optimum (ls.map optimum).flatten := by
  have hpart : ∀ x ∈ (ls.map optimum).flatten, x ∈ ls.flatten := by
    intro x hx
    obtain ⟨_, hbest, hx⟩ := List.mem_flatten.mp hx
    obtain ⟨l, hl, rfl⟩ := List.mem_map.mp hbest
    exact List.mem_flatten.mpr ⟨l, hl, (mem_optimum.mp hx).1⟩
  have hcovers : ∀ x ∈ ls.flatten, x.rating.isNaN = false →
      ∃ y ∈ (ls.map optimum).flatten, y.rating ≤ x.rating := by
    intro x hx hn
    obtain ⟨l, hl, hx⟩ := List.mem_flatten.mp hx
    obtain ⟨y, hy, hle⟩ := exists_mem_optimum_le hx hn
    exact ⟨y, List.mem_flatten.mpr ⟨optimum l, List.mem_map_of_mem hl, hy⟩, hle⟩
  -- What is best of all is best of its series, and so is not lost in the first search.
  have heach : ∀ l ∈ ls, (optimum l).filter (fun s => IsBest ls.flatten s) =
      l.filter fun s => IsBest ls.flatten s := by
    intro l hl
    rw [optimum_eq_filter, List.filter_filter]
    apply List.filter_congr
    intro s _
    rw [← Bool.decide_and, decide_eq_decide]
    refine and_iff_left_of_imp fun hbest => ⟨hbest.1, fun x hx hn => ?_⟩
    exact hbest.2 x (List.mem_flatten.mpr ⟨l, hl, hx⟩) hn
  rw [optimum_eq_filter (ls.map optimum).flatten]
  simp only [← isBest_iff_of_covers hpart hcovers]
  rw [optimum_eq_filter, List.filter_flatten, List.filter_flatten, List.map_map]
  exact congrArg List.flatten (List.map_congr_left fun l hl => (heach l hl).symm)

theorem optimum_append (a b : List Sample) : optimum (a ++ b) = optimum (optimum a ++ optimum b) := by
  simpa only [List.map_cons, List.map_nil, List.flatten_cons, List.flatten_nil, List.append_nil] using
    optimum_flatten [a, b]

end CarbonIntensity.Series
