/-!
# Lists of entries

A list of pairs of a key and a value in which a key stands once: `put` replaces the value of a key
where it stands or adds an entry at the end, so that

`(put k v es).lookup j = if j = k then v else es.lookup j`.
-/

namespace CarbonIntensity.Assoc

variable {κ α : Type} [BEq κ]

def put (k : κ) (v : α) : List (κ × α) → List (κ × α)
  | [] => [(k, v)]
  | (j, w) :: rest => if j == k then (k, v) :: rest else (j, w) :: put k v rest

theorem lookup_put [LawfulBEq κ] (k j : κ) (v : α) (es : List (κ × α)) :
    (put k v es).lookup j = if j == k then some v else es.lookup j := by
  induction es with
  | nil => simp only [put, List.lookup_cons, List.lookup_nil]; split <;> simp_all
  | cons e rest ih =>
    obtain ⟨i, w⟩ := e
    simp only [put]
    by_cases hik : i == k
    · have := eq_of_beq hik
      subst this
      simp only [beq_self_eq_true, if_true, List.lookup_cons]
      split <;> simp_all
    · simp only [hik, Bool.false_eq_true, if_false, List.lookup_cons]
      by_cases hji : j == i
      · have := eq_of_beq hji
        subst this
        simp [hik]
      · simp only [hji]
        exact ih

section Keys

variable [LawfulBEq κ]

theorem mem_keys_put (k j : κ) (v : α) (es : List (κ × α)) :
    j ∈ (put k v es).map Prod.fst ↔ j = k ∨ j ∈ es.map Prod.fst := by
  induction es with
  | nil => simp [put]
  | cons e rest ih =>
    obtain ⟨i, w⟩ := e
    by_cases hik : i == k
    · obtain rfl := eq_of_beq hik
      simp [put]
    · simp only [put, hik, Bool.false_eq_true, if_false, List.map_cons, List.mem_cons, ih]
      exact or_left_comm

theorem nodup_keys_put (k : κ) (v : α) {es : List (κ × α)} (h : (es.map Prod.fst).Nodup) :
    ((put k v es).map Prod.fst).Nodup := by
  induction es with
  | nil => simp [put]
  | cons e rest ih =>
    obtain ⟨i, w⟩ := e
    rw [List.map_cons, List.nodup_cons] at h
    by_cases hik : i == k
    · obtain rfl := eq_of_beq hik
      simpa [put] using h
    · simp only [put, hik, Bool.false_eq_true, if_false, List.map_cons, List.nodup_cons,
        mem_keys_put, not_or]
      exact ⟨⟨fun heq => hik (beq_iff_eq.mpr heq), h.1⟩, ih h.2⟩

theorem lookup_eq_some_iff_mem {es : List (κ × α)} (h : (es.map Prod.fst).Nodup) (k : κ) (v : α) :
    es.lookup k = some v ↔ (k, v) ∈ es := by
  induction es with
  | nil => simp
  | cons e rest ih =>
    obtain ⟨i, w⟩ := e
    rw [List.map_cons, List.nodup_cons] at h
    by_cases hki : k == i
    · obtain rfl := eq_of_beq hki
      have hnot : (k, v) ∉ rest := fun hmem => h.1 (List.mem_map.mpr ⟨(k, v), hmem, rfl⟩)
      simp [hnot, eq_comm]
    · have hne : k ≠ i := fun heq => hki (beq_iff_eq.mpr heq)
      simp [List.lookup_cons, hki, hne, ih h.2]

theorem lookup_filter {es : List (κ × α)} (h : (es.map Prod.fst).Nodup) (p : κ × α → Bool) (k : κ) :
    (es.filter p).lookup k = (es.lookup k).filter fun v => p (k, v) := by
  have hfilter : ((es.filter p).map Prod.fst).Nodup := h.sublist (List.filter_sublist.map _)
  ext v
  rw [lookup_eq_some_iff_mem hfilter, List.mem_filter, Option.filter_eq_some_iff,
    lookup_eq_some_iff_mem h]

end Keys

end CarbonIntensity.Assoc
