import CarbonIntensity.Text.Basic
import Mathlib.Data.List.Basic

/-!
# Trimmed texts

A text is trimmed if it neither starts nor ends with a blank. Trimming a text makes it so and leaves
those that are so as they are:

    Trimmed (trimChars cs)                    (trimmed_trimChars)
    Trimmed cs → trimChars cs = cs            (Trimmed.trimChars_eq)

What is not blank stays.
-/

namespace CarbonIntensity.Text

structure Trimmed (cs : List Char) : Prop where
  head : ∀ c, cs.head? = some c → isBlank c = false
  last : ∀ c, cs.getLast? = some c → isBlank c = false

theorem trimmed_nil : Trimmed [] := ⟨nofun, nofun⟩

theorem Trimmed.reverse {cs : List Char} (h : Trimmed cs) : Trimmed cs.reverse where
  head c hc := h.last c (by rwa [List.head?_reverse] at hc)
  last c hc := h.head c (by rwa [List.getLast?_reverse] at hc)

/-- A mark between two trimmed texts, of which the first may be empty. -/
theorem Trimmed.append_cons {front back : List Char} (hfront : Trimmed front) (hback : Trimmed back)
    (hne : back ≠ []) {mark : Char} (hmark : isBlank mark = false) : Trimmed (front ++ mark :: back) where
  head c hc := by
    cases front with
    | nil =>
      cases hc
      exact hmark
    | cons d front =>
      cases hc
      exact hfront.head c rfl
  last c hc := by
    rw [List.getLast?_append_of_ne_nil _ (List.cons_ne_nil _ _)] at hc
    obtain ⟨d, back, rfl⟩ := List.exists_cons_of_ne_nil hne
    rw [List.getLast?_cons_cons] at hc
    exact hback.last c hc

/-! ## Trimming -/

theorem head?_dropBlanks {cs : List Char} {c : Char} (h : (dropBlanks cs).head? = some c) :
    isBlank c = false := by
  have hnot := List.head?_dropWhile_not isBlank cs
  unfold dropBlanks at h
  rw [h] at hnot
  exact hnot

theorem getLast?_dropBlanks {cs : List Char} {c : Char} (h : (dropBlanks cs).getLast? = some c) :
    cs.getLast? = some c := by
  obtain ⟨front, hfront⟩ : dropBlanks cs <:+ cs := List.dropWhile_suffix isBlank
  have hne : dropBlanks cs ≠ [] := by
    intro hnil
    rw [hnil] at h
    cases h
  rw [← hfront, List.getLast?_append_of_ne_nil front hne, h]

theorem dropBlanks_of_head {cs : List Char} (h : ∀ c, cs.head? = some c → isBlank c = false) :
    dropBlanks cs = cs := by
  cases cs with
  | nil => rfl
  | cons c cs =>
    unfold dropBlanks
    rw [List.dropWhile_cons, h c rfl]
    rfl

theorem trimmed_trimChars (cs : List Char) : Trimmed (trimChars cs) := by
  have hback : Trimmed (dropBlanks (dropBlanks cs).reverse) := by
    constructor
    · intro c hc
      exact head?_dropBlanks hc
    · intro c hc
      have hlast := getLast?_dropBlanks hc
      rw [List.getLast?_reverse] at hlast
      exact head?_dropBlanks hlast
  exact hback.reverse

theorem Trimmed.trimChars_eq {cs : List Char} (h : Trimmed cs) : trimChars cs = cs := by
  unfold trimChars
  rw [dropBlanks_of_head h.head, dropBlanks_of_head h.reverse.head, List.reverse_reverse]

theorem length_trimChars_le (cs : List Char) : (trimChars cs).length ≤ cs.length := by
  have hfront := length_dropBlanks_le cs
  have hback := length_dropBlanks_le (dropBlanks cs).reverse
  unfold trimChars
  rw [List.length_reverse] at hback ⊢
  omega

theorem mem_of_mem_trimChars {c : Char} {cs : List Char} (h : c ∈ trimChars cs) : c ∈ cs := by
  have hback := (List.dropWhile_sublist isBlank).subset (List.mem_reverse.mp h)
  exact (List.dropWhile_sublist isBlank).subset (List.mem_reverse.mp hback)

/-! ## What is not blank -/

theorem mem_dropBlanks {c : Char} (hc : isBlank c = false) {cs : List Char} (h : c ∈ cs) :
    c ∈ dropBlanks cs := by
  induction cs with
  | nil => cases h
  | cons d cs ih =>
    unfold dropBlanks at *
    cases hd : isBlank d with
    | true =>
      rw [List.dropWhile_cons_of_pos hd]
      rcases List.mem_cons.mp h with rfl | h
      · rw [hc] at hd
        cases hd
      · exact ih h
    | false =>
      rw [List.dropWhile_cons_of_neg (by rw [hd]; exact Bool.false_ne_true)]
      exact h

theorem isBlankText_trim {s : String} (h : isBlankText s = false) : isBlankText (trim s) = false := by
  unfold isBlankText at *
  rw [List.all_eq_false] at *
  obtain ⟨c, hmem, hc⟩ := h
  have hblank : isBlank c = false := by simpa using hc
  refine ⟨c, ?_, hc⟩
  show c ∈ (String.ofList (trimChars s.toList)).toList
  rw [String.toList_ofList]
  have hfront := mem_dropBlanks hblank hmem
  exact List.mem_reverse.mpr (mem_dropBlanks hblank (List.mem_reverse.mpr hfront))

theorem isEmpty_of_not_blank {s : String} (h : isBlankText s = false) : s.isEmpty = false := by
  cases hempty : s.isEmpty with
  | false => rfl
  | true =>
    rw [String.isEmpty_iff.mp hempty] at h
    cases h

end CarbonIntensity.Text
