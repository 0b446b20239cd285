/-!
# Outcomes

What a computation that can fail says about its parts: where it gives a value, each part gave one.
-/

namespace CarbonIntensity

section

variable {ε ε' α β : Type}

theorem bind_ok {r : Except ε α} {f : α → Except ε β} {b : β} (h : r >>= f = .ok b) :
    ∃ a, r = .ok a ∧ f a = .ok b := by
  cases r with
  | error e => cases h
  | ok a => exact ⟨a, rfl, h⟩

/-- A computation goes on only past the checks that it passes. -/
theorem ok_of_guard {c : Prop} [Decidable c] {e : ε} {rest : Unit → Except ε β} {b : β}
    (h : (if c then throw e >>= rest else rest ()) = .ok b) : ¬c ∧ rest () = .ok b := by
  by_cases hc : c
  · rw [if_pos hc] at h
    cases h
  · rw [if_neg hc] at h
    exact ⟨hc, h⟩

theorem ok_of_isSome {r : Except ε α} (h : r.toOption.isSome = true) : ∃ a, r = .ok a := by
  cases r with
  | error e => cases h
  | ok a => exact ⟨a, rfl⟩

theorem ok_of_toOption_map {r : Except ε α} {f : α → β} {b : β} (h : r.toOption.map f = some b) :
    ∃ a, r = .ok a ∧ f a = b := by
  cases r with
  | error e => cases h
  | ok a => exact ⟨a, rfl, Option.some.inj h⟩

theorem ok_of_mapError {r : Except ε α} {f : ε → ε'} {a : α} (h : r.mapError f = .ok a) : r = .ok a := by
  cases r with
  | error e => cases h
  | ok b =>
    obtain rfl := Except.ok.inj h
    rfl

theorem ok_of_map {r : Except ε α} {f : α → β} {b : β} (h : r.map f = .ok b) : ∃ a, r = .ok a := by
  cases r with
  | error e => cases h
  | ok a => exact ⟨a, rfl⟩

theorem ok_of_discard {r : Except ε α} {u : Unit} (h : discard r = .ok u) : ∃ a, r = .ok a := ok_of_map h

/-- A check of all elements passes only if each of them does. -/
theorem ok_of_forM {f : α → Except ε Unit} {l : List α} (h : l.forM f = .ok ()) :
    ∀ a ∈ l, f a = .ok () := by
  induction l with
  | nil => simp
  | cons b l ih =>
    obtain ⟨_, hb, hrest⟩ := bind_ok (show (f b >>= fun _ => l.forM f) = .ok () from h)
    intro a ha
    rcases List.mem_cons.mp ha with rfl | ha
    · exact hb
    · exact ih hrest a ha

end

end CarbonIntensity
