import CarbonIntensity.Provider.Basic
import Mathlib.Data.List.Forall2

/-!
# Work in turn

Work is done for each element of a list in turn, from the state that the one before left, until the
first fault:

    (xs.mapM f).start s = (.ok as, u) ↔ InTurn f s xs as u                      (start_mapM_ok_iff)
    (xs.mapM f).start s = (.error e, u) ↔ an element of xs faults with e, and
      those before it do not                                                    (start_mapM_error_iff)
-/

namespace CarbonIntensity.Work

variable {ε ε' σ α β γ : Type}

/-! ## Taking work apart -/

theorem start_eq {w : Work ε σ α} {s : σ} {r : Except ε α} (h : (w.start s).1 = r) :
    w.start s = (r, (w.start s).2) := Prod.ext h rfl

theorem start_bind_ok_iff {w : Work ε σ α} {f : α → Work ε σ γ} {s u : σ} {c : γ} :
    (w >>= f).start s = (.ok c, u) ↔
      ∃ a t, w.start s = (.ok a, t) ∧ (f a).start t = (.ok c, u) := by
  rw [start_bind]
  constructor
  · intro h
    rcases hw : w.start s with ⟨e | a, t⟩
    · rw [hw] at h
      cases h
    · rw [hw] at h
      exact ⟨a, t, rfl, h⟩
  · rintro ⟨a, t, hw, hf⟩
    rw [hw]
    exact hf

theorem start_bind_error_iff {w : Work ε σ α} {f : α → Work ε σ γ} {s u : σ} {e : ε} :
    (w >>= f).start s = (.error e, u) ↔
      w.start s = (.error e, u) ∨ ∃ a t, w.start s = (.ok a, t) ∧ (f a).start t = (.error e, u) := by
  rw [start_bind]
  rcases hw : w.start s with ⟨e' | a, t⟩
  · constructor
    · intro h
      cases h
      exact .inl rfl
    · rintro (h | ⟨a, t', h, -⟩)
      · cases h
        rfl
      · cases h
  · constructor
    · intro h
      exact .inr ⟨a, t, rfl, h⟩
    · rintro (h | ⟨a', t', h, hf⟩)
      · cases h
      · cases h
        exact hf

theorem start_ofExcept_ok_iff {r : Except ε α} {s u : σ} {a : α} :
    (ofExcept r).start s = (.ok a, u) ↔ r = .ok a ∧ u = s := by
  rw [start_ofExcept, Prod.mk.injEq]
  exact and_congr_right fun _ => eq_comm

theorem start_mapFault_ok_iff {g : ε → ε'} {w : Work ε σ α} {s u : σ} {a : α} :
    (w.mapFault g).start s = (.ok a, u) ↔ w.start s = (.ok a, u) := by
  rw [start_mapFault]
  rcases w.start s with ⟨e | b, t⟩
  · constructor
    · intro h
      cases h
    · intro h
      cases h
  · constructor
    · intro h
      cases h
      rfl
    · intro h
      cases h
      rfl

theorem start_mapFault_error_iff {g : ε → ε'} {w : Work ε σ α} {s u : σ} {e' : ε'} :
    (w.mapFault g).start s = (.error e', u) ↔ ∃ e, w.start s = (.error e, u) ∧ e' = g e := by
  rw [start_mapFault]
  rcases w.start s with ⟨e | b, t⟩
  · constructor
    · intro h
      cases h
      exact ⟨e, rfl, rfl⟩
    · rintro ⟨e, h, rfl⟩
      cases h
      rfl
  · constructor
    · intro h
      cases h
    · rintro ⟨e, h, -⟩
      cases h

theorem ext {v w : Work ε σ α} (h : ∀ s, v.start s = w.start s) : v = w := funext h

theorem mapFault_bind (g : ε → ε') (w : Work ε σ α) (f : α → Work ε σ γ) :
    (w >>= f).mapFault g = w.mapFault g >>= fun a => (f a).mapFault g := by
  refine ext fun s => ?_
  rw [start_mapFault, start_bind, start_bind, start_mapFault]
  rcases w.start s with ⟨e | a, t⟩
  · rfl
  · rfl

/-! ## One after another -/

/-- The work for each element of a list in turn, without a fault: what it gives, and the states before
and after it. -/
inductive InTurn (f : β → Work ε σ α) : σ → List β → List α → σ → Prop
  | nil (s : σ) : InTurn f s [] [] s
  | cons {s t u : σ} {x : β} {a : α} {xs : List β} {as : List α} (first : (f x).start s = (.ok a, t))
    (rest : InTurn f t xs as u) : InTurn f s (x :: xs) (a :: as) u

theorem start_mapM_ok_iff {f : β → Work ε σ α} {s u : σ} {xs : List β} {as : List α} :
    (xs.mapM f).start s = (.ok as, u) ↔ InTurn f s xs as u := by
  induction xs generalizing s as with
  | nil =>
    constructor
    · intro h
      cases h
      exact .nil u
    · intro h
      cases h
      rfl
  | cons x xs ih =>
    rw [List.mapM_cons, start_bind_ok_iff]
    constructor
    · rintro ⟨a, t, hfirst, h⟩
      obtain ⟨bs, v, hrest, hlast⟩ := start_bind_ok_iff.mp h
      cases hlast
      exact .cons hfirst (ih.mp hrest)
    · rintro (_ | ⟨hfirst, hrest⟩)
      exact ⟨_, _, hfirst, start_bind_ok_iff.mpr ⟨_, u, ih.mpr hrest, rfl⟩⟩

/-- The first fault ends the walk: the elements before it do not fault, and those after it are not worked
on. -/
theorem start_mapM_error_iff {f : β → Work ε σ α} {s u : σ} {xs : List β} {e : ε} :
    (xs.mapM f).start s = (.error e, u) ↔
      ∃ before x after as t, xs = before ++ x :: after ∧ InTurn f s before as t ∧
        (f x).start t = (.error e, u) := by
  induction xs generalizing s with
  | nil =>
    constructor
    · intro h
      cases h
    · rintro ⟨before, x, after, as, t, hxs, -⟩
      exact absurd hxs.symm (List.append_ne_nil_of_right_ne_nil before (List.cons_ne_nil x after))
  | cons x xs ih =>
    rw [List.mapM_cons, start_bind_error_iff]
    constructor
    · rintro (hfirst | ⟨a, t, hfirst, h⟩)
      · exact ⟨[], x, xs, [], s, rfl, .nil s, hfirst⟩
      · rcases start_bind_error_iff.mp h with hrest | ⟨bs, v, -, hlast⟩
        · obtain ⟨before, y, after, as, v, rfl, hbefore, hy⟩ := ih.mp hrest
          exact ⟨x :: before, y, after, a :: as, v, rfl, .cons hfirst hbefore, hy⟩
        · cases hlast
    · rintro ⟨before, y, after, as, t, hxs, hbefore, hy⟩
      cases hbefore with
      | nil =>
        obtain ⟨rfl, rfl⟩ := List.cons.inj hxs
        exact .inl hy
      | cons hfirst hrest =>
        obtain ⟨rfl, rfl⟩ := List.cons.inj hxs
        exact .inr ⟨_, _, hfirst, start_bind_error_iff.mpr
          (.inl (ih.mpr ⟨_, y, after, _, t, rfl, hrest, hy⟩))⟩

/-- Work that is the same wherever the walk comes to. -/
theorem start_mapM_congr {f g : β → Work ε σ α} {s : σ} {xs : List β}
    (h : ∀ before x after as t, xs = before ++ x :: after → InTurn f s before as t →
      (f x).start t = (g x).start t) : (xs.mapM f).start s = (xs.mapM g).start s := by
  induction xs generalizing s with
  | nil => rfl
  | cons x xs ih =>
    rw [List.mapM_cons, List.mapM_cons, start_bind, start_bind, ← h [] x xs [] s rfl (.nil s)]
    rcases hx : (f x).start s with ⟨e | a, t⟩
    · rfl
    · have hrest : (xs.mapM f).start t = (xs.mapM g).start t :=
        ih fun before y after as u hxs hbefore =>
          h (x :: before) y after (a :: as) u (by rw [hxs, List.cons_append]) (.cons hx hbefore)
      show (xs.mapM f >>= fun as => pure (a :: as)).start t =
        (xs.mapM g >>= fun as => pure (a :: as)).start t
      rw [start_bind, start_bind, hrest]

theorem inTurn_mapFault_iff {g : β → ε → ε'} {f : β → Work ε σ α} {s u : σ} {xs : List β} {as : List α} :
    InTurn (fun x => (f x).mapFault (g x)) s xs as u ↔ InTurn f s xs as u := by
  constructor
  · intro h
    induction h with
    | nil s => exact .nil s
    | cons first _ ih => exact .cons (start_mapFault_ok_iff.mp first) ih
  · intro h
    induction h with
    | nil s => exact .nil s
    | cons first _ ih => exact .cons (start_mapFault_ok_iff.mpr first) ih

/-- What every element keeps and gives, the whole list keeps and gives. -/
theorem InTurn.forall₂ {f : β → Work ε σ α} {I : σ → Prop} {post : β → α → Prop}
    (hkeeps : ∀ x s, I s → I ((f x).start s).2)
    (hgives : ∀ x s a, I s → ((f x).start s).1 = .ok a → post x a) {s u : σ} {xs : List β} {as : List α}
    (h : InTurn f s xs as u) (hs : I s) : List.Forall₂ post xs as := by
  induction h with
  | nil => exact .nil
  | @cons s t u x a xs as first _ ih =>
    have hkept := hkeeps x s hs
    rw [first] at hkept
    exact .cons (hgives x s a hs (congrArg (·.1) first)) (ih hkept)

end CarbonIntensity.Work
