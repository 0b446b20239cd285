import CarbonIntensity.Proofs.Query.Validator
import Mathlib.Data.List.Induction
import Mathlib.Data.List.Nodup

/-!
# Messages grouped by name

Violations that messages were added to, one after another, hold these messages and no others: each name
has its texts in the order in which they were added, and the names are in the order of their characters,

    (Validator.report messages).Groups messages      (groups_report)

also where several messages have the same name. This leaves no choice: violations that hold the same
messages are the same.
-/

namespace CarbonIntensity.Violations

/-- The texts of the messages of a name. -/
def textsOf (name : String) (messages : List (String × String)) : List String :=
  (messages.filter fun m => m.1 = name).map Prod.snd

/-- The violations are the messages put under their names. -/
structure Groups (v : Violations) (messages : List (String × String)) : Prop where
  sorted : v.entries.Pairwise fun a b => a.1 < b.1
  filed : ∀ name, v.messages? name =
    if textsOf name messages = [] then Option.none else some (textsOf name messages)

theorem textsOf_append (name : String) (ms ms' : List (String × String)) :
    textsOf name (ms ++ ms') = textsOf name ms ++ textsOf name ms' := by
  unfold textsOf
  rw [List.filter_append, List.map_append]

theorem textsOf_singleton (name : String) (m : String × String) :
    textsOf name [m] = if m.1 = name then [m.2] else [] := by
  unfold textsOf
  by_cases h : m.1 = name
  · simp [h]
  · simp [h]

theorem mem_textsOf {name text : String} {messages : List (String × String)} :
    text ∈ textsOf name messages ↔ (name, text) ∈ messages := by
  unfold textsOf
  constructor
  · intro h
    obtain ⟨m, hm, rfl⟩ := List.mem_map.mp h
    obtain ⟨hm, hname⟩ := List.mem_filter.mp hm
    rw [← of_decide_eq_true hname]
    exact hm
  · intro h
    exact List.mem_map.mpr ⟨_, List.mem_filter.mpr ⟨h, decide_eq_true rfl⟩, rfl⟩

/-! ## Adding a message -/

section Insert

variable {name message : String} {es : List (String × List String)}

theorem name_of_mem_insert {e : String × List String} (h : e ∈ insert name message es) :
    e.1 = name ∨ ∃ e' ∈ es, e'.1 = e.1 := by
  induction es with
  | nil => exact .inl (congrArg Prod.fst (List.mem_singleton.mp h))
  | cons head rest ih =>
    obtain ⟨n, texts⟩ := head
    unfold insert at h
    split at h
    · next heq =>
      rcases List.mem_cons.mp h with rfl | hrest
      · exact .inl heq.symm
      · exact .inr ⟨e, List.mem_cons_of_mem _ hrest, rfl⟩
    · split at h
      · rcases List.mem_cons.mp h with rfl | hold
        · exact .inl rfl
        · exact .inr ⟨e, hold, rfl⟩
      · rcases List.mem_cons.mp h with rfl | hrest
        · exact .inr ⟨_, List.mem_cons_self, rfl⟩
        · exact (ih hrest).imp_right fun ⟨e', hmem, heq⟩ => ⟨e', List.mem_cons_of_mem _ hmem, heq⟩

theorem sorted_insert (h : es.Pairwise fun a b => a.1 < b.1) :
    (insert name message es).Pairwise fun a b => a.1 < b.1 := by
  induction es with
  | nil => exact List.pairwise_singleton _ _
  | cons head rest ih =>
    obtain ⟨n, texts⟩ := head
    obtain ⟨hhead, hrest⟩ := List.pairwise_cons.mp h
    unfold insert
    split
    · exact List.pairwise_cons.mpr ⟨hhead, hrest⟩
    · next hne =>
      split
      · next hlt =>
        refine List.pairwise_cons.mpr ⟨fun e he => ?_, h⟩
        rcases List.mem_cons.mp he with rfl | he
        · exact hlt
        · exact String.lt_trans hlt (hhead e he)
      · next hnot =>
        -- The new name comes after the head, since it is neither the head's name nor before it.
        have hafter : n < name :=
          Std.lt_of_le_of_ne (String.not_lt.mp hnot) fun heq => hne heq.symm
        refine List.pairwise_cons.mpr ⟨fun e he => ?_, ih hrest⟩
        rcases name_of_mem_insert he with heq | ⟨e', he', heq⟩
        · rw [heq]
          exact hafter
        · rw [← heq]
          exact hhead e' he'

theorem lookup_of_before (h : ∀ e ∈ es, name < e.1) : es.lookup name = Option.none := by
  refine List.lookup_eq_none_iff.mpr fun e he => bne_iff_ne.mpr fun heq => ?_
  have hlt := h e he
  rw [← heq] at hlt
  exact String.lt_irrefl name hlt

theorem lookup_cons_of_ne {n k : String} (h : n ≠ k) (texts : List String) :
    List.lookup n ((k, texts) :: es) = es.lookup n := by
  rw [List.lookup_cons, beq_false_of_ne h]

/-- Only the name of the message is touched, and its texts are kept. -/
theorem lookup_insert (h : es.Pairwise fun a b => a.1 < b.1) (n : String) :
    (insert name message es).lookup n =
      if n = name then some ((es.lookup name).getD [] ++ [message]) else es.lookup n := by
  induction es with
  | nil =>
    by_cases hn : n = name
    · rw [hn, if_pos rfl]
      exact List.lookup_cons_self
    · rw [if_neg hn]
      exact lookup_cons_of_ne hn _
  | cons head rest ih =>
    obtain ⟨k, texts⟩ := head
    obtain ⟨hhead, hrest⟩ := List.pairwise_cons.mp h
    unfold insert
    by_cases hk : name = k
    · subst hk
      rw [if_pos rfl, List.lookup_cons_self]
      by_cases hn : n = name
      · rw [hn, if_pos rfl, List.lookup_cons_self, Option.getD_some]
      · rw [if_neg hn, lookup_cons_of_ne hn, lookup_cons_of_ne hn]
    · rw [if_neg hk]
      split
      · next hlt =>
        have hnone : List.lookup name ((k, texts) :: rest) = Option.none := by
          refine lookup_of_before fun e he => ?_
          rcases List.mem_cons.mp he with rfl | he
          · exact hlt
          · exact String.lt_trans hlt (hhead e he)
        by_cases hn : n = name
        · rw [hn, if_pos rfl, List.lookup_cons_self, hnone]
          rfl
        · rw [if_neg hn, lookup_cons_of_ne hn]
      · rw [lookup_cons_of_ne hk]
        by_cases hn : n = k
        · rw [hn, if_neg (Ne.symm hk), List.lookup_cons_self, List.lookup_cons_self]
        · rw [lookup_cons_of_ne hn, lookup_cons_of_ne hn, ih hrest]

end Insert

/-! ## Reports -/

theorem groups_none : Groups none [] where
  sorted := List.Pairwise.nil
  filed _ := rfl

theorem Groups.add {v : Violations} {messages : List (String × String)} (h : v.Groups messages)
    (m : String × String) : (v.add m.1 m.2).Groups (messages ++ [m]) where
  sorted := sorted_insert h.sorted
  filed name := by
    show (insert m.1 m.2 v.entries).lookup name = _
    rw [lookup_insert h.sorted, textsOf_append, textsOf_singleton]
    have hfiled : v.entries.lookup m.1 = _ := h.filed m.1
    have hother : v.entries.lookup name = _ := h.filed name
    by_cases hname : name = m.1
    · subst hname
      rw [if_pos rfl, if_pos rfl, hfiled, if_neg (List.append_ne_nil_of_right_ne_nil _ (List.cons_ne_nil _ _))]
      split
      · next hnil => rw [hnil]; rfl
      · rfl
    · rw [if_neg hname, if_neg (Ne.symm hname), List.append_nil, hother]

/-- A report holds its messages. -/
theorem groups_report (messages : List (String × String)) :
    (Validator.report messages).Groups messages := by
  induction messages using List.reverseRecOn with
  | nil => exact groups_none
  | append_singleton ms m ih =>
    unfold Validator.report
    rw [List.foldl_append]
    exact ih.add m

theorem nodup_names {v : Violations} {messages : List (String × String)} (h : v.Groups messages) :
    (v.entries.map Prod.fst).Nodup := by
  refine List.pairwise_map.mpr (h.sorted.imp fun {a b} hlt heq => ?_)
  rw [heq] at hlt
  exact String.lt_irrefl _ hlt

/-- Messages can be grouped in one way only. -/
theorem Groups.unique {v w : Violations} {messages : List (String × String)} (hv : v.Groups messages)
    (hw : w.Groups messages) : v = w := by
  have hmem : ∀ e : String × List String, e ∈ v.entries ↔ e ∈ w.entries := by
    intro e
    rw [← Assoc.lookup_eq_some_iff_mem (nodup_names hv), ← Assoc.lookup_eq_some_iff_mem (nodup_names hw)]
    exact Eq.congr_left ((hv.filed e.1).trans (hw.filed e.1).symm)
  have hperm : v.entries.Perm w.entries :=
    (List.perm_ext_iff_of_nodup (List.Nodup.of_map _ (nodup_names hv))
      (List.Nodup.of_map _ (nodup_names hw))).mpr hmem
  have heq : v.entries = w.entries :=
    hperm.eq_of_pairwise (fun a b _ _ hab hba => absurd hba (String.lt_asymm hab)) hv.sorted hw.sorted
  exact congrArg Violations.mk heq

theorem Groups.messages?_of_mem {v : Violations} {messages : List (String × String)} (h : v.Groups messages)
    {name text : String} (hmem : (name, text) ∈ messages) :
    ∃ texts, v.messages? name = some texts ∧ text ∈ texts := by
  have htext := mem_textsOf.mpr hmem
  refine ⟨_, ?_, htext⟩
  rw [h.filed, if_neg (List.ne_nil_of_mem htext)]

end CarbonIntensity.Violations
