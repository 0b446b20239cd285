import CarbonIntensity.Proofs.Query.Grouping

/-!
# Two phases

A validator is put together by calls that require properties, register rules and give names, in any
order and as often as one likes. What it reports of parameters is said of these calls alone:

    (built calls).findings p = expected calls p      (findings_built)

If something is missing, each missing property is reported once and nothing else is; otherwise each rule
that is broken is reported once, and the window if it is bad. Only which properties are required, which
rules are registered and which names were given last counts (validate_built).
-/

namespace CarbonIntensity

/-! ## Rules and messages -/

namespace Relationship

def all : List Relationship := [.startBeforeStop, .startIfStop]

/-- The parameters break the rule. -/
def BrokenBy (p : Parameters) : Relationship → Prop
  | .startBeforeStop => OutOfOrder p.start p.stop
  | .startIfStop => p.start = none ∧ p.stop ≠ none

theorem mem_all (rule : Relationship) : rule ∈ all := by cases rule <;> decide

theorem nodup_all : all.Nodup := by decide

end Relationship

namespace DisplayNames

/-- The message about a required property that is missing. -/
def notSet (names : DisplayNames) (property : Property) : String × String :=
  (names.name property, names.name property ++ " is not set")

/-- The message about a broken rule, which stands under the name of the start. -/
def broken (names : DisplayNames) : Relationship → String × String
  | .startBeforeStop =>
    (names.name .start, names.name .start ++ " must be before " ++ names.name .stop)
  | .startIfStop =>
    (names.name .start,
      names.name .start ++ " must be defined if " ++ names.name .stop ++ " is defined")

/-- The message about a bad window. -/
def badWindow (names : DisplayNames) (d : Span) : String × String :=
  (names.name .window, names.name .window ++
    if d < Span.zero then " must not be negative" else " must not exceed 525600 minutes")

end DisplayNames

namespace Validator

/-! ## Calls -/

/-- A call that a validator is put together with. -/
inductive Call where
  | require (properties : List Property)
  | check (rules : List Relationship)
  | withNames (names : DisplayNames)
deriving DecidableEq

def Call.names? : Call → Option DisplayNames
  | .withNames names => some names
  | _ => none

def after (v : Validator) : Call → Validator
  | .require properties => v.require properties
  | .check rules => v.check rules
  | .withNames names => v.withNames names

def built (calls : List Call) : Validator := calls.foldl after usual

/-- Some call requires the property. -/
def Requires (calls : List Call) (property : Property) : Prop :=
  ∃ properties, .require properties ∈ calls ∧ property ∈ properties

/-- Some call registers the rule, or it is the one that is always registered. -/
def Registers (calls : List Call) (rule : Relationship) : Prop :=
  rule = .startBeforeStop ∨ ∃ rules, .check rules ∈ calls ∧ rule ∈ rules

/-- The names that were given last, or the usual ones. -/
def namesOf (calls : List Call) : DisplayNames :=
  (calls.filterMap Call.names?).getLast?.getD DisplayNames.usual

/-- The calls require the same properties, register the same rules and end with the same names. -/
structure Alike (calls calls' : List Call) : Prop where
  required : ∀ property, Requires calls property ↔ Requires calls' property
  registered : ∀ rule, Registers calls rule ↔ Registers calls' rule
  names : namesOf calls = namesOf calls'

/-- Neither the order of the calls nor their repetition matters, but for which names come last. -/
theorem alike_of_mem_iff {calls calls' : List Call} (h : ∀ call, call ∈ calls ↔ call ∈ calls')
    (hnames : namesOf calls = namesOf calls') : Alike calls calls' where
  required _ := exists_congr fun _ => and_congr_left fun _ => h _
  registered _ := or_congr_right (exists_congr fun _ => and_congr_left fun _ => h _)
  names := hnames

section AppendNew

variable {α : Type} [BEq α] [LawfulBEq α] {old : List α}

theorem mem_appendNew {new : List α} {a : α} : a ∈ appendNew old new ↔ a ∈ old ∨ a ∈ new := by
  unfold appendNew
  induction new generalizing old with
  | nil => simp
  | cons b rest ih =>
    rw [List.foldl_cons, ih, List.mem_cons]
    split
    · next hold =>
      have hb : b ∈ old := List.contains_iff_mem.mp hold
      constructor
      · exact fun h => h.imp_right .inr
      · rintro (h | rfl | h)
        · exact .inl h
        · exact .inl hb
        · exact .inr h
    · rw [List.mem_append, List.mem_singleton, or_assoc]

theorem nodup_appendNew (h : old.Nodup) (new : List α) : (appendNew old new).Nodup := by
  unfold appendNew
  induction new generalizing old with
  | nil => exact h
  | cons b rest ih =>
    rw [List.foldl_cons]
    refine ih ?_
    split
    · exact h
    · next hnew =>
      have hb : b ∉ old := fun hmem => hnew (List.contains_iff_mem.mpr hmem)
      exact List.nodup_append.mpr ⟨h, List.nodup_singleton b, fun a ha c hc heq => hb (by
        rw [← List.mem_singleton.mp hc, ← heq]
        exact ha)⟩

end AppendNew

theorem built_append (calls : List Call) (call : Call) :
    built (calls ++ [call]) = (built calls).after call := by
  unfold built
  rw [List.foldl_append]
  rfl

theorem mem_required_built {calls : List Call} {property : Property} :
    property ∈ (built calls).required ↔ Requires calls property := by
  unfold Requires
  induction calls using List.reverseRecOn with
  | nil => simp [built, usual]
  | append_singleton calls call ih =>
    rw [built_append]
    cases call with
    | require properties =>
      show property ∈ appendNew (built calls).required properties ↔ _
      rw [mem_appendNew, ih]
      simp [or_and_right, exists_or]
    | check rules =>
      show property ∈ (built calls).required ↔ _
      simp [ih]
    | withNames names =>
      show property ∈ (built calls).required ↔ _
      simp [ih]

theorem mem_relationships_built {calls : List Call} {rule : Relationship} :
    rule ∈ (built calls).relationships ↔ Registers calls rule := by
  unfold Registers
  induction calls using List.reverseRecOn with
  | nil => simp [built, usual]
  | append_singleton calls call ih =>
    rw [built_append]
    cases call with
    | require properties =>
      show rule ∈ (built calls).relationships ↔ _
      simp [ih]
    | check rules =>
      show rule ∈ appendNew (built calls).relationships rules ↔ _
      rw [mem_appendNew, ih]
      simp [or_and_right, exists_or, or_assoc]
    | withNames names =>
      show rule ∈ (built calls).relationships ↔ _
      simp [ih]

theorem nodup_relationships_built (calls : List Call) : (built calls).relationships.Nodup := by
  induction calls using List.reverseRecOn with
  | nil => exact List.nodup_singleton _
  | append_singleton calls call ih =>
    rw [built_append]
    cases call with
    | require properties => exact ih
    | check rules => exact nodup_appendNew ih rules
    | withNames names => exact ih

theorem names_built (calls : List Call) : (built calls).names = namesOf calls := by
  unfold namesOf
  induction calls using List.reverseRecOn with
  | nil => rfl
  | append_singleton calls call ih =>
    rw [built_append, List.filterMap_append]
    cases call with
    | require properties =>
      show (built calls).names = _
      simp [Call.names?, ih]
    | check rules =>
      show (built calls).names = _
      simp [Call.names?, ih]
    | withNames names =>
      show names = _
      simp [Call.names?]

/-! ## What is reported -/

instance : ∀ start stop, Decidable (OutOfOrder start stop)
  | none, _ => isFalse fun ⟨_, _, h, _⟩ => nomatch h
  | some _, none => isFalse fun ⟨_, _, _, h, _⟩ => nomatch h
  | some a, some b => decidable_of_iff (b ≤ a) ⟨fun h => ⟨a, b, rfl, rfl, h⟩,
      fun ⟨_, _, ha, hb, h⟩ => by cases ha; cases hb; exact h⟩

instance : ∀ window, Decidable (BadWindow window)
  | none => isFalse not_badWindow_none
  | some d => decidable_of_iff (d < Span.zero ∨ (windowLimit : Int) < d.wholeMinutes)
      ⟨fun h => ⟨d, rfl, h⟩, fun ⟨_, hd, h⟩ => Option.some.inj hd ▸ h⟩

instance (p : Parameters) : ∀ rule, Decidable (Relationship.BrokenBy p rule)
  | .startBeforeStop => inferInstanceAs (Decidable (OutOfOrder p.start p.stop))
  | .startIfStop => inferInstanceAs (Decidable (p.start = none ∧ p.stop ≠ none))

instance (calls : List Call) (property : Property) : Decidable (Requires calls property) :=
  decidable_of_iff _ mem_required_built

instance (calls : List Call) (rule : Relationship) : Decidable (Registers calls rule) :=
  decidable_of_iff _ mem_relationships_built

/-- The required properties that are missing, in the order of reports. -/
def missing (calls : List Call) (p : Parameters) : List Property :=
  Property.all.filter fun property => Requires calls property ∧ p.isSet property = false

/-- The registered rules that are broken. -/
def brokenRules (calls : List Call) (p : Parameters) : List Relationship :=
  Relationship.all.filter fun rule => Registers calls rule ∧ rule.BrokenBy p

/-- The messages of the second phase. -/
def faults (calls : List Call) (p : Parameters) : List (String × String) :=
  (brokenRules calls p).map (namesOf calls).broken ++
    if BadWindow p.window then (p.window.map (namesOf calls).badWindow).toList else []

/-- The messages that the calls stand for. -/
def expected (calls : List Call) (p : Parameters) : List (String × String) :=
  if missing calls p = [] then faults calls p else (missing calls p).map (namesOf calls).notSet

theorem missing_built (calls : List Call) (p : Parameters) :
    Property.all.filterMap ((built calls).missing? p) = (missing calls p).map (namesOf calls).notSet := by
  unfold missing
  rw [← List.filterMap_eq_map, List.filterMap_filter]
  refine List.filterMap_congr fun property _ => ?_
  unfold missing?
  simp only [mem_required_built, names_built, decide_eq_true_iff]
  rfl

theorem broken?_eq (v : Validator) (p : Parameters) (rule : Relationship) :
    v.broken? p rule = if rule.BrokenBy p then some (v.names.broken rule) else none := by
  split
  · next h =>
    cases rule with
    | startBeforeStop =>
      obtain ⟨a, b, ha, hb, hle⟩ := h
      unfold broken?
      simp only [ha, hb, if_pos hle]
      rfl
    | startIfStop =>
      obtain ⟨hstart, hstop⟩ := h
      obtain ⟨b, hb⟩ := Option.ne_none_iff_exists'.mp hstop
      unfold broken?
      simp only [hstart, hb]
      rfl
  · next h =>
    cases rule with
    | startBeforeStop => exact broken?_startBeforeStop.mpr h
    | startIfStop =>
      exact broken?_startIfStop.mpr fun hstart => Classical.not_not.mp fun hstop => h ⟨hstart, hstop⟩

/-- Without a start the order cannot be wrong, so that no two rules are broken at once. -/
theorem length_brokenRules_le (calls : List Call) (p : Parameters) : (brokenRules calls p).length ≤ 1 := by
  unfold brokenRules Relationship.all
  rw [List.filter_cons, List.filter_cons, List.filter_nil]
  simp only [decide_eq_true_iff]
  split
  · next hordered =>
    obtain ⟨-, a, -, ha, -⟩ := hordered
    rw [if_neg]
    · exact Nat.le_refl 1
    · rintro ⟨-, hnone, -⟩
      exact nomatch ha.symm.trans hnone
  · split
    · exact Nat.le_refl 1
    · exact Nat.zero_le 1

/-- In which order the rules were registered does not matter, since at most one is broken. -/
theorem broken_built (calls : List Call) (p : Parameters) :
    (built calls).relationships.filterMap ((built calls).broken? p) =
      (brokenRules calls p).map (namesOf calls).broken := by
  have hregistered : (built calls).relationships.Perm
      (Relationship.all.filter fun rule => Registers calls rule) := by
    refine (List.perm_ext_iff_of_nodup (nodup_relationships_built calls)
      (Relationship.nodup_all.filter _)).mpr fun rule => ?_
    rw [mem_relationships_built, List.mem_filter, decide_eq_true_iff]
    exact ⟨fun h => ⟨rule.mem_all, h⟩, fun h => h.2⟩
  have hbroken : (Relationship.all.filter fun rule => Registers calls rule).filterMap
      ((built calls).broken? p) = (brokenRules calls p).map (namesOf calls).broken := by
    unfold brokenRules
    rw [← List.filterMap_eq_map, List.filterMap_filter, List.filterMap_filter]
    refine List.filterMap_congr fun rule _ => ?_
    rw [broken?_eq, names_built]
    by_cases hreg : Registers calls rule
    · simp [hreg]
    · simp [hreg]
  have hperm := hregistered.filterMap ((built calls).broken? p)
  rw [hbroken] at hperm
  have hle := length_brokenRules_le calls p
  cases hrules : brokenRules calls p with
  | nil =>
    rw [hrules] at hperm
    exact List.perm_nil.mp hperm
  | cons rule rest =>
    rw [hrules, List.length_cons] at hle
    obtain rfl : rest = [] := List.length_eq_zero_iff.mp (by omega)
    rw [hrules] at hperm
    exact List.perm_singleton.mp hperm

theorem badWindow?_eq (v : Validator) (p : Parameters) :
    v.badWindow? p = if BadWindow p.window then p.window.map v.names.badWindow else none := by
  have htext : ∀ name : String, name ++ " must not exceed " ++ Text.ofNat windowLimit ++ " minutes" =
      name ++ " must not exceed 525600 minutes" := by
    intro name
    rw [String.append_assoc, String.append_assoc]
    rfl
  split
  · next h =>
    obtain ⟨d, hd, hbad⟩ := h
    unfold badWindow? DisplayNames.badWindow
    simp only [hd, Option.map_some, htext]
    by_cases hneg : d < Span.zero
    · rw [if_pos hneg, if_pos hneg]
    · rw [if_neg hneg, if_neg hneg, if_pos (hbad.resolve_left hneg)]
  · next h => exact badWindow?_eq_none_iff.mpr h

theorem findings_built (calls : List Call) (p : Parameters) :
    (built calls).findings p = expected calls p := by
  unfold findings expected faults
  simp only [missing_built, broken_built, badWindow?_eq, names_built, List.isEmpty_iff,
    List.map_eq_nil_iff]
  congr 2
  split
  · rfl
  · rfl

theorem faults_eq_nil_iff {calls : List Call} {p : Parameters} :
    faults calls p = [] ↔ brokenRules calls p = [] ∧ ¬BadWindow p.window := by
  unfold faults
  rw [List.append_eq_nil_iff, List.map_eq_nil_iff]
  refine and_congr_right fun _ => ?_
  split
  · next h =>
    obtain ⟨d, hd, -⟩ := id h
    rw [hd]
    exact iff_of_false (List.cons_ne_nil _ _) (not_not_intro (hd ▸ h))
  · next h => exact iff_of_true rfl h

theorem expected_eq_nil_iff {calls : List Call} {p : Parameters} :
    expected calls p = [] ↔ missing calls p = [] ∧ brokenRules calls p = [] ∧ ¬BadWindow p.window := by
  unfold expected
  split
  · next h => rw [faults_eq_nil_iff, and_iff_right h]
  · next h => exact iff_of_false (mt List.map_eq_nil_iff.mp h) fun hnil => h hnil.1

theorem Alike.expected_eq {calls calls' : List Call} (h : Alike calls calls') (p : Parameters) :
    expected calls p = expected calls' p := by
  unfold expected faults missing brokenRules
  simp only [h.required, h.registered, h.names]

/-- **Two phases.** Parameters pass exactly if nothing required is missing, no registered rule is broken
and the window is good, and then they are given back as they are. Otherwise there is one message for each
missing property, under its name, and no other; or, if nothing is missing, one for each broken rule and
one for a bad window. Names may be shared, and of the calls only what they come to counts. -/
theorem validate_built (calls : List Call) (p : Parameters) :
    (∀ p', (built calls).validate p = .ok p' ↔
      p' = p ∧ missing calls p = [] ∧ brokenRules calls p = [] ∧ ¬BadWindow p.window) ∧
    (∀ violations, (built calls).validate p = .error violations ↔
      (missing calls p ≠ [] ∧ violations.Groups ((missing calls p).map (namesOf calls).notSet)) ∨
        (missing calls p = [] ∧ faults calls p ≠ [] ∧ violations.Groups (faults calls p))) ∧
    ∀ calls', Alike calls calls' → (built calls').validate p = (built calls).validate p := by
  have hvalidate : (built calls).validate p =
      if expected calls p = [] then .ok p else .error (report (expected calls p)) := by
    unfold validate
    simp only [findings_built, List.isEmpty_iff]
  refine ⟨fun p' => ?_, fun violations => ?_, fun calls' halike => ?_⟩
  · rw [hvalidate, ← expected_eq_nil_iff]
    split
    · next h => simp [h, eq_comm]
    · next h => simp [h]
  · -- The report is the only way to group the messages.
    have hreport : ∀ messages, report messages = violations ↔ violations.Groups messages := fun messages =>
      ⟨fun h => h ▸ Violations.groups_report messages, (Violations.groups_report messages).unique⟩
    rw [hvalidate]
    by_cases hmissing : missing calls p = []
    · have hexpected : expected calls p = faults calls p := if_pos hmissing
      by_cases hfaults : faults calls p = []
      · simp [hexpected, hmissing, hfaults]
      · simp [hexpected, hmissing, hfaults, hreport]
    · have hexpected : expected calls p = (missing calls p).map (namesOf calls).notSet := if_neg hmissing
      simp [hexpected, hmissing, hreport]
  · unfold validate
    simp only [findings_built, halike.expected_eq]

/-- Calls that require two properties and give them one name. -/
def sharing : List Call :=
  [.require [.location], .check [.startIfStop], .require [.requested],
    .withNames ((DisplayNames.usual.rename .location "where").rename .requested "where")]

/-- The same calls in another order, some of them repeated. -/
def sharingAgain : List Call :=
  [.require [.requested], .withNames ((DisplayNames.usual.rename .location "where").rename .requested "where"),
    .require [.location], .require [.requested], .check [.startIfStop]]

/-- Parameters that lack both properties, end before they start and have too long a window. -/
def backwards : Parameters :=
  { start := some Instant.latest, stop := some Instant.earliest, window := some Span.longest }

/-- Both missing properties are reported under their one name, and nothing else is. -/
theorem validate_built_shared_name :
    Alike sharing sharingAgain ∧
      (built sharingAgain).validate backwards = (built sharing).validate backwards ∧
      ∃ violations, (built sharing).validate backwards = .error violations ∧
        violations.Groups [("where", "where is not set"), ("where", "where is not set")] := by
  have hcalls : ∀ call, call ∈ sharing ↔ call ∈ sharingAgain := by
    intro call
    simp only [sharing, sharingAgain, List.mem_cons, List.not_mem_nil, or_false]
    grind
  have halike : Alike sharing sharingAgain := alike_of_mem_iff hcalls rfl
  obtain ⟨-, herror, hagain⟩ := validate_built sharing backwards
  have hmissing : missing sharing backwards = [.location, .requested] := by decide
  refine ⟨halike, hagain _ halike, report _, (herror _).mpr (.inl ?_), Violations.groups_report _⟩
  rw [hmissing]
  exact ⟨List.cons_ne_nil _ _, Violations.groups_report _⟩

end Validator

end CarbonIntensity
