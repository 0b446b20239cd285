import CarbonIntensity.Query.Validator

/-!
# Which parameters pass

What passes a validator is said of the parameters alone, without the messages and the two phases in
which they are found:

    v.findings p = [] ↔ v.Passes p            (findings_eq_nil_iff)

so that parameters that pass are given back as they are, and all others give violations.
-/

namespace CarbonIntensity

/-- Some name is not blank. -/
def Named (names : List String) : Prop := ∃ name ∈ names, Text.isBlankText name = false

/-- The start and the end are both given, and the start is not before the end. -/
def OutOfOrder (start stop : Option Instant) : Prop :=
  ∃ a b, start = some a ∧ stop = some b ∧ b ≤ a

/-- The window is given, and it is negative or longer than a year. -/
def BadWindow (window : Option Span) : Prop :=
  ∃ d, window = some d ∧ (d < Span.zero ∨ (Validator.windowLimit : Int) < d.wholeMinutes)

theorem not_badWindow_none : ¬BadWindow none := fun ⟨_, h, _⟩ => nomatch h

namespace Validator

/-- Parameters that nothing is reported of. -/
structure Passes (v : Validator) (p : Parameters) : Prop where
  given : ∀ property ∈ v.required, p.isSet property = true
  ordered : .startBeforeStop ∈ v.relationships → ¬OutOfOrder p.start p.stop
  started : .startIfStop ∈ v.relationships → p.start = none → p.stop = none
  window : ¬BadWindow p.window

/-! ## What is reported -/

theorem missing?_eq_none_iff {v : Validator} {p : Parameters} {property : Property} :
    v.missing? p property = none ↔ (property ∈ v.required → p.isSet property = true) := by
  unfold missing?
  rw [ite_eq_right_iff]
  simp only [reduceCtorEq, imp_false, not_and, Bool.not_eq_false]

theorem missing_eq_nil_iff {v : Validator} {p : Parameters} :
    Property.all.filterMap (v.missing? p) = [] ↔ ∀ property ∈ v.required, p.isSet property = true := by
  rw [List.filterMap_eq_nil_iff]
  exact ⟨fun h property => missing?_eq_none_iff.mp (h property property.mem_all),
    fun h property _ => missing?_eq_none_iff.mpr (h property)⟩

theorem broken?_startBeforeStop {v : Validator} {p : Parameters} :
    v.broken? p .startBeforeStop = none ↔ ¬OutOfOrder p.start p.stop := by
  unfold broken? OutOfOrder
  cases p.start <;> cases p.stop <;> simp

theorem broken?_startIfStop {v : Validator} {p : Parameters} :
    v.broken? p .startIfStop = none ↔ (p.start = none → p.stop = none) := by
  unfold broken?
  cases p.start <;> cases p.stop <;> simp

theorem badWindow?_eq_none_iff {v : Validator} {p : Parameters} :
    v.badWindow? p = none ↔ ¬BadWindow p.window := by
  unfold badWindow? BadWindow
  cases p.window with
  | none => simp
  | some d =>
    by_cases hneg : d < Span.zero
    · simp [hneg]
    · by_cases hlong : (windowLimit : Int) < d.wholeMinutes
      · simp [hneg, hlong]
      · simp [hneg, hlong]

/-- Nothing is reported of the parameters that pass, and of no others. -/
theorem findings_eq_nil_iff {v : Validator} {p : Parameters} : v.findings p = [] ↔ v.Passes p := by
  unfold findings
  simp only [List.isEmpty_iff]
  split
  · next hnil =>
    have hgiven := missing_eq_nil_iff.mp hnil
    rw [List.append_eq_nil_iff, List.filterMap_eq_nil_iff, Option.toList_eq_nil_iff,
      badWindow?_eq_none_iff]
    constructor
    · rintro ⟨hrules, hwindow⟩
      exact ⟨hgiven, fun h => broken?_startBeforeStop.mp (hrules _ h),
        fun h => broken?_startIfStop.mp (hrules _ h), hwindow⟩
    · refine fun h => ⟨fun rule hrule => ?_, h.window⟩
      cases rule with
      | startBeforeStop => exact broken?_startBeforeStop.mpr (h.ordered hrule)
      | startIfStop => exact broken?_startIfStop.mpr (h.started hrule)
  · next hmissing => exact ⟨fun h => absurd h hmissing, fun h => missing_eq_nil_iff.mpr h.given⟩

theorem validate_of_passes {v : Validator} {p : Parameters} (h : v.Passes p) : v.validate p = .ok p := by
  unfold validate
  rw [findings_eq_nil_iff.mpr h]
  rfl

theorem validate_of_not_passes {v : Validator} {p : Parameters} (h : ¬v.Passes p) :
    v.validate p = .error (report (v.findings p)) := by
  unfold validate
  have hne : ¬(v.findings p).isEmpty = true := fun hempty =>
    h (findings_eq_nil_iff.mp (List.isEmpty_iff.mp hempty))
  exact if_neg hne

end Validator

/-! ## Names of locations -/

namespace Parameters

theorem isSet_withLocations {p : Parameters} {names : List String} :
    (p.withLocations names).isSet .locations = true ↔ Named names := by
  show (!(names.filter fun name => !Text.isBlankText name).isEmpty) = true ↔ _
  rw [Bool.not_eq_true', Bool.eq_false_iff, Ne, List.isEmpty_iff, List.filter_eq_nil_iff]
  simp [Named]

theorem isSet_withLocation {p : Parameters} {name : String} :
    (p.withLocation name).isSet .location = true ↔ Text.isBlankText name = false := by
  show (if Text.isBlankText name = true then none else some name).isSome = true ↔ _
  cases Text.isBlankText name <;> simp

end Parameters

end CarbonIntensity
