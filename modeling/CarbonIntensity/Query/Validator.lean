import CarbonIntensity.Fault
import CarbonIntensity.Query.Parameters

/-!
# Validation

Parameters are checked in two phases. First all required properties have to be given, and every one
that is missing is reported. Only if none is missing the rules about two properties and the bounds of
the window are checked, and everything that breaks them is reported.
-/

namespace CarbonIntensity

structure Validator where
  required : List Property
  relationships : List Relationship
  names : DisplayNames
deriving DecidableEq, Inhabited

/-- The elements of `new` that `old` lacks, put after `old`. -/
def appendNew {α : Type} [BEq α] (old new : List α) : List α :=
  new.foldl (fun acc a => if acc.contains a then acc else acc ++ [a]) old

namespace Validator

/-- Nothing is required, and start has to be before end. -/
def usual : Validator := ⟨[], [.startBeforeStop], DisplayNames.usual⟩

def require (v : Validator) (properties : List Property) : Validator :=
  { v with required := appendNew v.required properties }

def check (v : Validator) (relationships : List Relationship) : Validator :=
  { v with relationships := appendNew v.relationships relationships }

def withNames (v : Validator) (names : DisplayNames) : Validator := { v with names := names }

/-- The longest window in minutes, a year. -/
def windowLimit : Nat := 525600

/-- The name and the message of a required property that is missing. -/
def missing? (v : Validator) (p : Parameters) (property : Property) : Option (String × String) :=
  if property ∈ v.required ∧ p.isSet property = false then
    some (v.names.name property, v.names.name property ++ " is not set")
  else none

/-- What is reported if a rule is broken, under the name of the start. -/
def broken? (v : Validator) (p : Parameters) (rule : Relationship) : Option (String × String) :=
  let start := v.names.name .start
  let stop := v.names.name .stop
  match rule, p.start, p.stop with
  | .startBeforeStop, some a, some b =>
    if b ≤ a then some (start, start ++ " must be before " ++ stop) else none
  | .startIfStop, none, some _ =>
    some (start, start ++ " must be defined if " ++ stop ++ " is defined")
  | _, _, _ => none

/-- What is reported if the window is too short or too long. -/
def badWindow? (v : Validator) (p : Parameters) : Option (String × String) :=
  let name := v.names.name .window
  match p.window with
  | none => none
  | some d =>
    if d < Span.zero then some (name, name ++ " must not be negative")
    else if (windowLimit : Int) < d.wholeMinutes then
      some (name, name ++ " must not exceed " ++ Text.ofNat windowLimit ++ " minutes")
    else none

def report (messages : List (String × String)) : Violations :=
  messages.foldl (fun v m => v.add m.1 m.2) Violations.none

/-- The messages of the first phase that has any. -/
def findings (v : Validator) (p : Parameters) : List (String × String) :=
  let missing := Property.all.filterMap (v.missing? p)
  if missing.isEmpty then v.relationships.filterMap (v.broken? p) ++ (v.badWindow? p).toList
  else missing

def validate (v : Validator) (p : Parameters) : Except Violations Parameters :=
  let found := v.findings p
  if found.isEmpty then .ok p else .error (report found)

end Validator

end CarbonIntensity
