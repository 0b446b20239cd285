import CarbonIntensity.Failure
import CarbonIntensity.Json.Document
import CarbonIntensity.Series.Basic

/-!
# Faults of queries

Why a query has no result: its parameters, a provider, the data, or the configuration. A query over
several locations says at which one it failed.

The messages about parameters are grouped by the parameter's name: names are in the order of their
characters and the messages of one name in the order they were added.

A whole program reports why it gave up by a message and what lies beneath it, outermost first. The causes
stand in lines of their own, indented, and numbered if there are several.
-/

namespace CarbonIntensity

/-! ## Violations -/

structure Violations where
  entries : List (String × List String)
deriving DecidableEq, Inhabited

namespace Violations

def none : Violations := ⟨[]⟩

/-- Puts a message after those of the same name. -/
def insert (name message : String) : List (String × List String) → List (String × List String)
  | [] => [(name, [message])]
  | (n, messages) :: rest =>
    if name = n then (n, messages ++ [message]) :: rest
    else if name < n then (name, [message]) :: (n, messages) :: rest
    else (n, messages) :: insert name message rest

def add (v : Violations) (name message : String) : Violations := ⟨insert name message v.entries⟩

def isEmpty (v : Violations) : Bool := v.entries.isEmpty

def messages? (v : Violations) (name : String) : Option (List String) := v.entries.lookup name

def message (v : Violations) : String :=
  let group (entry : String × List String) : String :=
    entry.1 ++ " [" ++ String.intercalate ", " entry.2 ++ "]"
  if v.isEmpty then "Invalid parameters"
  else "Invalid parameters: " ++ String.intercalate "; " (v.entries.map group)

def document (v : Violations) : Document :=
  .object [("errors",
    .object (v.entries.map fun entry => (entry.1, .array (entry.2.map .string))))]

end Violations

/-! ## Faults -/

inductive Fault where
  | validation (violations : Violations)
  | provider (failure : Failure)
  | series (fault : SeriesFault)
  | configuration (reason : String)
  | atLocation (location : String) (cause : Fault)
deriving DecidableEq, Inhabited

namespace Fault

def message : Fault → String
  | validation v => v.message
  | provider f => f.message
  | series f => f.message
  | configuration reason => "Configuration error: " ++ reason
  | atLocation location cause =>
    "Request for location '" ++ location ++ "' failed: " ++ cause.message

/-- The fault without the locations around it. -/
def root : Fault → Fault
  | atLocation _ cause => cause.root
  | fault => fault

/-- What lies beneath the fault, outermost first. -/
def causes : Fault → List String
  | provider f => f.causes
  | atLocation _ cause => cause.message :: cause.causes
  | _ => []

/-- Nobody reports the fault, the program stops at it. -/
def stops (f : Fault) : Bool :=
  match f.root with
  | series .overflow => true
  | provider .overflow => true
  | _ => false

def failure? (f : Fault) : Option Failure :=
  match f.root with
  | provider failure => some failure
  | _ => none

def violations? (f : Fault) : Option Violations :=
  match f.root with
  | validation violations => some violations
  | _ => none

end Fault

/-! ## Reports -/

structure Report where
  message : String
  causes : List String := []
deriving DecidableEq, Inhabited

namespace Report

def ofFailure (f : Failure) : Report := ⟨f.message, f.causes⟩

def ofFault (f : Fault) : Report := ⟨f.message, f.causes⟩

/-- The report under a message of its own. -/
def under (message : String) (r : Report) : Report := ⟨message, r.message :: r.causes⟩

/-- All messages in one line. -/
def chain (r : Report) : String := String.intercalate ": " (r.message :: r.causes)

/-- A number right of enough blanks to make four digits wide, and a colon. -/
def numberLabel (n : Nat) : List Char :=
  let ds := Text.digits n
  List.replicate (5 - ds.length) ' ' ++ ds ++ [':', ' ']

/-- A text after its label, with later lines indented by as much as the first. -/
def labelled (label : List Char) (text : String) : List Char :=
  let later := '\n' :: List.replicate label.length ' '
  label ++ text.toList.flatMap fun c => if c = '\n' then later else [c]

def causeLines (r : Report) : List (List Char) :=
  match r.causes with
  | [cause] => [labelled (List.replicate 4 ' ') cause]
  | causes => causes.zipIdx.map fun (cause, n) => labelled (numberLabel n) cause

def text (r : Report) : String :=
  let tail :=
    if r.causes.isEmpty then []
    else "\n\nCaused by:".toList ++ r.causeLines.flatMap ('\n' :: ·)
  "Error: " ++ r.message ++ String.ofList tail

end Report

end CarbonIntensity
