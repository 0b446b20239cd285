import CarbonIntensity.Number.Basic
import CarbonIntensity.Time.Parser

/-!
# Arguments of the command line

A command and its options. An option is given by a long name, with its value after `=` or as the next
argument, or by a letter, with its value after it, after `=` or as the next argument; letters without a
value may be joined. A value that starts with a hyphen has to be joined to its option, unless it is a
hyphen alone. Locations may be repeated and other options may not.

Arguments are read from the left, and the first one that is not understood or that asks for help ends
the reading.
-/

namespace CarbonIntensity.CommandLine

inductive Command where
  | emissions
  | best
  | average
  | forecast
  | forecastAsOf
deriving DecidableEq, Inhabited

def Command.all : List (String × Command) :=
  [("emissions", .emissions), ("best", .best), ("average", .average), ("forecast", .forecast),
    ("forecast-as-of", .forecastAsOf)]

inductive OptionName where
  | location
  | start
  | stop
  | duration
  | requested
deriving DecidableEq, Inhabited

/-- The options of a command by their long names. -/
def Command.options (c : Command) : List (String × OptionName) :=
  let range : List (String × OptionName) :=
    [("location", .location), ("start", .start), ("end", .stop)]
  match c with
  | .forecast => range ++ [("duration", .duration)]
  | .forecastAsOf => range ++ [("duration", .duration), ("requested-at", .requested)]
  | _ => range

structure Arguments where
  command : Command
  locations : List String := []
  start : Option Instant := none
  stop : Option Instant := none
  /-- The size of windows in minutes. -/
  duration : Option Int := none
  requested : Option Instant := none
deriving Inhabited

/-- Why there is no command to run. -/
inductive Refusal where
  | help
  | usage
deriving DecidableEq, Inhabited

/-- What has been read: the arguments, and whether the flag for more logging was given. -/
structure Progress where
  arguments : Arguments
  verbose : Bool

namespace Progress

/-- Sets a value that is not set yet. -/
def fresh {α : Type} (old new : Option α) : Except Refusal (Option α) :=
  if old.isSome || new.isNone then .error .usage else .ok new

/-- Takes in the value of an option. -/
def give (p : Progress) (name : OptionName) (value : String) : Except Refusal Progress := do
  let a := p.arguments
  let given : Arguments ← match name with
    | .location => pure { a with locations := a.locations ++ [value] }
    | .start => pure { a with start := ← fresh a.start (Instant.parse? value) }
    | .stop => pure { a with stop := ← fresh a.stop (Instant.parse? value) }
    | .requested => pure { a with requested := ← fresh a.requested (Instant.parse? value) }
    | .duration => pure { a with duration := ← fresh a.duration (Integer.signed value).toOption }
  return { p with arguments := given }

def raise (p : Progress) : Except Refusal Progress :=
  if p.verbose then .error .usage else .ok { p with verbose := true }

end Progress

/-- An argument that cannot be a value of its own. -/
def isOption (argument : String) : Bool :=
  match argument.toList with
  | '-' :: _ :: _ => true
  | _ => false

/-- The texts before and after the first `=`; the second is none if there is none. -/
def splitValue : List Char → List Char × Option (List Char)
  | [] => ([], none)
  | '=' :: rest => ([], some rest)
  | c :: rest =>
    let (name, value) := splitValue rest
    (c :: name, value)

/-- What a cluster of letters asks for: flags, and at its end perhaps the option for a location with
or without its value. -/
def cluster (p : Progress) : List Char → Except Refusal (Progress × Option (Option String))
  | [] => .ok (p, none)
  | 'v' :: rest => do cluster (← p.raise) rest
  | 'l' :: '=' :: value => .ok (p, some (some (String.ofList value)))
  | ['l'] => .ok (p, some none)
  | 'l' :: value => .ok (p, some (some (String.ofList value)))
  | 'h' :: _ => .error .help
  | _ => .error .usage

/-- An argument that starts with a hyphen: the progress, and an option that still lacks its value. -/
def takeOption (p : Progress) (argument : String) :
    Except Refusal (Progress × Option OptionName) :=
  match argument.toList with
  | '-' :: '-' :: cs =>
    let (name, value) := splitValue cs
    let name := String.ofList name
    match p.arguments.command.options.lookup name, value with
    | some option, some value => do return (← p.give option (String.ofList value), none)
    | some option, none => .ok (p, some option)
    | none, some _ => .error .usage
    | none, none =>
      if name = "verbose" then p.raise.map (·, none)
      else if name = "help" then .error .help
      else .error .usage
  | '-' :: cs => do
    match ← cluster p cs with
    | (p, none) => return (p, none)
    | (p, some none) => return (p, some .location)
    | (p, some (some value)) => return (← p.give .location value, none)
  | _ => .error .usage

/-- The arguments after the command; `waiting` is an option that lacks its value. -/
def takeAll (p : Progress) : Option OptionName → List String → Except Refusal Progress
  | none, [] => .ok p
  | some _, [] => .error .usage
  | none, ["--"] => .ok p
  | some option, argument :: rest =>
    if isOption argument then .error .usage
    else do takeAll (← p.give option argument) none rest
  | none, argument :: rest =>
    if argument = "--" || !isOption argument then .error .usage
    else do
      let (p, waiting) ← takeOption p argument
      takeAll p waiting rest

/-- The flags of letters before the command. -/
def leadingCluster (verbose : Bool) : List Char → Except Refusal Bool
  | [] => .ok verbose
  | 'v' :: rest => if verbose then .error .usage else leadingCluster true rest
  | 'h' :: _ => .error .help
  | _ => .error .usage

/-- Reads the arguments of a program. -/
def parse (verbose : Bool) : List String → Except Refusal Arguments
  | [] => .error .usage
  | argument :: rest =>
    if argument = "help" then
      match rest with
      | [] => .error .help
      | [topic] =>
        if topic = "help" || (Command.all.lookup topic).isSome then .error .help else .error .usage
      | _ => .error .usage
    else
      match Command.all.lookup argument with
      | some command => (takeAll ⟨{ command }, false⟩ none rest).map Progress.arguments
      | none =>
        if argument = "--verbose" then
          if verbose then .error .usage else parse true rest
        else if argument = "--help" then .error .help
        else
          match argument.toList with
          | '-' :: c :: cs =>
            if c = '-' then .error .usage
            else do parse (← leadingCluster verbose (c :: cs)) rest
          | _ => .error .usage

end CarbonIntensity.CommandLine
