import CarbonIntensity.Json.Document
import CarbonIntensity.Location.Registry
import CarbonIntensity.Proofs.Provider.InTurn
import Mathlib.Data.List.Induction

/-!
# Loading locations

A load reads a text, checks its entries and registers them one by one in the registry that it was started
on, in an order of its own. It checks all of them before it registers the first, so that it happens as a
whole or not at all:

    x.run.start r = settle r (x.outcome r)                                      (start_run)

A load that succeeds changes what is found under the names of its entries and nothing else (framed). After
any number of loads a name stands for what the last of them left there that succeeded and has an entry for
it, and is unknown if there is none (resolve_replay).
-/

namespace CarbonIntensity

/-! ## Positions -/

/-- A name that is not blank, or both coordinates. -/
def Position.Placed (p : Position) : Prop :=
  (∃ name, p.name = some name ∧ Text.isBlankText name = false) ∨
    ∃ latitude longitude, p.latitude = some latitude ∧ p.longitude = some longitude

theorem Position.isValid_iff {p : Position} : p.isValid = true ↔ p.Placed := by
  obtain ⟨name, latitude, longitude⟩ := p
  unfold isValid Placed hasName coordinates?
  cases name <;> cases latitude <;> cases longitude <;> simp

/-! ## Registering -/

namespace Registry

theorem resolve_insert (r : Registry) (key name : String) (p : Position) :
    (r.insert key p).resolve name =
      if Text.lowerCase name = Text.lowerCase key then .ok p else r.resolve name := by
  unfold insert resolve
  rw [Assoc.lookup_put]
  by_cases h : Text.lowerCase name = Text.lowerCase key
  · rw [if_pos (beq_iff_eq.mpr h), if_pos h]
  · rw [if_neg (by rwa [beq_iff_eq]), if_neg h]

/-- Of the entries that are registered in turn, one with the key decides on it. -/
theorem lookup_foldl_insert (fullName : String → String) (entries : List (String × Position)) (r : Registry)
    (key : String) :
    (∃ entry ∈ entries, Text.lowerCase (fullName entry.1) = key ∧
        (entries.foldl (fun r e => r.insert (fullName e.1) e.2) r).entries.lookup key = some entry.2) ∨
      (∀ entry ∈ entries, Text.lowerCase (fullName entry.1) ≠ key) ∧
        (entries.foldl (fun r e => r.insert (fullName e.1) e.2) r).entries.lookup key =
          r.entries.lookup key := by
  induction entries using List.reverseRecOn with
  | nil => exact .inr ⟨by simp, rfl⟩
  | append_singleton entries last ih =>
    rw [List.foldl_concat, insert, Assoc.lookup_put]
    by_cases hlast : key = Text.lowerCase (fullName last.1)
    · exact .inl ⟨last, by simp, hlast.symm, if_pos (beq_iff_eq.mpr hlast)⟩
    · rw [if_neg (by rwa [beq_iff_eq])]
      rcases ih with ⟨entry, hmem, hname, hlookup⟩ | ⟨hnone, hlookup⟩
      · exact .inl ⟨entry, List.mem_append_left _ hmem, hname, hlookup⟩
      · refine .inr ⟨fun entry hmem => ?_, hlookup⟩
        rcases List.mem_append.mp hmem with hmem | hmem
        · exact hnone entry hmem
        · obtain rfl := List.mem_singleton.mp hmem
          exact fun h => hlast h.symm

theorem resolve_foldl_insert (fullName : String → String) (entries : List (String × Position)) (r : Registry)
    (name : String) :
    (∃ entry ∈ entries, Text.lowerCase (fullName entry.1) = Text.lowerCase name ∧
        (entries.foldl (fun r e => r.insert (fullName e.1) e.2) r).resolve name = .ok entry.2) ∨
      (∀ entry ∈ entries, Text.lowerCase (fullName entry.1) ≠ Text.lowerCase name) ∧
        (entries.foldl (fun r e => r.insert (fullName e.1) e.2) r).resolve name = r.resolve name := by
  unfold resolve
  rcases lookup_foldl_insert fullName entries r (Text.lowerCase name) with
    ⟨entry, hmem, hname, hlookup⟩ | ⟨hnone, hlookup⟩
  · exact .inl ⟨entry, hmem, hname, by rw [hlookup]⟩
  · exact .inr ⟨hnone, by rw [hlookup]⟩

end Registry

/-! ## Loads -/

/-- A load of a text. -/
structure Load where
  label : Option String
  delimiter : String
  text : String
  /-- The order in which the entries of the text are gone through. -/
  order : List (String × Position) → List (String × Position)
  perm : ∀ entries, (order entries).Perm entries

namespace Load

/-- A load that goes through the entries as they stand in the text. -/
def inOrder (label : Option String) (delimiter text : String) : Load :=
  ⟨label, delimiter, text, id, fun _ => .refl _⟩

variable (x : Load)

def decoded : Except Json.Trouble (List (String × Position)) :=
  Json.decode (Json.entries? Position.ofJson?) x.text

/-- What a key is registered under: the key alone, or after the label and the delimiter, for which a dash
stands if it is empty. -/
def fullName (key : String) : String :=
  match x.label with
  | none => key
  | some label => label ++ (if x.delimiter = "" then "-" else x.delimiter) ++ key

/-- The text is one of locations, all of which have a name or coordinates. -/
def Accepted : Prop := ∃ entries, x.decoded = .ok entries ∧ ∀ entry ∈ entries, entry.2.Placed

/-- The text has an entry with the position and, up to case, with the name. -/
def Defines (name : String) (p : Position) : Prop :=
  ∃ entries key, x.decoded = .ok entries ∧ (key, p) ∈ entries ∧
    Text.lowerCase (x.fullName key) = Text.lowerCase name

def unreadable (trouble : Json.Trouble) : Failure :=
  Registry.configurationFault ("invalid location data: " ++ trouble.message)

def unplaced (key : String) : Failure :=
  Registry.configurationFault ("location '" ++ key ++ "' needs a name or a latitude and longitude")

/-! ### Step by step -/

def check (entry : String × Position) : Work Failure Registry Unit :=
  if entry.2.isValid then pure () else Work.fail (unplaced entry.1)

def register (entry : String × Position) : Work Failure Registry Unit :=
  Work.of fun r => (.ok (), r.insert (x.fullName entry.1) entry.2)

/-- The load as it goes on in the registry. -/
def run : Work Failure Registry Unit := do
  let entries ← Work.ofExcept (x.decoded.mapError unreadable)
  (x.order entries).forM check
  (x.order entries).forM x.register

/-- The registry after the load, whether it succeeded or not. -/
def after (r : Registry) : Registry := (x.run.start r).2

/-! ### All at once -/

/-- A new registry, or a fault. -/
def outcome (r : Registry) : Except Failure Registry :=
  match x.decoded with
  | .error trouble => .error (unreadable trouble)
  | .ok entries => r.load x.label x.delimiter (x.order entries)

/-- What becomes of a registry: with a fault it is the one there was. -/
def settle (r : Registry) : Except Failure Registry → Except Failure Unit × Registry
  | .ok s => (.ok (), s)
  | .error e => (.error e, r)

theorem outcome_inOrder (label : Option String) (delimiter text : String) (r : Registry) :
    (inOrder label delimiter text).outcome r = r.loadText label delimiter text := rfl

theorem fullKey_eq (key : String) : Registry.fullKey x.label x.delimiter key = x.fullName key := by
  unfold Registry.fullKey fullName
  cases x.label with
  | none => rfl
  | some label =>
    by_cases hempty : x.delimiter = ""
    · simp [hempty, Registry.defaultDelimiter]
    · simp [hempty]

theorem start_forM_check (entries : List (String × Position)) (r : Registry) :
    (entries.forM check).start r = (match entries.find? fun entry => !entry.2.isValid with
      | some entry => .error (unplaced entry.1)
      | none => .ok (), r) := by
  induction entries with
  | nil => rfl
  | cons entry entries ih =>
    show (check entry >>= fun _ => entries.forM check).start r = _
    rw [Work.start_bind, List.find?_cons]
    unfold check
    cases hvalid : entry.2.isValid with
    | true => exact ih
    | false => rfl

theorem start_forM_register (entries : List (String × Position)) (r : Registry) :
    (entries.forM x.register).start r =
      (.ok (), entries.foldl (fun r entry => r.insert (x.fullName entry.1) entry.2) r) := by
  induction entries generalizing r with
  | nil => rfl
  | cons entry entries ih =>
    show (x.register entry >>= fun _ => entries.forM x.register).start r = _
    rw [Work.start_bind]
    exact ih _

/-- **As a whole or not at all.** What is done in the registry step by step comes to the same as a new
registry in its place, or none. -/
theorem start_run (r : Registry) : x.run.start r = settle r (x.outcome r) := by
  unfold run outcome
  rw [Work.start_bind]
  cases hdecoded : x.decoded with
  | error trouble => rfl
  | ok entries =>
    show ((x.order entries).forM check >>= fun _ => (x.order entries).forM x.register).start r = _
    rw [Work.start_bind, start_forM_check]
    unfold Registry.load
    simp only [fullKey_eq]
    cases (x.order entries).find? fun entry => !entry.2.isValid with
    | some entry => rfl
    | none => exact x.start_forM_register (x.order entries) r

/-! ### What a load changes -/

/-- A load from a registry: it succeeds exactly if its text is accepted; if it fails, every name is answered
as before; if it succeeds, the names that it defines stand for positions that it defines, and every other
name is answered as before. -/
structure Framed (x : Load) (r : Registry) : Prop where
  ok_iff : (x.run.start r).1 = .ok () ↔ x.Accepted
  failed : ∀ e, (x.run.start r).1 = .error e → ∀ name, (x.after r).resolve name = r.resolve name
  defined : (x.run.start r).1 = .ok () → ∀ name, (∃ p, x.Defines name p) →
    ∃ p, x.Defines name p ∧ (x.after r).resolve name = .ok p
  others : (x.run.start r).1 = .ok () → ∀ name, (¬∃ p, x.Defines name p) →
    (x.after r).resolve name = r.resolve name

variable {x}

theorem find?_eq_none_iff {entries : List (String × Position)} :
    (x.order entries).find? (fun entry => !entry.2.isValid) = none ↔
      ∀ entry ∈ entries, entry.2.Placed := by
  rw [List.find?_eq_none]
  refine ⟨fun h entry hmem => ?_, fun h entry hmem => ?_⟩
  · have hvalid := h entry ((x.perm entries).mem_iff.mpr hmem)
    rw [← Position.isValid_iff]
    simpa using hvalid
  · have hplaced := h entry ((x.perm entries).mem_iff.mp hmem)
    rw [← Position.isValid_iff] at hplaced
    simp [hplaced]

theorem outcome_of_accepted {entries : List (String × Position)} (hdecoded : x.decoded = .ok entries)
    (hplaced : ∀ entry ∈ entries, entry.2.Placed) (r : Registry) :
    x.outcome r = .ok ((x.order entries).foldl (fun r entry => r.insert (x.fullName entry.1) entry.2) r) := by
  unfold outcome Registry.load
  simp only [hdecoded, find?_eq_none_iff.mpr hplaced, fullKey_eq]

theorem outcome_of_not_accepted (h : ¬x.Accepted) (r : Registry) : ∃ e, x.outcome r = .error e := by
  unfold outcome
  cases hdecoded : x.decoded with
  | error trouble => exact ⟨_, rfl⟩
  | ok entries =>
    unfold Registry.load
    simp only
    cases hfind : (x.order entries).find? fun entry => !entry.2.isValid with
    | some entry => exact ⟨_, rfl⟩
    | none => exact absurd ⟨entries, hdecoded, find?_eq_none_iff.mp hfind⟩ h

theorem after_of_not_accepted (h : ¬x.Accepted) (r : Registry) : x.after r = r := by
  obtain ⟨e, he⟩ := outcome_of_not_accepted h r
  unfold after
  rw [start_run, he]
  rfl

/-- What is found after a load that is accepted. -/
theorem resolve_after (h : x.Accepted) (r : Registry) (name : String) :
    (∃ p, x.Defines name p ∧ (x.after r).resolve name = .ok p) ∨
      (¬∃ p, x.Defines name p) ∧ (x.after r).resolve name = r.resolve name := by
  obtain ⟨entries, hdecoded, hplaced⟩ := h
  have hafter : x.after r =
      (x.order entries).foldl (fun r entry => r.insert (x.fullName entry.1) entry.2) r := by
    unfold after
    rw [start_run, outcome_of_accepted hdecoded hplaced]
    rfl
  rw [hafter]
  rcases Registry.resolve_foldl_insert x.fullName (x.order entries) r name with
    ⟨⟨key, p⟩, hmem, hname, hresolve⟩ | ⟨hnone, hresolve⟩
  · exact .inl ⟨p, ⟨entries, key, hdecoded, (x.perm entries).mem_iff.mp hmem, hname⟩, hresolve⟩
  · refine .inr ⟨?_, hresolve⟩
    rintro ⟨p, entries', key, hdecoded', hmem, hname⟩
    obtain rfl := Except.ok.inj (hdecoded.symm.trans hdecoded')
    exact hnone (key, p) ((x.perm entries).mem_iff.mpr hmem) hname

theorem resolve_after_of_defines (h : x.Accepted) {name : String} (hdefined : ∃ p, x.Defines name p)
    (r : Registry) : ∃ p, x.Defines name p ∧ (x.after r).resolve name = .ok p :=
  (resolve_after h r name).resolve_right fun hnone => hnone.1 hdefined

/-- A load that fails or does not define the name leaves it alone. -/
theorem resolve_after_of_not {name : String} (h : x.Accepted → ¬∃ p, x.Defines name p) (r : Registry) :
    (x.after r).resolve name = r.resolve name := by
  by_cases haccepted : x.Accepted
  · rcases resolve_after haccepted r name with ⟨p, hp, -⟩ | ⟨-, hresolve⟩
    · exact absurd ⟨p, hp⟩ (h haccepted)
    · exact hresolve
  · rw [after_of_not_accepted haccepted]

theorem framed (x : Load) (r : Registry) : x.Framed r := by
  have hok : (x.run.start r).1 = .ok () ↔ x.Accepted := by
    rw [start_run]
    constructor
    · intro h
      by_contra hrefused
      obtain ⟨e, he⟩ := outcome_of_not_accepted hrefused r
      rw [he] at h
      cases h
    · rintro ⟨entries, hdecoded, hplaced⟩
      rw [outcome_of_accepted hdecoded hplaced]
      rfl
  refine ⟨hok, fun e he name => ?_, fun h name hdefined => ?_, fun h name hother => ?_⟩
  · refine resolve_after_of_not (fun haccepted => ?_) r
    rw [hok.mpr haccepted] at he
    cases he
  · exact resolve_after_of_defines (hok.mp h) hdefined r
  · exact resolve_after_of_not (fun _ => hother) r

/-! ## Histories of loads -/

/-- The registry after loads in turn, each of which goes on from what the one before it left. -/
def replay (loads : List Load) (r : Registry) : Registry := loads.foldl (fun r x => x.after r) r

/-- The last of the loads that succeeds and defines the name has the position for it. -/
def LastDefines (loads : List Load) (name : String) (p : Position) : Prop :=
  ∃ earlier x later, loads = earlier ++ x :: later ∧ x.Accepted ∧ x.Defines name p ∧
    ∀ y ∈ later, y.Accepted → ¬∃ q, y.Defines name q

/-- No load that succeeds defines the name. -/
def NoneDefines (loads : List Load) (name : String) : Prop :=
  ∀ x ∈ loads, x.Accepted → ¬∃ p, x.Defines name p

theorem replay_concat (loads : List Load) (x : Load) (r : Registry) :
    replay (loads ++ [x]) r = x.after (replay loads r) := List.foldl_concat ..

/-- The load at the end of a history leaves what was found before it where it fails or does not define the
name. -/
theorem resolve_replay (loads : List Load) (r : Registry) (name : String) :
    (∃ p, LastDefines loads name p ∧ (replay loads r).resolve name = .ok p) ∨
      NoneDefines loads name ∧ (replay loads r).resolve name = r.resolve name := by
  induction loads using List.reverseRecOn with
  | nil => exact .inr ⟨nofun, rfl⟩
  | append_singleton loads x ih =>
    rw [replay_concat]
    by_cases hdefines : x.Accepted ∧ ∃ p, x.Defines name p
    · obtain ⟨haccepted, hdefined⟩ := hdefines
      obtain ⟨p, hp, hresolve⟩ := resolve_after_of_defines haccepted hdefined (replay loads r)
      exact .inl ⟨p, ⟨loads, x, [], rfl, haccepted, hp, nofun⟩, hresolve⟩
    · have hx : x.Accepted → ¬∃ p, x.Defines name p := fun haccepted hdefined =>
        hdefines ⟨haccepted, hdefined⟩
      rw [resolve_after_of_not hx]
      rcases ih with ⟨p, ⟨earlier, y, later, rfl, haccepted, hp, hlater⟩, hresolve⟩ | ⟨hnone, hresolve⟩
      · refine .inl ⟨p, ⟨earlier, y, later ++ [x], by simp, haccepted, hp, ?_⟩, hresolve⟩
        exact List.forall_mem_append.mpr ⟨hlater, List.forall_mem_singleton.mpr hx⟩
      · exact .inr ⟨List.forall_mem_append.mpr ⟨hnone, List.forall_mem_singleton.mpr hx⟩, hresolve⟩

/-- **Loads.** Loads of texts in turn, with labels and delimiters of their own and going through their
entries in whatever order, each happen as a whole or not at all and change nothing but the names that they
define. What they come to is read off their history: a name has a position from the last load that succeeds
and defines it, or else the answer it had before all of them, and from an empty registry it is unknown
exactly if none defines it. -/
theorem history_of_loads (loads : List Load) (r : Registry) :
    (∀ label delimiter text, (inOrder label delimiter text).run.start r =
      settle r (r.loadText label delimiter text)) ∧
    (∀ earlier x later, loads = earlier ++ x :: later → x.Framed (replay earlier r)) ∧
    (∀ name, (∃ p, LastDefines loads name p ∧ (replay loads r).resolve name = .ok p) ∨
      NoneDefines loads name ∧ (replay loads r).resolve name = r.resolve name) ∧
    ∀ name, (replay loads .empty).resolve name = .error (.unknownLocation name) ↔
      NoneDefines loads name := by
  refine ⟨fun label delimiter text => ?_, fun _ x _ _ => framed x _, resolve_replay loads r, fun name => ?_⟩
  · rw [start_run, outcome_inOrder]
  · rcases resolve_replay loads .empty name with
      ⟨p, ⟨earlier, x, later, rfl, haccepted, hp, -⟩, hresolve⟩ | ⟨hnone, hresolve⟩
    · constructor
      · intro hunknown
        rw [hunknown] at hresolve
        cases hresolve
      · intro hnone
        exact absurd ⟨p, hp⟩ (hnone x (by simp) haccepted)
    · exact ⟨fun _ => hnone, fun _ => hresolve⟩

/-- A labelled key comes to the same name as an unlabelled one, and the load after it is refused. -/
example :
    let entry (key field value : String) : String × Document := (key, .object [(field, .string value)])
    ((replay [inOrder none "-" (Document.object [entry "A-b" "name" "FR"]).compact,
      inOrder (some "a") "" (Document.object [entry "B" "name" "DE"]).compact,
      inOrder none "-" (Document.object [entry "a-b" "name" "US", entry "c" "latitude" "1"]).compact]
        .empty).resolve "a-B").toOption.map (·.name) = some (some "DE") := by decide +kernel

end Load

end CarbonIntensity
