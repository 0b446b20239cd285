import CarbonIntensity.Location.Registry
import CarbonIntensity.Proofs.Text.Trim

/-!
# Location files written and read back

An entry is read in two halves, which the first `=` parts, without the blanks around them; where there is
no `=` the whole is the path. Two halves that are put together around a `=` are read as they were, an empty
label included (parse_around). The text of a file leaves the `=` out if there is no label, and so

    parse f.text = .ok f ↔ f.label.isSome = true ∨ '=' ∉ f.path.toList      (parse_text)

for the files that are read: a path with a `=` and without a label shows as a shorter path.
-/

namespace CarbonIntensity.LocationFile

open Text

/-! ## The first mark -/

theorem splitEquals_cons {c : Char} (h : c ≠ '=') (cs : List Char) :
    splitEquals (c :: cs) = (splitEquals cs).map fun (label, path) => (c :: label, path) := by
  conv_lhs => unfold splitEquals
  split
  · next heq => cases heq
  · next heq => exact absurd (List.cons.inj heq).1 h
  · next heq =>
    obtain ⟨rfl, rfl⟩ := List.cons.inj heq
    rfl

theorem splitEquals_of_not_mem {cs : List Char} (h : '=' ∉ cs) : splitEquals cs = none := by
  induction cs with
  | nil => rfl
  | cons c cs ih =>
    rw [List.mem_cons, not_or] at h
    rw [splitEquals_cons (Ne.symm h.1), ih h.2, Option.map_none]

theorem splitEquals_append {label : List Char} (h : '=' ∉ label) (path : List Char) :
    splitEquals (label ++ '=' :: path) = some (label, path) := by
  induction label with
  | nil => rfl
  | cons c label ih =>
    rw [List.mem_cons, not_or] at h
    rw [List.cons_append, splitEquals_cons (Ne.symm h.1), ih h.2, Option.map_some]

/-! ## Halves -/

/-- The label and the path that are read from an entry without blanks around it. -/
def halves (cs : List Char) : List Char × List Char :=
  match splitEquals cs with
  | none => ([], cs)
  | some (label, path) => (trimChars label, trimChars path)

/-- The file of two halves; an empty label is none. -/
def ofHalves (h : List Char × List Char) : LocationFile :=
  ⟨if h.1.isEmpty then none else some (String.ofList h.1), String.ofList h.2⟩

theorem parse_eq_ok_iff {s : String} {f : LocationFile} : parse s = .ok f ↔
    (halves (trimChars s.toList)).2 ≠ [] ∧ ofHalves (halves (trimChars s.toList)) = f := by
  have hparse : parse s =
      if (halves (trimChars s.toList)).2.isEmpty then
        .error (.configuration source
          ("location file entry '" ++ String.ofList (trimChars s.toList) ++ "' has no path"))
      else .ok (ofHalves (halves (trimChars s.toList))) := by
    unfold parse halves
    dsimp only
    cases splitEquals (trimChars s.toList) <;> rfl
  rw [hparse]
  by_cases hnil : (halves (trimChars s.toList)).2 = []
  · rw [if_pos (List.isEmpty_iff.mpr hnil)]
    exact ⟨nofun, fun h => absurd hnil h.1⟩
  · rw [if_neg (mt List.isEmpty_iff.mp hnil)]
    exact ⟨fun h => ⟨hnil, Except.ok.inj h⟩, fun h => congrArg _ h.2⟩

theorem halves_of_not_mem {cs : List Char} (h : '=' ∉ cs) : halves cs = ([], cs) := by
  unfold halves
  rw [splitEquals_of_not_mem h]

theorem halves_append {label : List Char} (h : '=' ∉ label) (path : List Char) :
    halves (label ++ '=' :: path) = (trimChars label, trimChars path) := by
  unfold halves
  rw [splitEquals_append h]

/-- What is read: halves without blanks around them, and no mark in the label. -/
structure Halved (label path : List Char) : Prop where
  trimmedLabel : Trimmed label
  trimmedPath : Trimmed path
  unmarked : '=' ∉ label

theorem halved_halves {cs : List Char} (h : Trimmed cs) : Halved (halves cs).1 (halves cs).2 := by
  by_cases hmem : '=' ∈ cs
  · obtain ⟨label, path, rfl, hlabel⟩ := List.eq_append_cons_of_mem hmem
    rw [halves_append hlabel]
    exact ⟨trimmed_trimChars label, trimmed_trimChars path, fun h => hlabel (mem_of_mem_trimChars h)⟩
  · rw [halves_of_not_mem hmem]
    exact ⟨trimmed_nil, h, List.not_mem_nil⟩

theorem exists_halved {s : String} {f : LocationFile} (h : parse s = .ok f) :
    ∃ label path, Halved label path ∧ path ≠ [] ∧ ofHalves (label, path) = f := by
  obtain ⟨hne, hf⟩ := parse_eq_ok_iff.mp h
  exact ⟨_, _, halved_halves (trimmed_trimChars s.toList), hne, hf⟩

/-! ## Texts -/

/-- Halves around a mark are read as they are. -/
theorem parse_around {label path : List Char} (h : Halved label path) (hne : path ≠ []) {s : String}
    (hs : s.toList = label ++ '=' :: path) : parse s = .ok (ofHalves (label, path)) := by
  have htrimmed : Trimmed s.toList := by
    rw [hs]
    exact h.trimmedLabel.append_cons h.trimmedPath hne (by decide)
  have hhalves : halves (trimChars s.toList) = (label, path) := by
    rw [htrimmed.trimChars_eq, hs, halves_append h.unmarked, h.trimmedLabel.trimChars_eq,
      h.trimmedPath.trimChars_eq]
  rw [parse_eq_ok_iff, hhalves]
  exact ⟨hne, rfl⟩

/-- A path alone is read as it is if no mark is in it, and otherwise as a shorter one. -/
theorem parse_path_iff {path : List Char} (h : Trimmed path) (hne : path ≠ []) {s : String}
    (hs : s.toList = path) : parse s = .ok (ofHalves ([], path)) ↔ '=' ∉ path := by
  rw [parse_eq_ok_iff, hs, h.trimChars_eq]
  constructor
  · rintro ⟨-, hsame⟩ hmem
    obtain ⟨label, rest, rfl, hlabel⟩ := List.eq_append_cons_of_mem hmem
    have hpath : trimChars rest = label ++ '=' :: rest := by
      have hfields := congrArg (fun f => f.path.toList) hsame
      rw [halves_append hlabel] at hfields
      simpa only [ofHalves, String.toList_ofList] using hfields
    have hlength := length_trimChars_le rest
    rw [hpath, List.length_append, List.length_cons] at hlength
    omega
  · intro hmem
    rw [halves_of_not_mem hmem]
    exact ⟨hne, rfl⟩

/-- **A text is read back unless it hides a mark.** The text of a file that was read from an entry gives
the file again exactly if the file has a label or no `=` is in its path. With the `=` in front of the path
also where there is no label, every file that was read is read back. -/
theorem parse_text {s : String} {f : LocationFile} (h : parse s = .ok f) :
    (parse f.text = .ok f ↔ f.label.isSome = true ∨ '=' ∉ f.path.toList) ∧
      parse (f.label.getD "" ++ "=" ++ f.path) = .ok f := by
  obtain ⟨label, path, hhalved, hne, rfl⟩ := exists_halved h
  cases label with
  | nil =>
    have haround : parse ("" ++ "=" ++ String.ofList path) = .ok (ofHalves ([], path)) := by
      refine parse_around hhalved hne ?_
      simp
    refine ⟨?_, haround⟩
    show parse (String.ofList path) = .ok (ofHalves ([], path)) ↔
      Option.isSome (none : Option String) = true ∨ '=' ∉ (String.ofList path).toList
    rw [String.toList_ofList, parse_path_iff hhalved.trimmedPath hne String.toList_ofList]
    simp
  | cons c label =>
    have haround : parse (String.ofList (c :: label) ++ "=" ++ String.ofList path) =
        .ok (ofHalves (c :: label, path)) := by
      refine parse_around hhalved hne ?_
      simp
    exact ⟨⟨fun _ => .inl rfl, fun _ => haround⟩, haround⟩

/-- An entry with blanks all over, and a path with a mark under a label. -/
theorem parse_text_labelled :
    let f : LocationFile := ⟨some "az", "b=c"⟩
    parse " az = b=c " = .ok f ∧ f.text = "az=b=c" ∧ parse f.text = .ok f := by
  intro f
  have hread : parse " az = b=c " = .ok f := by decide
  exact ⟨hread, by decide, (parse_text hread).1.mpr (.inl rfl)⟩

/-- A path with a mark, entered behind an empty label, shows as a label and the rest of the path. -/
theorem parse_text_of_marked_path :
    parse "=a=b" = .ok ⟨none, "a=b"⟩ ∧ text ⟨none, "a=b"⟩ = "a=b" ∧
      parse "a=b" = .ok ⟨some "a", "b"⟩ := by
  decide

end CarbonIntensity.LocationFile
