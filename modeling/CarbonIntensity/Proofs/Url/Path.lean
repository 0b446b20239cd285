import CarbonIntensity.Proofs.Url.Join
import Mathlib.Data.List.Infix

/-!
# A slash at the end of a path

Where a text ends in its path, a slash after the text closes the path; where a query or a fragment follows
the path, the slash goes there and the path stays as it is:

    pathAfterHost special file (cs ++ ['/']) = slashed (pathAfterHost special file cs)   (pathAfterHost_slash)

This holds for texts that are open, which is to say that they do not end in a slash. Segments have no slash
in them (slashless_pathAfterHost), so that the text of a path ends in one only if the path is closed.
-/

namespace CarbonIntensity.Url

/-! ## Segments -/

/-- The segments without an empty one at the end. -/
def front (path : List String) : List String :=
  if path.getLast? = some "" then path.dropLast else path

/-- The segments with an empty one at the end, as after a slash. -/
def closed (path : List String) : List String := front path ++ [""]

theorem front_concat_empty (path : List String) : front (path ++ [""]) = path := by
  unfold front
  rw [List.getLast?_concat, if_pos rfl, List.dropLast_concat]

theorem front_of_getLast? {path : List String} (h : path.getLast? ≠ some "") : front path = path := if_neg h

theorem front_concat {segment : String} (h : segment ≠ "") (path : List String) :
    front (path ++ [segment]) = path ++ [segment] := by
  refine front_of_getLast? ?_
  rw [List.getLast?_concat]
  exact fun heq => h (Option.some.inj heq)

theorem front_cons_cons (a b : String) (path : List String) : front (a :: b :: path) = a :: front (b :: path) := by
  unfold front
  rw [List.getLast?_cons_cons]
  split <;> rfl

theorem closed_concat_empty (path : List String) : closed (path ++ [""]) = path ++ [""] := by
  unfold closed
  rw [front_concat_empty]

theorem closed_concat {segment : String} (h : segment ≠ "") (path : List String) :
    closed (path ++ [segment]) = path ++ [segment] ++ [""] := by
  unfold closed
  rw [front_concat h]

theorem closed_of_getLast? {path : List String} (h : path.getLast? = some "") : closed path = path := by
  unfold closed front
  rw [if_pos h]
  exact List.dropLast_append_getLast? "" h

theorem getLast?_closed (path : List String) : (closed path).getLast? = some "" := List.getLast?_concat

theorem dropLast_closed (path : List String) : (closed path).dropLast = front path := List.dropLast_concat

/-! ## Texts -/

/-- The text does not end in a slash. -/
def IsOpen (special : Bool) (cs : List Char) : Prop := ∀ c, cs.getLast? = some c → isSlash special c = false

section

variable {special file : Bool} {done : List String} {buffer cs : List Char} {c : Char}

theorem IsOpen.of_suffix {text : List Char} (h : IsOpen special cs) (hsuffix : text <:+ cs) :
    IsOpen special text := by
  intro c hc
  obtain ⟨before, rfl⟩ := hsuffix
  exact h c (by rw [List.getLast?_append, hc]; rfl)

theorem IsOpen.ne_nil (h : IsOpen special (c :: cs)) (hc : isSlash special c = true) : cs ≠ [] := by
  rintro rfl
  exact Bool.false_ne_true ((h c rfl).symm.trans hc)

theorem encoded_ne_empty {keeps : Char → Bool} (h : cs ≠ []) : encoded keeps cs ≠ "" := by
  have hchar : ∀ c, Text.percentChar keeps c ≠ [] := by
    intro c
    unfold Text.percentChar Text.charBytes Text.percentByte
    split
    · simp
    · simp only
      split
      · simp
      · split
        · simp
        · split <;> simp
  unfold encoded Text.percentEncode
  rw [Ne, String.ofList_eq_empty_iff, List.flatMap_eq_nil_iff]
  obtain ⟨c, cs, rfl⟩ := List.exists_cons_of_ne_nil h
  exact fun hall => hchar c (hall c List.mem_cons_self)

theorem pushSegment_empty (file isLast : Bool) (done : List String) :
    pushSegment file done "" isLast = done ++ [""] := by
  have hdouble : isDoubleDot "" = false := by decide
  have hsingle : isSingleDot "" = false := by decide
  have hdrive : isDrive "".toList = false := by decide
  unfold pushSegment
  rw [hdouble, hsingle, hdrive, Bool.and_false]
  rfl

/-- A segment that is not empty, and a slash after it. -/
theorem closed_pushSegment {segment : String} (h : segment ≠ "") :
    closed (pushSegment file done segment true) = pushSegment file done segment false ++ [""] := by
  unfold pushSegment
  simp only
  split
  · simp [closed_concat_empty]
  · split
    · simp [closed_concat_empty]
    · split
      · have hdrive : String.ofList (segment.toList.take 1 ++ [':']) ≠ "" := by
          simp [String.ofList_eq_empty_iff]
        exact closed_concat hdrive []
      · exact closed_concat h done

/-- What is read as path and rest where a slash stands after the text. -/
def slashed (r : List String × List Char) : List String × List Char :=
  if r.2 = [] then (closed r.1, []) else (r.1, r.2 ++ ['/'])

theorem slashed_nil (path : List String) : slashed (path, []) = (closed path, []) := if_pos rfl

theorem slashed_of_ne_nil (path : List String) (h : cs ≠ []) :
    slashed (path, cs) = (path, cs ++ ['/']) := if_neg h

theorem takeSegments_of_slash (hslash : isSlash special c = true) :
    takeSegments special file done buffer (c :: cs) =
      takeSegments special file (pushSegment file done (encoded keepsPath buffer.reverse) false) [] cs := by
  rw [takeSegments, hslash, if_pos rfl]

theorem takeSegments_of_mark (hslash : isSlash special c = false) (hmark : c = '?' ∨ c = '#') :
    takeSegments special file done buffer (c :: cs) =
      (pushSegment file done (encoded keepsPath buffer.reverse) true, c :: cs) := by
  rw [takeSegments, hslash, if_neg Bool.false_ne_true, if_pos (by simpa using hmark)]

theorem takeSegments_of_other (hslash : isSlash special c = false) (hmark : ¬(c = '?' ∨ c = '#')) :
    takeSegments special file done buffer (c :: cs) = takeSegments special file done (c :: buffer) cs := by
  rw [takeSegments, hslash, if_neg Bool.false_ne_true, if_neg (by simpa using hmark)]

theorem takeSegments_nil_nil (special file : Bool) (done : List String) :
    takeSegments special file done [] [] = (done ++ [""], []) := by
  rw [takeSegments]
  exact congrArg (·, []) (pushSegment_empty file true done)

theorem takeSegments_slash (hopen : IsOpen special cs) (hne : cs = [] → buffer ≠ []) :
    takeSegments special file done buffer (cs ++ ['/']) =
      slashed (takeSegments special file done buffer cs) := by
  induction cs generalizing done buffer with
  | nil =>
    have hsegment : encoded keepsPath buffer.reverse ≠ "" :=
      encoded_ne_empty fun hnil => hne rfl (List.reverse_eq_nil_iff.mp hnil)
    rw [List.nil_append, takeSegments_of_slash rfl, takeSegments_nil_nil, takeSegments, slashed_nil,
      closed_pushSegment hsegment]
  | cons c cs ih =>
    have hcs : IsOpen special cs := hopen.of_suffix (List.suffix_cons c cs)
    rw [List.cons_append]
    cases hslash : isSlash special c with
    | true =>
      rw [takeSegments_of_slash hslash, takeSegments_of_slash hslash]
      exact ih hcs fun hnil => absurd hnil (hopen.ne_nil hslash)
    | false =>
      by_cases hmark : c = '?' ∨ c = '#'
      · rw [takeSegments_of_mark hslash hmark, takeSegments_of_mark hslash hmark,
          slashed_of_ne_nil _ (List.cons_ne_nil c cs), List.cons_append]
      · rw [takeSegments_of_other hslash hmark, takeSegments_of_other hslash hmark]
        exact ih hcs fun _ => List.cons_ne_nil c buffer

theorem pathAfterHost_of_slash (hslash : isSlash special c = true) :
    pathAfterHost special file (c :: cs) = takeSegments special file [] [] cs := if_pos hslash

/-- In a special scheme a mark does not end the path before it begins. -/
theorem pathAfterHost_of_other (hslash : isSlash true c = false) :
    pathAfterHost true file (c :: cs) = takeSegments true file [] [] (c :: cs) :=
  if_neg (Bool.eq_false_iff.mp hslash)

theorem pathAfterHost_slash (hopen : IsOpen special cs) :
    pathAfterHost special file (cs ++ ['/']) = slashed (pathAfterHost special file cs) := by
  cases cs with
  | nil =>
    rw [List.nil_append, pathAfterHost_of_slash rfl, takeSegments_nil_nil]
    cases special <;> rfl
  | cons c cs =>
    rw [List.cons_append]
    unfold pathAfterHost
    simp only
    split
    · next hc =>
      exact takeSegments_slash (hopen.of_suffix (List.suffix_cons c cs)) fun hnil =>
        absurd hnil (hopen.ne_nil hc)
    · split
      · rfl
      · exact takeSegments_slash hopen nofun

/-! ## What follows a path -/

theorem isTail_cons_of_mark (hmark : c = '?' ∨ c = '#') (cs : List Char) : isTail (c :: cs) = true := by
  unfold isTail
  simpa using hmark

theorem isTail_takeSegments (special file : Bool) (done : List String) (buffer cs : List Char) :
    isTail (takeSegments special file done buffer cs).2 = true := by
  induction cs generalizing done buffer with
  | nil => rfl
  | cons c cs ih =>
    cases hslash : isSlash special c with
    | true =>
      rw [takeSegments_of_slash hslash]
      exact ih _ _
    | false =>
      by_cases hmark : c = '?' ∨ c = '#'
      · rw [takeSegments_of_mark hslash hmark]
        exact isTail_cons_of_mark hmark cs
      · rw [takeSegments_of_other hslash hmark]
        exact ih _ _

theorem isTail_pathAfterHost (special file : Bool) (cs : List Char) :
    isTail (pathAfterHost special file cs).2 = true := by
  unfold pathAfterHost
  split
  · rfl
  · split
    · exact isTail_takeSegments _ _ _ _ _
    · split
      · next hmark => exact isTail_cons_of_mark (by simpa using (Bool.and_eq_true_iff.mp hmark).2) _
      · exact isTail_takeSegments _ _ _ _ _

/-! ## Texts that end in a slash -/

/-- A path that is read to the end of a text with a slash there, from anywhere before that. -/
theorem takeSegments_closes (htail : (takeSegments special file done buffer (cs ++ ['/'])).2 = []) :
    (takeSegments special file done buffer (cs ++ ['/'])).1.getLast? = some "" := by
  induction cs generalizing done buffer with
  | nil =>
    rw [List.nil_append, takeSegments_of_slash rfl, takeSegments_nil_nil]
    exact List.getLast?_concat
  | cons c cs ih =>
    rw [List.cons_append] at htail ⊢
    cases hslash : isSlash special c with
    | true =>
      rw [takeSegments_of_slash hslash] at htail ⊢
      exact ih htail
    | false =>
      by_cases hmark : c = '?' ∨ c = '#'
      · rw [takeSegments_of_mark hslash hmark] at htail
        cases htail
      · rw [takeSegments_of_other hslash hmark] at htail ⊢
        exact ih htail

theorem pathAfterHost_closes (htail : (pathAfterHost special file (cs ++ ['/'])).2 = []) :
    (pathAfterHost special file (cs ++ ['/'])).1.getLast? = some "" := by
  cases cs with
  | nil =>
    rw [List.nil_append, pathAfterHost_of_slash rfl, takeSegments_nil_nil]
    rfl
  | cons c cs =>
    rw [List.cons_append] at htail ⊢
    unfold pathAfterHost at htail ⊢
    simp only at htail ⊢
    split at htail
    · next hc =>
      rw [if_pos hc]
      exact takeSegments_closes htail
    · next hc =>
      rw [if_neg hc]
      split at htail
      · cases htail
      · next hmark =>
        rw [if_neg hmark]
        have hend : (takeSegments special file [] [] (c :: cs ++ ['/'])).2 = [] := htail
        exact takeSegments_closes hend

/-! ## Segments without slashes -/

/-- No segment has a slash in it. -/
def Slashless (path : List String) : Prop := ∀ segment ∈ path, '/' ∉ segment.toList

theorem not_slash_mem_upperHex (width n : Nat) : '/' ∉ Text.upperHex width n := by
  have hdigit : ∀ m < 16, '/' ≠ (Nat.digitChar m).toUpper := by decide
  have hcore : ∀ (fuel n : Nat) (acc : List Char), '/' ∉ acc.map Char.toUpper →
      '/' ∉ (Nat.toDigitsCore 16 fuel n acc).map Char.toUpper := by
    intro fuel
    induction fuel with
    | zero => exact fun _ _ h => h
    | succ fuel ih =>
      intro n acc hacc
      have hcons : '/' ∉ (Nat.digitChar (n % 16) :: acc).map Char.toUpper := by
        rw [List.map_cons, List.mem_cons, not_or]
        exact ⟨hdigit (n % 16) (Nat.mod_lt n (by decide)), hacc⟩
      unfold Nat.toDigitsCore
      simp only
      split
      · exact hcons
      · exact ih _ _ hcons
  unfold Text.upperHex
  rw [List.mem_append, not_or]
  refine ⟨fun hmem => ?_, hcore (n + 1) n [] List.not_mem_nil⟩
  exact absurd (List.eq_of_mem_replicate hmem) (by decide)

theorem not_slash_mem_encoded {keeps : Char → Bool} (h : '/' ∉ cs) : '/' ∉ (encoded keeps cs).toList := by
  unfold encoded Text.percentEncode
  rw [String.toList_ofList, List.mem_flatMap]
  rintro ⟨c, hc, hmem⟩
  unfold Text.percentChar at hmem
  split at hmem
  · obtain rfl := List.mem_singleton.mp hmem
    exact h hc
  · obtain ⟨b, -, hb⟩ := List.mem_flatMap.mp hmem
    rcases List.mem_cons.mp hb with hpercent | hhex
    · exact absurd hpercent (by decide)
    · exact not_slash_mem_upperHex 2 b hhex

theorem Slashless.parent (h : Slashless done) : Slashless (parent done) := by
  unfold Url.parent
  split
  · split
    · exact h
    · exact fun segment hmem => h segment (List.mem_of_mem_dropLast hmem)
  · exact nofun

theorem slashless_empty : Slashless [""] := by
  intro segment hmem
  obtain rfl := List.mem_singleton.mp hmem
  exact List.not_mem_nil

theorem Slashless.append {path : List String} (h : Slashless done) (hpath : Slashless path) :
    Slashless (done ++ path) := List.forall_mem_append.mpr ⟨h, hpath⟩

theorem Slashless.pushSegment (h : Slashless done) {segment : String} (hsegment : '/' ∉ segment.toList)
    (isLast : Bool) : Slashless (pushSegment file done segment isLast) := by
  have hrest : Slashless (if isLast = true then [""] else []) := by
    split
    · exact slashless_empty
    · exact nofun
  unfold Url.pushSegment
  simp only
  split
  · exact h.parent.append hrest
  · split
    · exact h.append hrest
    · split
      · refine List.forall_mem_singleton.mpr ?_
        rw [String.toList_ofList, List.mem_append, not_or]
        exact ⟨fun hmem => hsegment (List.mem_of_mem_take hmem), by decide⟩
      · exact h.append (List.forall_mem_singleton.mpr hsegment)

theorem slashless_takeSegments (h : Slashless done) (hbuffer : '/' ∉ buffer) :
    Slashless (takeSegments special file done buffer cs).1 := by
  have hsegment : ∀ {buffer : List Char}, '/' ∉ buffer → '/' ∉ (encoded keepsPath buffer.reverse).toList :=
    fun hbuffer => not_slash_mem_encoded fun hmem => hbuffer (List.mem_reverse.mp hmem)
  induction cs generalizing done buffer with
  | nil =>
    rw [takeSegments]
    simp only
    exact h.pushSegment (hsegment hbuffer) true
  | cons c cs ih =>
    cases hslash : isSlash special c with
    | true =>
      rw [takeSegments_of_slash hslash]
      exact ih (h.pushSegment (hsegment hbuffer) false) List.not_mem_nil
    | false =>
      by_cases hmark : c = '?' ∨ c = '#'
      · rw [takeSegments_of_mark hslash hmark]
        simp only
        exact h.pushSegment (hsegment hbuffer) true
      · rw [takeSegments_of_other hslash hmark]
        refine ih h ?_
        rw [List.mem_cons, not_or]
        refine ⟨?_, hbuffer⟩
        rintro rfl
        cases hslash

theorem slashless_pathAfterHost (special file : Bool) (cs : List Char) :
    Slashless (pathAfterHost special file cs).1 := by
  have hread : ∀ cs, Slashless (takeSegments special file [] [] cs).1 := fun cs =>
    slashless_takeSegments (fun _ hmem => absurd hmem List.not_mem_nil) List.not_mem_nil
  unfold pathAfterHost
  split
  · cases special with
    | true => exact slashless_empty
    | false => exact nofun
  · split
    · exact hread _
    · split
      · exact nofun
      · exact hread _

/-! ## Files -/

theorem withoutEmptyStart_cons {segment : String} (h : segment ≠ "") (path : List String) :
    withoutEmptyStart (segment :: path) = segment :: path := by
  have hempty : ¬segment.isEmpty = true := by rwa [String.isEmpty_iff]
  unfold withoutEmptyStart
  rw [List.dropWhile_cons_of_neg hempty]

/-- The path of a file is the empty segment or starts with another one. -/
theorem withoutEmptyStart_cases (path : List String) :
    withoutEmptyStart path = [""] ∨ ∃ segment rest, withoutEmptyStart path = segment :: rest ∧ segment ≠ "" := by
  induction path with
  | nil => exact .inl rfl
  | cons segment path ih =>
    by_cases hempty : segment = ""
    · subst hempty
      exact ih
    · exact .inr ⟨segment, path, withoutEmptyStart_cons hempty path, hempty⟩

theorem Slashless.withoutEmptyStart {path : List String} (h : Slashless path) :
    Slashless (withoutEmptyStart path) := by
  unfold Url.withoutEmptyStart
  split
  · exact slashless_empty
  · exact fun segment hmem => h segment ((List.dropWhile_suffix _).subset hmem)

theorem withoutEmptyStart_idem (path : List String) :
    withoutEmptyStart (withoutEmptyStart path) = withoutEmptyStart path := by
  rcases withoutEmptyStart_cases path with h | ⟨segment, rest, h, hne⟩
  · rw [h]
    rfl
  · rw [h]
    exact withoutEmptyStart_cons hne rest

/-- What is joined to the path of a file leaves no empty segment at its start. -/
theorem withoutEmptyStart_append {path : List String} (h : withoutEmptyStart path = path)
    {segment : String} (hne : segment ≠ "") (rest : List String) :
    withoutEmptyStart (fileParent path ++ segment :: rest) = fileParent path ++ segment :: rest := by
  have hparent : fileParent path = [] ∨ ∃ first more, fileParent path = first :: more ∧ first ≠ "" := by
    rcases withoutEmptyStart_cases path with hpath | ⟨first, more, hpath, hfirst⟩
    · rw [h] at hpath
      subst hpath
      exact .inl (by decide)
    · rw [h] at hpath
      subst hpath
      unfold fileParent
      split
      · split
        · exact .inr ⟨first, more, rfl, hfirst⟩
        · cases more with
          | nil => exact .inl rfl
          | cons second more => exact .inr ⟨first, _, rfl, hfirst⟩
      · exact .inl rfl
  rcases hparent with hparent | ⟨first, more, hparent, hfirst⟩
  · rw [hparent, List.nil_append]
    exact withoutEmptyStart_cons hne rest
  · rw [hparent, List.cons_append]
    exact withoutEmptyStart_cons hfirst _

theorem closed_cons_cons (a b : String) (path : List String) :
    closed (a :: b :: path) = a :: closed (b :: path) := by
  unfold closed
  rw [front_cons_cons]
  rfl

theorem withoutEmptyStart_closed (path : List String) :
    withoutEmptyStart (closed path) = closed (withoutEmptyStart path) := by
  induction path with
  | nil => rfl
  | cons segment path ih =>
    by_cases hempty : segment = ""
    · subst hempty
      cases path with
      | nil => rfl
      | cons b path =>
        rw [closed_cons_cons]
        exact ih
    · rw [withoutEmptyStart_cons hempty]
      cases path with
      | nil =>
        have hclosed : closed [segment] = [segment, ""] := closed_concat hempty []
        rw [hclosed, withoutEmptyStart_cons hempty]
      | cons b path => rw [closed_cons_cons, withoutEmptyStart_cons hempty]

/-- Closing a path brings no drive to its start. -/
theorem isPlainDrive_head?_closed (path : List String) :
    (closed path).head?.any isPlainDrive = path.head?.any isPlainDrive := by
  cases path with
  | nil => decide
  | cons segment path =>
    cases path with
    | nil =>
      by_cases hempty : segment = ""
      · subst hempty
        rfl
      · have hclosed : closed [segment] = [segment, ""] := closed_concat hempty []
        rw [hclosed]
        rfl
    | cons b path => rw [closed_cons_cons]; rfl

end

end CarbonIntensity.Url
