import CarbonIntensity.Url.Parser

/-!
# Joining plain paths

A path of plain segments, of small letters, digits and hyphens, takes the place of what follows the last
slash of a base:

    base.join "a/b" = .ok { base with path := …/a/b, query := none, fragment := none }      (join_plain)

Joined to a file it gives a file (scheme_of_join_file).
-/

namespace CarbonIntensity.Url

/-- A small letter, a digit or a hyphen. -/
def isPlainChar (c : Char) : Bool := c.isLower || c.isDigit || c = '-'

/-- A segment of plain characters that is not empty. -/
structure IsPlain (segment : String) : Prop where
  nonempty : segment ≠ ""
  chars : ∀ c ∈ segment.toList, isPlainChar c = true

instance (segment : String) : Decidable (IsPlain segment) :=
  decidable_of_iff (segment ≠ "" ∧ segment.toList.all isPlainChar = true)
    ⟨fun h => ⟨h.1, List.all_eq_true.mp h.2⟩, fun h => ⟨h.nonempty, List.all_eq_true.mpr h.chars⟩⟩

/-! ## Plain characters -/

section

variable {c : Char}

theorem ne_of_isPlainChar (h : isPlainChar c = true) {d : Char} (hd : isPlainChar d = false) : c ≠ d := by
  rintro rfl
  rw [h] at hd
  cases hd

/-- Plain characters are visible ones outside the big letters. -/
theorem toNat_of_isPlainChar (h : isPlainChar c = true) :
    0x20 < c.toNat ∧ c.toNat < 0x7F ∧ (c.toNat < 65 ∨ 90 < c.toNat) := by
  have hcases : ((97 ≤ c.toNat ∧ c.toNat ≤ 122) ∨ (48 ≤ c.toNat ∧ c.toNat ≤ 57)) ∨ c = '-' := by
    unfold isPlainChar at h
    rw [Bool.or_eq_true, Bool.or_eq_true, decide_eq_true_iff] at h
    refine h.imp_left (Or.imp (fun hlower => ?_) fun hdigit => ?_)
    · have hbounds : (decide (c.val ≥ 'a'.val) && decide (c.val ≤ 'z'.val)) = true := hlower
      rw [Bool.and_eq_true, decide_eq_true_iff, decide_eq_true_iff] at hbounds
      exact hbounds
    · have hbounds : (decide (c.val ≥ '0'.val) && decide (c.val ≤ '9'.val)) = true := hdigit
      rw [Bool.and_eq_true, decide_eq_true_iff, decide_eq_true_iff] at hbounds
      exact hbounds
  rcases hcases with (h | h) | rfl
  · omega
  · omega
  · decide

theorem toLower_of_isPlainChar (h : isPlainChar c = true) : c.toLower = c := by
  have hbig := (toNat_of_isPlainChar h).2.2
  unfold Char.toLower
  refine dif_neg fun hupper => ?_
  have hlow : 65 ≤ c.toNat := hupper.1
  have hhigh : c.toNat ≤ 90 := hupper.2
  omega

theorem isSlash_of_isPlainChar (special : Bool) (h : isPlainChar c = true) : isSlash special c = false := by
  unfold isSlash
  rw [decide_eq_false (ne_of_isPlainChar h (by decide)), decide_eq_false (ne_of_isPlainChar h (by decide)),
    Bool.and_false]
  rfl

theorem mark_of_isPlainChar (h : isPlainChar c = true) :
    (decide (c = '?') || decide (c = '#')) = false := by
  rw [decide_eq_false (ne_of_isPlainChar h (by decide)), decide_eq_false (ne_of_isPlainChar h (by decide))]
  rfl

theorem keepsPath_of_isPlainChar (h : isPlainChar c = true) : keepsPath c = true := by
  obtain ⟨hlow, hhigh, -⟩ := toNat_of_isPlainChar h
  have hcontains : " \"<>\x60#?\x7b\x7d".toList.contains c = false := by
    rw [Bool.eq_false_iff]
    intro hmem
    have hall : (" \"<>\x60#?\x7b\x7d".toList.any isPlainChar) = false := by decide
    exact List.any_eq_false.mp hall c (List.contains_iff_mem.mp hmem) h
  unfold keepsPath keepsBut
  rw [hcontains, decide_eq_true (Nat.le_of_lt hlow), decide_eq_true hhigh]
  rfl

end

/-! ## Segments -/

section

variable {special file : Bool} {done : List String}

theorem encoded_of_plain {cs : List Char} (h : ∀ c ∈ cs, isPlainChar c = true) :
    encoded keepsPath cs = String.ofList cs := by
  unfold encoded Text.percentEncode
  congr 1
  induction cs with
  | nil => rfl
  | cons c cs ih =>
    rw [List.flatMap_cons, ih fun d hd => h d (List.mem_cons_of_mem _ hd)]
    unfold Text.percentChar
    rw [if_pos (keepsPath_of_isPlainChar (h c List.mem_cons_self))]
    rfl

theorem startsWithDrive_of_not_mem {ends : String} {cs : List Char} (h : ∀ c ∈ cs, c ≠ ':' ∧ c ≠ '|') :
    startsWithDrive ends cs = false := by
  have hcolon : ∀ c ∈ cs, (decide (c = ':') || decide (c = '|')) = false := fun c hc => by
    rw [decide_eq_false (h c hc).1, decide_eq_false (h c hc).2]
    rfl
  unfold startsWithDrive
  split
  · rw [hcolon _ (by simp), Bool.and_false]
  · rw [hcolon _ (by simp), Bool.and_false, Bool.false_and]
  · rfl

theorem isDrive_of_plain {cs : List Char} (h : ∀ c ∈ cs, isPlainChar c = true) : isDrive cs = false :=
  startsWithDrive_of_not_mem fun c hc =>
    ⟨ne_of_isPlainChar (h c hc) (by decide), ne_of_isPlainChar (h c hc) (by decide)⟩

/-- Dots are written with characters that are not plain. -/
theorem lowerAscii_of_plain {segment : String} (h : IsPlain segment) :
    Text.lowerAscii segment = segment := by
  have hmap : segment.toList.map Char.toLower = segment.toList.map id :=
    List.map_congr_left fun c hc => toLower_of_isPlainChar (h.chars c hc)
  unfold Text.lowerAscii
  rw [hmap, List.map_id, String.ofList_toList]

theorem pushSegment_of_plain {segment : String} (h : IsPlain segment) (isLast : Bool) :
    pushSegment file done segment isLast = done ++ [segment] := by
  have hall : segment.toList.all isPlainChar = true := List.all_eq_true.mpr h.chars
  have hdouble : isDoubleDot segment = false := by
    unfold isDoubleDot
    rw [lowerAscii_of_plain h, Bool.eq_false_iff, Ne, List.contains_iff_mem]
    intro hmem
    have hdots : ∀ d ∈ ["..", ".%2e", "%2e.", "%2e%2e"], d.toList.all isPlainChar = false := by decide
    exact Bool.false_ne_true ((hdots segment hmem).symm.trans hall)
  have hsingle : isSingleDot segment = false := by
    unfold isSingleDot
    rw [lowerAscii_of_plain h, Bool.eq_false_iff, Ne, List.contains_iff_mem]
    intro hmem
    have hdots : ∀ d ∈ [".", "%2e"], d.toList.all isPlainChar = false := by decide
    exact Bool.false_ne_true ((hdots segment hmem).symm.trans hall)
  unfold pushSegment
  rw [hdouble, hsingle, isDrive_of_plain h.chars, Bool.and_false]
  rfl

/-- Plain characters are put into the buffer. -/
theorem takeSegments_plain {buffer cs tail : List Char} (h : ∀ c ∈ cs, isPlainChar c = true) :
    takeSegments special file done buffer (cs ++ tail) =
      takeSegments special file done (cs.reverse ++ buffer) tail := by
  induction cs generalizing buffer with
  | nil => rfl
  | cons c cs ih =>
    have hc := h c List.mem_cons_self
    rw [List.cons_append, takeSegments, isSlash_of_isPlainChar special hc, if_neg Bool.false_ne_true,
      mark_of_isPlainChar hc, if_neg Bool.false_ne_true, ih fun d hd => h d (List.mem_cons_of_mem _ hd),
      List.reverse_cons, List.append_assoc]
    rfl

theorem takeSegments_intercalate {segments : List String} (hne : segments ≠ [])
    (h : ∀ s ∈ segments, IsPlain s) :
    takeSegments special file done [] (List.intercalate ['/'] (segments.map String.toList)) =
      (done ++ segments, []) := by
  induction segments generalizing done with
  | nil => exact absurd rfl hne
  | cons s rest ih =>
    have hs := h s List.mem_cons_self
    have hpush : ∀ isLast, pushSegment file done (encoded keepsPath (s.toList.reverse ++ []).reverse) isLast =
        done ++ [s] := fun isLast => by
      rw [List.append_nil, List.reverse_reverse, encoded_of_plain hs.chars, String.ofList_toList,
        pushSegment_of_plain hs]
    cases rest with
    | nil =>
      have htake : takeSegments special file done [] (s.toList ++ []) =
        takeSegments special file done (s.toList.reverse ++ []) [] := takeSegments_plain hs.chars
      rw [List.append_nil] at htake
      show takeSegments special file done [] (List.intercalate ['/'] [s.toList]) = _
      rw [List.intercalate_singleton, htake, takeSegments, hpush]
    | cons t rest =>
      have hrest : takeSegments special file (done ++ [s]) []
          (List.intercalate ['/'] ((t :: rest).map String.toList)) = (done ++ [s] ++ t :: rest, []) :=
        ih (List.cons_ne_nil _ _) fun x hx => h x (List.mem_cons_of_mem _ hx)
      have hslash : isSlash special '/' = true := rfl
      rw [List.map_cons, List.map_cons, List.intercalate_cons_cons, List.append_assoc,
        takeSegments_plain hs.chars, List.cons_append, List.nil_append, takeSegments, hslash, if_pos rfl,
        hpush, ← List.map_cons, hrest, List.append_assoc]
      rfl

end

/-! ## Joining -/

section

variable {base : Url} {segments : List String}

/-- What a path is read as: plain characters and slashes, and a plain one at the start. -/
theorem chars_of_plain (hne : segments ≠ []) (h : ∀ s ∈ segments, IsPlain s) :
    let cs := List.intercalate ['/'] (segments.map String.toList)
    (∀ c ∈ cs, isPlainChar c = true ∨ c = '/') ∧ ∃ c rest, cs = c :: rest ∧ isPlainChar c = true := by
  induction segments with
  | nil => exact absurd rfl hne
  | cons s rest ih =>
    have hs := h s List.mem_cons_self
    obtain ⟨c, cs, hcs⟩ : ∃ c cs, s.toList = c :: cs := List.exists_cons_of_ne_nil fun hnil =>
      hs.nonempty (String.toList_eq_nil_iff.mp hnil)
    have hc := hs.chars c (by rw [hcs]; exact List.mem_cons_self)
    cases rest with
    | nil =>
      rw [List.map_singleton, List.intercalate_singleton]
      exact ⟨fun d hd => .inl (hs.chars d hd), c, cs, hcs, hc⟩
    | cons t rest =>
      obtain ⟨hall, -⟩ := ih (List.cons_ne_nil _ _) fun x hx => h x (List.mem_cons_of_mem _ hx)
      rw [List.map_cons, List.map_cons, List.intercalate_cons_cons, ← List.map_cons]
      refine ⟨fun d hd => ?_, c, _, by rw [hcs]; rfl, hc⟩
      rcases List.mem_append.mp hd with hd | hd
      · rcases List.mem_append.mp hd with hd | hd
        · exact .inl (hs.chars d hd)
        · exact .inr (List.mem_singleton.mp hd)
      · exact hall d hd

theorem cleaned_of_visible {s : String} (h : ∀ c ∈ s.toList, 0x20 < c.toNat) : cleaned s = s.toList := by
  have hkeep : ∀ cs : List Char, (∀ c ∈ cs, 0x20 < c.toNat) →
      (cs.dropWhile fun c => decide (c.toNat ≤ 0x20)) = cs := by
    intro cs hcs
    cases cs with
    | nil => rfl
    | cons c cs =>
      have hc := hcs c List.mem_cons_self
      exact List.dropWhile_cons_of_neg (by rw [decide_eq_true_iff]; omega)
  have hreverse : ∀ c ∈ s.toList.reverse, 0x20 < c.toNat := fun c hc => h c (List.mem_reverse.mp hc)
  unfold cleaned
  simp only
  rw [hkeep _ h, hkeep _ hreverse, List.reverse_reverse, List.filter_eq_self]
  intro c hc
  have hne : ∀ d : Char, ¬0x20 < d.toNat → c ≠ d := by
    rintro d hd rfl
    exact hd (h c hc)
  rw [decide_eq_true (hne '\t' (by decide)), decide_eq_true (hne '\n' (by decide)),
    decide_eq_true (hne '\r' (by decide))]
  rfl

theorem scheme?_eq_none {cs : List Char} (h : ':' ∉ cs) : scheme? cs = none := by
  cases cs with
  | nil => rfl
  | cons c cs =>
    unfold scheme?
    simp only
    split
    · next rest hrest =>
      exact absurd ((List.dropWhile_sublist _).subset (hrest ▸ List.mem_cons_self)) h
    · rfl

@[simp] theorem scheme_withTail (u : Url) (cs : List Char) : (withTail u cs).scheme = u.scheme := by
  unfold withTail
  split <;> rfl

/-- How a plain path is read where a base stands. -/
theorem join_eq_of_plain (base : Url) (hne : segments ≠ []) (h : ∀ s ∈ segments, IsPlain s) :
    ∃ c rest, List.intercalate ['/'] (segments.map String.toList) = c :: rest ∧ isPlainChar c = true ∧
      base.join (String.intercalate "/" segments) =
        if base.hasRootlessPath then .error .relativeToRootless
        else if base.scheme = "file" then fileUrl (some base) (c :: rest)
        else resolve base (c :: rest) := by
  obtain ⟨hall, c, rest, hcs, hc⟩ := chars_of_plain hne h
  refine ⟨c, rest, hcs, hc, ?_⟩
  have htext : (String.intercalate "/" segments).toList = c :: rest := by
    rw [String.toList_intercalate]
    exact hcs
  have hclean : cleaned (String.intercalate "/" segments) = c :: rest := by
    rw [cleaned_of_visible, htext]
    intro d hd
    rw [htext, ← hcs] at hd
    rcases hall d hd with hplain | rfl
    · exact (toNat_of_isPlainChar hplain).1
    · decide
  have hcolon : ':' ∉ c :: rest := by
    intro hmem
    rw [← hcs] at hmem
    rcases hall ':' hmem with hplain | hslash
    · exact absurd hplain (by decide)
    · exact absurd hslash (by decide)
  have hhash : ((c :: rest).head? == some '#') = false :=
    beq_false_of_ne fun heq => ne_of_isPlainChar hc (by decide) (Option.some.inj heq)
  unfold join
  rw [hclean]
  simp only
  rw [scheme?_eq_none hcolon]
  simp only
  rw [hhash, if_neg Bool.false_ne_true]

/-- Nothing can be joined to a rootless path. -/
theorem hasRootlessPath_of_join (hne : segments ≠ []) (h : ∀ s ∈ segments, IsPlain s) {u : Url}
    (hu : base.join (String.intercalate "/" segments) = .ok u) : base.hasRootlessPath = false := by
  obtain ⟨c, rest, hcs, hc, hjoin⟩ := join_eq_of_plain base hne h
  rw [hjoin] at hu
  split at hu
  · cases hu
  · next hpath => exact Bool.eq_false_iff.mpr hpath

/-- **Plain paths.** A plain path takes the place of what follows the last slash of a base that is no
file, and of its query and fragment. -/
theorem join_plain (hne : segments ≠ []) (h : ∀ s ∈ segments, IsPlain s)
    (hpath : base.hasRootlessPath = false) (hfile : base.scheme ≠ "file") :
    base.join (String.intercalate "/" segments) =
      .ok { base with
        path := .segments (base.path.segmentList.dropLast ++ segments)
        query := none
        fragment := none } := by
  obtain ⟨c, rest, hcs, hc, hjoin⟩ := join_eq_of_plain base hne h
  have htail : isTail (c :: rest) = false := mark_of_isPlainChar hc
  have hslash : (!(c :: rest).head?.any (isSlash true)) = true :=
    congrArg (!·) (isSlash_of_isPlainChar true hc)
  rw [hjoin, hpath, if_neg Bool.false_ne_true, if_neg hfile]
  unfold resolve
  simp only
  rw [htail, if_neg Bool.false_ne_true, hslash, if_pos rfl, ← hcs, takeSegments_intercalate hne h]
  rfl

/-- A plain path can be joined to every base whose path is not rootless. -/
theorem exists_join_plain (hne : segments ≠ []) (h : ∀ s ∈ segments, IsPlain s)
    (hpath : base.hasRootlessPath = false) :
    ∃ u, base.join (String.intercalate "/" segments) = .ok u := by
  by_cases hfile : base.scheme = "file"
  · obtain ⟨c, rest, -, hc, hjoin⟩ := join_eq_of_plain base hne h
    have hslash : (c :: rest).head?.any (isSlash true) = false := isSlash_of_isPlainChar true hc
    rw [hjoin, hpath, if_neg Bool.false_ne_true, if_pos hfile]
    unfold fileUrl
    rw [hslash, if_neg Bool.false_ne_true]
    exact ⟨_, rfl⟩
  · exact ⟨_, join_plain hne h hpath hfile⟩

/-- A plain path joined to a file gives a file. -/
theorem scheme_of_join_file (hne : segments ≠ []) (h : ∀ s ∈ segments, IsPlain s)
    (hfile : base.scheme = "file") {u : Url} (hu : base.join (String.intercalate "/" segments) = .ok u) :
    u.scheme = "file" := by
  obtain ⟨c, rest, hcs, hc, hjoin⟩ := join_eq_of_plain base hne h
  rw [hjoin, if_pos hfile] at hu
  split at hu
  · cases hu
  · unfold fileUrl at hu
    have hslash : (c :: rest).head?.any (isSlash true) = false := isSlash_of_isPlainChar true hc
    rw [hslash, if_neg Bool.false_ne_true] at hu
    obtain rfl := Except.ok.inj hu
    unfold fileFromText
    simp only
    split
    · rw [scheme_withTail, hfile]
    · split
      · unfold ofFile
        rw [scheme_withTail]
        rfl
      · rw [scheme_withTail, hfile]

end

end CarbonIntensity.Url
