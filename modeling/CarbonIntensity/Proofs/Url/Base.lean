import CarbonIntensity.Proofs.Settings.Buildable
import CarbonIntensity.Proofs.Url.Slash

/-!
# Paths joined to base URLs

A base URL is read from a text with a slash put at its end, so that the paths of a service come after the
whole path of the text:

    v.pathText = withSlash u.pathText ++ path

This is so where the slash gets to the end of the path (`Url.KeepsPath`). If a query or a fragment follows
the path the slash gets there, and the last segment of the path gives way to what is joined to it; and a
slash after a blank or after a slash of the other kind makes a path of its own.
-/

namespace CarbonIntensity

namespace Url

/-! ## Reading with a slash at the end -/

section

variable {raw : String} {l cs : List Char} {c : Char}

/-- What is read of the characters of a text up to one that is not blank. -/
def readable (cs : List Char) : List Char :=
  (cs.dropWhile fun c => c.toNat ≤ 0x20).filter fun c => c ≠ '\t' && c ≠ '\n' && c ≠ '\r'

theorem readable_concat (hc : 0x20 < c.toNat) (cs : List Char) :
    readable (cs ++ [c]) = readable cs ++ [c] := by
  have hedge : decide (c.toNat ≤ 0x20) = false := decide_eq_false (Nat.not_le_of_lt hc)
  have hne : ∀ d : Char, ¬0x20 < d.toNat → c ≠ d := by
    rintro d hd rfl
    exact hd hc
  unfold readable
  rw [dropWhile_concat (.inl hedge), List.filter_append]
  simp [hne '\t' (by decide), hne '\n' (by decide), hne '\r' (by decide)]

theorem cleaned_concat (hraw : raw.toList = l ++ [c]) (hc : 0x20 < c.toNat) :
    cleaned raw = readable l ++ [c] := by
  have hedge : decide (c.toNat ≤ 0x20) = false := decide_eq_false (Nat.not_le_of_lt hc)
  have hkeep : ∀ cs, ((c :: cs).dropWhile fun c => decide (c.toNat ≤ 0x20)) = c :: cs := fun _ =>
    List.dropWhile_cons_of_neg (Bool.eq_false_iff.mp hedge)
  have htrimmed : (((l ++ [c]).dropWhile fun c => decide (c.toNat ≤ 0x20)).reverse.dropWhile
      fun c => decide (c.toNat ≤ 0x20)).reverse = (l ++ [c]).dropWhile fun c => decide (c.toNat ≤ 0x20) := by
    rw [dropWhile_concat (.inl hedge), List.reverse_concat, hkeep, List.reverse_cons, List.reverse_reverse]
  rw [← readable_concat hc]
  unfold cleaned readable
  simp only
  rw [hraw, htrimmed]

/-- The scheme is found in front of the slash. -/
theorem scheme?_slash {scheme : String} {rest' : List Char} (h : scheme? (cs ++ ['/']) = some (scheme, rest')) :
    ∃ rest, rest' = rest ++ ['/'] ∧ rest <:+ cs ∧ scheme? cs = some (scheme, rest) := by
  cases cs with
  | nil => cases h
  | cons c cs =>
    unfold scheme? at h ⊢
    simp only [List.cons_append] at h ⊢
    generalize hchars : (fun c : Char => c.isAlphanum || decide (c = '+') || decide (c = '-') ||
      decide (c = '.')) = isSchemeChar at h ⊢
    have hslash : isSchemeChar '/' = false := by
      rw [← hchars]
      decide
    have hsuffix : (c :: cs).dropWhile isSchemeChar <:+ c :: cs := List.dropWhile_suffix _
    rw [← List.cons_append, dropWhile_concat (.inl hslash), takeWhile_slash hslash] at h
    generalize (c :: cs).dropWhile isSchemeChar = after at h hsuffix ⊢
    cases after with
    | nil => cases h
    | cons d rest =>
      by_cases hd : d = ':'
      · subst hd
        simp only [List.cons_append] at h ⊢
        split at h
        · next halpha =>
          simp only [Option.some.injEq, Prod.mk.injEq] at h
          obtain ⟨rfl, rfl⟩ := h
          rw [if_pos halpha]
          exact ⟨rest, rfl, (List.suffix_cons ':' rest).trans hsuffix, rfl⟩
        · cases h
      · rw [List.cons_append] at h
        split at h
        · next heq => exact absurd (List.cons.inj heq).1 hd
        · cases h

variable {w : Url}

theorem slashed_of_cleaned (hcleaned : cleaned raw = cs ++ ['/']) (h : parse raw = .ok w)
    (hpath : w.hasRootlessPath = false) :
    ∃ scheme rest, Slashed scheme rest w ∧ rest <:+ cs ∧ scheme? cs = some (scheme, rest) := by
  unfold parse at h
  rw [hcleaned] at h
  split at h
  · next scheme rest' hscheme =>
    obtain ⟨rest, rfl, hsuffix, hscheme'⟩ := scheme?_slash hscheme
    exact ⟨scheme, rest, slashed_of_afterScheme h hpath, hsuffix, hscheme'⟩
  · cases h

/-- A text that is a URL with a slash put at its end is one without it, unless it ends in a blank or a
slash of its own. -/
theorem exists_of_parse_slash (hraw : raw.toList = l ++ [c]) (hc : 0x20 < c.toNat)
    (h : parse (raw ++ "/") = .ok w) (hpath : w.hasRootlessPath = false)
    (hslash : isSlash (isSpecial w.scheme) c = false) :
    ∃ u, parse raw = .ok u ∧ w.IsBase u ∧ w.Tidy ∧ Slashless u.path.segmentList ∧
      ∀ text, u.path = .rootless text → text = "" := by
  have hcleaned : cleaned (raw ++ "/") = readable l ++ [c] ++ ['/'] := by
    have hlist : (raw ++ "/").toList = l ++ [c] ++ ['/'] := by rw [String.toList_append, hraw]; rfl
    rw [cleaned_concat hlist (by decide), readable_concat hc]
  obtain ⟨scheme, rest, hslashed, hsuffix, hscheme⟩ := slashed_of_cleaned hcleaned h hpath
  have hopen : IsOpen (isSpecial scheme) rest := by
    rw [hslashed.scheme_eq] at hslash
    refine IsOpen.of_suffix ?_ hsuffix
    intro d hd
    rw [List.getLast?_concat] at hd
    obtain rfl := Option.some.inj hd
    exact hslash
  obtain ⟨u, hread, hbase, hslashless, hrootless⟩ := hslashed.exists_url hopen
  refine ⟨u, ?_, hbase, hslashed.tidy, hslashless, hrootless⟩
  unfold parse
  rw [cleaned_concat hraw hc, hscheme]
  exact hread

/-- A text that ends in a slash. -/
theorem isBase_of_parse (hraw : raw.toList = l ++ ['/']) (h : parse raw = .ok w)
    (hpath : w.hasRootlessPath = false) : w.IsBase w ∧ w.Tidy := by
  obtain ⟨scheme, rest, hslashed, -, -⟩ := slashed_of_cleaned (cleaned_concat hraw (by decide)) h hpath
  exact ⟨hslashed.isBase_self, hslashed.tidy⟩

end

/-! ## Joining -/

section

variable {base : Url} {segments : List String}

/-- A plain path takes the place of what follows the stem of a base, and of its query and fragment. -/
theorem join_stem (hne : segments ≠ []) (h : ∀ s ∈ segments, IsPlain s) (hpath : base.hasRootlessPath = false)
    (htidy : base.Tidy) :
    base.join (String.intercalate "/" segments) =
      .ok { base with path := .segments (base.stem ++ segments), query := none, fragment := none } := by
  by_cases hfile : base.scheme = "file"
  · obtain ⟨c, rest, hcs, hc, hjoin⟩ := join_eq_of_plain base hne h
    obtain ⟨segment, more, rfl⟩ := List.exists_cons_of_ne_nil hne
    have hslash : (c :: rest).head?.any (isSlash true) = false := isSlash_of_isPlainChar true hc
    have htail : isTail (c :: rest) = false := mark_of_isPlainChar hc
    have hdrive : startsWithDriveSegment (c :: rest) = false := by
      refine startsWithDrive_of_not_mem fun d hd => ?_
      rw [← hcs] at hd
      rcases (chars_of_plain hne h).1 d hd with hplain | rfl
      · exact ⟨ne_of_isPlainChar hplain (by decide), ne_of_isPlainChar hplain (by decide)⟩
      · decide
    have hstart := withoutEmptyStart_append (htidy.start hfile) (h segment List.mem_cons_self).nonempty more
    rw [hjoin, hpath, if_neg Bool.false_ne_true, if_pos hfile]
    unfold fileUrl fileFromText stem
    simp only
    rw [hslash, if_neg Bool.false_ne_true, htail, if_neg Bool.false_ne_true, hdrive,
      if_neg Bool.false_ne_true, ← hcs, takeSegments_intercalate hne h, hstart, if_pos hfile]
    rfl
  · rw [join_plain hne h hpath hfile]
    unfold stem
    rw [if_neg hfile]

end

/-! ## The text of a path -/

/-- What stands before a path that could be taken for a host. -/
def pathGuard (host : Option Host) (path : List String) : String :=
  match host, path with
  | none, "" :: _ :: _ => "/."
  | _, _ => ""

/-- Each segment after a slash. -/
def slashText (path : List String) : String := String.join (path.map ("/" ++ ·))

theorem slashText_append (a b : List String) : slashText (a ++ b) = slashText a ++ slashText b := by
  unfold slashText
  rw [List.map_append, String.join_append]

theorem slashText_singleton (segment : String) : slashText [segment] = "/" ++ segment := by
  unfold slashText
  rw [List.map_singleton, String.join_cons, String.join_nil, String.append_empty]

theorem slashText_intercalate {segments : List String} (hne : segments ≠ []) :
    slashText segments = "/" ++ String.intercalate "/" segments := by
  induction segments with
  | nil => exact absurd rfl hne
  | cons s rest ih =>
    cases rest with
    | nil => rw [slashText_singleton, String.intercalate_singleton]
    | cons t rest =>
      rw [← List.singleton_append, slashText_append, ih (List.cons_ne_nil _ _), slashText_singleton,
        List.singleton_append, String.intercalate_cons_cons]
      simp only [String.append_assoc]

theorem pathGuard_cons {segment : String} (h : segment ≠ "") (host : Option Host) (path : List String) :
    pathGuard host (segment :: path) = "" := by
  unfold pathGuard
  split
  · next heq => exact absurd (List.cons.inj heq).1 h
  · rfl

/-- What is joined to a path makes it look neither more nor less like a host. -/
theorem pathGuard_front {segment : String} (h : segment ≠ "") (host : Option Host) (path rest : List String) :
    pathGuard host (front path ++ segment :: rest) = pathGuard host path := by
  cases path with
  | nil => exact (pathGuard_cons h host rest).trans (by cases host <;> rfl)
  | cons a path =>
    cases path with
    | nil =>
      by_cases ha : a = ""
      · subst ha
        exact (pathGuard_cons h host rest).trans (by cases host <;> rfl)
      · have hfront : front [a] = [a] := front_concat ha []
        rw [hfront, List.singleton_append, pathGuard_cons ha, pathGuard_cons ha]
    | cons b path =>
      rw [front_cons_cons, List.cons_append]
      by_cases ha : a = ""
      · subst ha
        obtain ⟨c, more, hmore⟩ : ∃ c more, front (b :: path) ++ segment :: rest = c :: more :=
          List.exists_cons_of_ne_nil (by simp)
        rw [hmore]
        cases host <;> rfl
      · rw [pathGuard_cons ha, pathGuard_cons ha]

theorem pathText_eq {u : Url} (hrootless : ∀ text, u.path = .rootless text → text = "") :
    u.pathText = pathGuard u.host u.path.segmentList ++ slashText u.path.segmentList := by
  unfold pathText
  split
  · next text hpath =>
    rw [hrootless text hpath, hpath]
    cases u.host <;> rfl
  · next list hpath =>
    rw [hpath]
    rfl

/-- The text of a path ends in a slash only where the path is closed. -/
theorem withSlash_pathText {host : Option Host} {path : List String} (h : Slashless path) :
    BaseUrl.withSlash (pathGuard host path ++ slashText path) =
      pathGuard host path ++ slashText (front path) ++ "/" := by
  have hslash : "/".toList = ['/'] := rfl
  unfold BaseUrl.withSlash
  rcases List.eq_nil_or_concat path with rfl | ⟨init, last, rfl⟩
  · cases host <;> rfl
  · rw [List.concat_eq_append] at h ⊢
    by_cases hlast : last = ""
    · subst hlast
      rw [front_concat_empty, slashText_append, slashText_singleton, if_pos]
      · simp only [String.append_empty, String.append_assoc]
      · simp [String.toList_append, hslash]
    · rw [front_concat hlast, if_neg]
      rw [slashText_append, slashText_singleton]
      simp only [String.toList_append, ← List.append_assoc]
      have hne : last.toList ≠ [] := fun hnil => hlast (String.toList_eq_nil_iff.mp hnil)
      rw [List.getLast?_append_of_ne_nil _ hne]
      intro hend
      exact h last (by simp) (List.mem_of_getLast? hend)

/-- A path that is joined to the whole of another one, as texts. -/
theorem pathText_append {u v : Url} (hhost : v.host = u.host) (hslashless : Slashless u.path.segmentList)
    (hrootless : ∀ text, u.path = .rootless text → text = "") {segment : String} {rest : List String}
    (hsegment : segment ≠ "") (hpath : v.path = .segments (front u.path.segmentList ++ segment :: rest)) :
    v.pathText = BaseUrl.withSlash u.pathText ++ String.intercalate "/" (segment :: rest) := by
  have hrootless' : ∀ text, v.path = .rootless text → text = "" := fun text htext =>
    nomatch hpath.symm.trans htext
  have hsegments : v.path.segmentList = front u.path.segmentList ++ segment :: rest := by
    rw [hpath]
    rfl
  rw [pathText_eq hrootless', pathText_eq hrootless, hhost, hsegments, pathGuard_front hsegment, slashText_append, slashText_intercalate (List.cons_ne_nil _ _),
    withSlash_pathText hslashless]
  simp only [String.append_assoc]

/-! ## Paths that are kept -/

/-- A path that is joined to the URL is put after its whole path: nothing follows that, or the path ends in a
slash or in the drive of a file. -/
def KeepsPath (u : Url) : Prop :=
  (u.query = none ∧ u.fragment = none) ∨ ∀ last, u.path.segmentList.getLast? = some last →
    last = "" ∨ u.scheme = "file" ∧ isPlainDrive last = true

theorem IsBase.stem_of_keepsPath {w u : Url} (h : w.IsBase u) (hkeeps : u.KeepsPath) :
    w.stem = front u.path.segmentList := by
  rw [h.stem]
  split
  · rfl
  · next hnone =>
    have hlast := hkeeps.resolve_left hnone
    by_cases hclosed : ∀ segment, u.path.segmentList.getLast? = some segment → segment = ""
    · rw [stem_eq hclosed, front_eq hclosed]
    · -- What is left are files whose last segment is a drive, which stays.
      obtain ⟨segment, hsegment, hne⟩ : ∃ segment, u.path.segmentList.getLast? = some segment ∧ segment ≠ "" := by
        simpa using hclosed
      obtain ⟨hfile, hdrive⟩ := (hlast segment hsegment).resolve_left hne
      unfold Url.stem fileParent
      simp only [hfile, if_true, hsegment, hdrive]
      refine (front_of_getLast? ?_).symm
      rw [hsegment]
      exact fun heq => hne (Option.some.inj heq)

theorem IsBase.stem_of_not_keepsPath {w u : Url} (h : w.IsBase u) (hnot : ¬u.KeepsPath) :
    ∃ before last, u.path = .segments (before ++ [last]) ∧ last ≠ "" ∧ w.stem = before := by
  obtain ⟨hnone, hclosed⟩ := not_or.mp hnot
  obtain ⟨last, hlast, hne⟩ : ∃ last, u.path.segmentList.getLast? = some last ∧
      ¬(last = "" ∨ u.scheme = "file" ∧ isPlainDrive last = true) := by
    simpa using hclosed
  obtain ⟨hempty, hdrive⟩ := not_or.mp hne
  obtain ⟨before, hbefore⟩ := List.getLast?_eq_some_iff.mp hlast
  refine ⟨before, last, ?_, hempty, ?_⟩
  · cases hpath : u.path with
    | segments list =>
      rw [hpath] at hbefore
      exact congrArg _ hbefore
    | rootless text =>
      rw [hpath] at hlast
      cases hlast
  · rw [h.stem, if_neg hnone]
    unfold Url.stem fileParent
    rw [hlast, hbefore]
    split
    · next hfile =>
      simp only
      rw [if_neg fun hd => hdrive ⟨hfile, hd⟩, List.dropLast_concat]
    · exact List.dropLast_concat

end Url

/-! ## Base URLs -/

namespace BaseUrl

/-- The paths that the clients ask their services for, segment by segment. -/
def servicePaths : List (List String) :=
  [["login"], ["region-from-loc"], ["historical"], ["forecast"], ["forecast", "historical"], ["zones"],
    ["carbon-intensity", "history"], ["carbon-intensity", "past-range"], ["carbon-intensity", "forecast"],
    ["latest"]]

example : servicePaths.map (String.intercalate "/") = ["login", "region-from-loc", "historical", "forecast",
    "forecast/historical", "zones", "carbon-intensity/history", "carbon-intensity/past-range",
    "carbon-intensity/forecast", "latest"] := by decide

variable {provider setting raw : String} {base : Url}

/-- A base stands in for the URL that its text is without the slash. -/
theorem exists_of_parse (hbase : parse provider setting raw = .ok base)
    (hend : ∀ c, raw.toList.getLast? = some c →
      0x20 < c.toNat ∧ (c = '\\' → Url.isSpecial base.scheme = false)) :
    ∃ u, Url.parse raw = .ok u ∧ base.IsBase u ∧ base.Tidy ∧ Url.Slashless u.path.segmentList ∧
      ∀ text, u.path = .rootless text → text = "" := by
  have hpath := hasRootlessPath_of_parse hbase
  have hparse : Url.parse (withSlash raw) = .ok base := by
    unfold parse at hbase
    split at hbase
    · cases hbase
    · next u hu =>
      split at hbase
      · cases hbase
      · obtain rfl := Except.ok.inj hbase
        exact hu
  unfold withSlash at hparse
  rcases List.eq_nil_or_concat raw.toList with hraw | ⟨l, c, hraw⟩
  · obtain rfl := String.toList_eq_nil_iff.mp hraw
    cases hparse
  · rw [List.concat_eq_append] at hraw
    have hlast : raw.toList.getLast? = some c := by rw [hraw, List.getLast?_concat]
    rw [hlast] at hparse
    by_cases hslash : c = '/'
    · subst hslash
      rw [if_pos rfl] at hparse
      obtain ⟨hself, htidy⟩ := Url.isBase_of_parse hraw hparse hpath
      refine ⟨base, hparse, hself, htidy, htidy.slashless, fun text htext => ?_⟩
      unfold Url.hasRootlessPath at hpath
      rw [htext] at hpath
      cases hpath
    · rw [if_neg fun heq => hslash (Option.some.inj heq)] at hparse
      obtain ⟨hc, hbackslash⟩ := hend c hlast
      refine Url.exists_of_parse_slash hraw hc hparse hpath ?_
      unfold Url.isSlash
      by_cases hb : c = '\\'
      · simp [hslash, hbackslash hb]
      · simp [hslash, hb]

/-- **Paths joined to base URLs.** A text that is accepted for a base, and ends neither in a blank nor in a
slash of the other kind, is itself that of a URL. A path of a service is always joined to the base, which
gives a URL that leads to the same host and port as the text, with the same credentials and with no query
or fragment. Its path is the whole path of the text with the path of the service after a slash, if the text
has neither query nor fragment or its path ends in a slash. Otherwise the last segment is lost. -/
theorem endpoint_of_parse (hbase : parse provider setting raw = .ok base)
    (hend : ∀ c, raw.toList.getLast? = some c →
      0x20 < c.toNat ∧ (c = '\\' → Url.isSpecial base.scheme = false)) :
    (∀ segments ∈ servicePaths, segments ≠ [] ∧ ∀ s ∈ segments, Url.IsPlain s) ∧
    ∃ u, Url.parse raw = .ok u ∧ ∀ segments, segments ≠ [] → (∀ s ∈ segments, Url.IsPlain s) →
      ∃ v, endpoint provider base (String.intercalate "/" segments) = .ok v ∧
        v.SameSite u ∧ v.query = none ∧ v.fragment = none ∧
        (u.KeepsPath → v.pathText = withSlash u.pathText ++ String.intercalate "/" segments) ∧
        (¬u.KeepsPath → ∃ before last, u.path = .segments (before ++ [last]) ∧ last ≠ "" ∧
          v.path = .segments (before ++ segments)) := by
  refine ⟨by decide, ?_⟩
  obtain ⟨u, hu, hisBase, htidy, hslashless, hrootless⟩ := exists_of_parse hbase hend
  refine ⟨u, hu, fun segments hne hplain => ?_⟩
  have hjoin := Url.join_stem hne hplain (hasRootlessPath_of_parse hbase) htidy
  refine ⟨{ base with path := .segments (base.stem ++ segments), query := none, fragment := none }, ?_,
    ⟨hisBase.site.scheme, hisBase.site.username, hisBase.site.password, hisBase.site.host,
    hisBase.site.port⟩, rfl, rfl, fun hkeeps => ?_, fun hnot => ?_⟩
  · unfold endpoint
    rw [hjoin]
  · obtain ⟨segment, rest, rfl⟩ := List.exists_cons_of_ne_nil hne
    have hsegment := (hplain segment List.mem_cons_self).nonempty
    rw [hisBase.stem_of_keepsPath hkeeps]
    refine Url.pathText_append ?_ hslashless hrootless hsegment rfl
    exact hisBase.site.host
  · obtain ⟨before, last, hpath, hlast, hstem⟩ := hisBase.stem_of_not_keepsPath hnot
    exact ⟨before, last, hpath, hlast, by rw [hstem]⟩

theorem endpoint_of_parse_versioned :
    ∃ base, parse "WattTime" "base_url" "http://[::1]/v3" = .ok base ∧
      ∃ v, endpoint "WattTime" base "forecast/historical" = .ok v ∧ v.pathText = "/v3/forecast/historical" := by
  have hparts : (Url.parse "http://[::1]/v3").toOption.map (fun u => (u.query, u.fragment, u.pathText)) =
      some (none, none, "/v3") := by decide +kernel
  have hisSome : (parse "WattTime" "base_url" "http://[::1]/v3").toOption.isSome = true := by decide +kernel
  obtain ⟨base, hbase⟩ := ok_of_isSome hisSome
  have hend : ∀ c, "http://[::1]/v3".toList.getLast? = some c →
      0x20 < c.toNat ∧ (c = '\\' → Url.isSpecial base.scheme = false) := by
    intro c hc
    obtain rfl : '3' = c := by simpa using hc
    exact ⟨by decide, fun heq => absurd heq (by decide)⟩
  obtain ⟨-, u, hu, hjoin⟩ := endpoint_of_parse hbase hend
  obtain ⟨u', hu', hparts⟩ := ok_of_toOption_map hparts
  obtain rfl := Except.ok.inj (hu.symm.trans hu')
  simp only [Prod.mk.injEq] at hparts
  obtain ⟨v, hv, -, -, -, hkept, -⟩ := hjoin ["forecast", "historical"] (by decide) (by decide)
  refine ⟨base, hbase, v, hv, ?_⟩
  rw [hkept (.inl ⟨hparts.1, hparts.2.1⟩), hparts.2.2]
  decide

/-- The path after a service path was joined to a base. -/
def joinedPath (raw path : String) : Option String :=
  (parse "WattTime" "base_url" raw >>= fun base => endpoint "WattTime" base path).toOption.map (·.pathText)

/-- The path of a text with a slash and a service path after it. -/
def extendedPath (raw path : String) : Option String :=
  (Url.parse raw).toOption.map fun u => withSlash u.pathText ++ path

/-- A slash that is put after a query, after a blank and after a slash of another kind. -/
theorem joinedPath_ne_extendedPath :
    joinedPath "http://[::1]/v3?key=1" "forecast" = some "/forecast" ∧
      extendedPath "http://[::1]/v3?key=1" "forecast" = some "/v3/forecast" ∧
      joinedPath "http://[::1]/v3 " "forecast" = some "/v3%20/forecast" ∧
      extendedPath "http://[::1]/v3 " "forecast" = some "/v3/forecast" ∧
      joinedPath "http://[::1]/v3\\" "forecast" = some "/v3//forecast" ∧
      extendedPath "http://[::1]/v3\\" "forecast" = some "/v3/forecast" := by
  decide +kernel

end BaseUrl

end CarbonIntensity
