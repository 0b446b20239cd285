import CarbonIntensity.Proofs.Outcome
import CarbonIntensity.Proofs.Url.Path

/-!
# A slash at the end of a URL

A slash at the end of the text of a URL belongs to its path, or to the query or fragment that follows that.
What stands before the path is read as without the slash (authority_slash). A text that is one of a URL with
a slash put at its end is therefore one without it, if it does not end in a slash itself, and the first URL
stands in for the second one where paths are joined to it:

    Slashed scheme cs w → IsOpen (isSpecial scheme) cs →
      ∃ u, afterScheme scheme cs = .ok u ∧ w.IsBase u ∧ …                           (Slashed.exists_url)

The relation `Slashed` has one case for each way in which such a text is read: that of a URL with a host or
a slash in front, that of a file, and two in which all that follows the scheme is a slash or two.
-/

namespace CarbonIntensity.Url

theorem ok_bind {α β : Type} (a : α) (f : α → Except UrlFault β) : (Except.ok a >>= f) = f a := rfl

/-! ## Up to the path -/

section

variable {scheme : String} {special inside : Bool} {cs : List Char}

theorem takeWhile_slash {p : Char → Bool} (hp : p '/' = false) (cs : List Char) :
    (cs ++ ['/']).takeWhile p = cs.takeWhile p := by
  have hslash : ['/'].takeWhile p = [] := by simp [hp]
  rw [List.takeWhile_append, hslash, List.append_nil]
  split
  · next hall => exact (List.IsPrefix.eq_of_length (List.takeWhile_prefix p) hall).symm
  · rfl

theorem dropWhile_concat {p : Char → Bool} {c : Char} (h : p c = false ∨ cs.dropWhile p ≠ []) :
    (cs ++ [c]).dropWhile p = cs.dropWhile p ++ [c] := by
  rw [List.dropWhile_append]
  split
  · next hempty =>
    have hnil := List.isEmpty_iff.mp hempty
    have hc : p c = false := h.resolve_right fun hne => hne hnil
    rw [hnil, List.dropWhile_cons_of_neg (Bool.eq_false_iff.mp hc)]
    rfl
  · rfl

theorem endsAuthority_slash : endsAuthority special '/' = true := rfl

theorem suffix_of_splitLastAt {before after : List Char} (h : splitLastAt cs = some (before, after)) :
    after <:+ cs := by
  unfold splitLastAt at h
  simp only at h
  split at h
  · cases h
  · simp only [Option.some.injEq, Prod.mk.injEq] at h
    obtain ⟨-, rfl⟩ := h
    have hprefix : (cs.reverse.takeWhile (· ≠ '@')) <+: cs.reverse := List.takeWhile_prefix _
    have hsuffix := List.reverse_suffix.mpr hprefix
    rwa [List.reverse_reverse] at hsuffix

/-- Credentials are read in the same way, and what follows them stays a part of the text. -/
theorem takeUser_slash {user rest' : List Char} (h : takeUser special (cs ++ ['/']) = .ok (user, rest')) :
    ∃ rest, rest' = rest ++ ['/'] ∧ rest <:+ cs ∧ takeUser special cs = .ok (user, rest) := by
  have hauthority : (cs ++ ['/']).takeWhile (fun c => !endsAuthority special c) =
      cs.takeWhile fun c => !endsAuthority special c := takeWhile_slash rfl cs
  unfold takeUser at h ⊢
  simp only [hauthority] at h ⊢
  generalize hbefore : cs.takeWhile (fun c => !endsAuthority special c) = before at h ⊢
  have hprefix : before <+: cs := hbefore ▸ List.takeWhile_prefix _
  have hcs : before ++ cs.drop before.length = cs := List.prefix_iff_eq_append.mp hprefix
  rw [List.drop_append_of_le_length hprefix.length_le] at h
  cases hsplit : splitLastAt before with
  | none =>
    rw [hsplit] at h
    simp only [Except.ok.injEq, Prod.mk.injEq] at h
    obtain ⟨rfl, rfl⟩ := h
    exact ⟨cs, rfl, List.suffix_rfl, rfl⟩
  | some parts =>
    obtain ⟨name, host⟩ := parts
    rw [hsplit] at h
    simp only at h ⊢
    split at h
    · cases h
    · next hempty =>
      simp only [Except.ok.injEq, Prod.mk.injEq] at h
      obtain ⟨rfl, rfl⟩ := h
      have hempty' : ¬(name.isEmpty && host.isEmpty && !(cs.drop before.length).isEmpty) = true := by
        intro hall
        simp_all
      rw [if_neg hempty']
      refine ⟨host ++ cs.drop before.length, (List.append_assoc ..).symm, ?_, rfl⟩
      obtain ⟨front, hfront⟩ := suffix_of_splitLastAt hsplit
      exact ⟨front, by rw [← List.append_assoc, hfront, hcs]⟩

theorem takeHost_slash (special inside : Bool) (cs : List Char) :
    takeHost special inside (cs ++ ['/']) =
      ((takeHost special inside cs).1, (takeHost special inside cs).2 ++ ['/']) := by
  induction cs generalizing inside with
  | nil =>
    rw [List.nil_append, takeHost, takeHost, endsAuthority_slash]
    rfl
  | cons c cs ih =>
    rw [List.cons_append, takeHost, takeHost]
    split
    · rfl
    · simp only [ih]

theorem takeHost_suffix (special inside : Bool) (cs : List Char) : (takeHost special inside cs).2 <:+ cs := by
  induction cs generalizing inside with
  | nil => exact List.suffix_rfl
  | cons c cs ih =>
    rw [takeHost]
    split
    · exact List.suffix_rfl
    · exact (ih _).trans (List.suffix_cons c cs)

theorem takePort_slash {port : Option Nat} {rest' : List Char}
    (h : takePort scheme (cs ++ ['/']) = .ok (port, rest')) :
    ∃ rest, rest' = rest ++ ['/'] ∧ rest <:+ cs ∧ takePort scheme cs = .ok (port, rest) := by
  by_cases hcolon : ∃ ds, cs = ':' :: ds
  · obtain ⟨ds, rfl⟩ := hcolon
    have hdigits : (ds ++ ['/']).takeWhile Char.isDigit = ds.takeWhile Char.isDigit := takeWhile_slash rfl ds
    have hrest : (ds ++ ['/']).dropWhile Char.isDigit = ds.dropWhile Char.isDigit ++ ['/'] :=
      dropWhile_concat (.inl rfl)
    unfold takePort Text.spanDigits at h ⊢
    rw [List.cons_append] at h
    simp only [hdigits, hrest] at h ⊢
    have hhead : ((ds.dropWhile Char.isDigit ++ ['/']).head?.any fun c => !endsAuthority true c) =
        (ds.dropWhile Char.isDigit).head?.any fun c => !endsAuthority true c := by
      cases ds.dropWhile Char.isDigit <;> rfl
    rw [hhead] at h
    split at h
    · cases h
    · next hvalid =>
      simp only [Except.ok.injEq, Prod.mk.injEq] at h
      obtain ⟨rfl, rfl⟩ := h
      rw [if_neg hvalid]
      exact ⟨_, rfl, (List.dropWhile_suffix _).trans (List.suffix_cons ':' ds), rfl⟩
  · have hnone : ∀ text : List Char, (∀ ds, text ≠ ':' :: ds) → takePort scheme text = .ok (none, text) := by
      intro text htext
      unfold takePort
      split
      · next ds => exact absurd rfl (htext ds)
      · rfl
    have hcs : ∀ ds, cs ≠ ':' :: ds := fun ds heq => hcolon ⟨ds, heq⟩
    have hcs' : ∀ ds, cs ++ ['/'] ≠ ':' :: ds := by
      intro ds heq
      cases cs with
      | nil => cases heq
      | cons c rest => exact hcs rest (congrArg (· :: rest) (List.cons.inj heq).1)
    rw [hnone _ hcs'] at h
    simp only [Except.ok.injEq, Prod.mk.injEq] at h
    obtain ⟨rfl, rfl⟩ := h
    exact ⟨cs, rfl, List.suffix_rfl, hnone cs hcs⟩

/-- The host of a scheme. -/
def hostOf (special : Bool) (text : List Char) : Except UrlFault Host :=
  if special then (if text.isEmpty then .error .emptyHost else Host.parse text) else Host.parseVerbatim text

/-- What is read up to the path, and what follows it. -/
def authority (scheme : String) (cs : List Char) : Except UrlFault (Url × List Char) :=
  takeUser (isSpecial scheme) cs >>= fun (user, cs) =>
  let hostText := (takeHost (isSpecial scheme) false cs).1
  let cs := (takeHost (isSpecial scheme) false cs).2
  hostOf (isSpecial scheme) hostText >>= fun host =>
  if hostText.isEmpty && cs.head? == some ':' then .error .emptyHost
  else takePort scheme cs >>= fun (port, cs) =>
  if hostText.isEmpty && user ≠ [] && user ≠ [':'] then .error .emptyHost
  else
    let username := user.takeWhile (· ≠ ':')
    .ok ({
      scheme := scheme
      username := encoded keepsUser username
      password := encoded keepsUser ((user.drop username.length).drop 1)
      host := some host
      port := port
      path := .segments []
      query := none
      fragment := none }, cs)

/-- Reads the path after a host, and what follows it. -/
def withPath (u : Url) (cs : List Char) : Url :=
  withTail { u with path := .segments (pathAfterHost (isSpecial u.scheme) false cs).1 }
    (pathAfterHost (isSpecial u.scheme) false cs).2

/-- Reads the path of a file, and what follows it. -/
def fileWithPath (host : Host) (cs : List Char) : Url :=
  ofFile host (pathAfterHost true true cs).1 (pathAfterHost true true cs).2

theorem afterSlashes_eq (scheme : String) (cs : List Char) :
    afterSlashes scheme cs = (authority scheme cs).map fun r => withPath r.1 r.2 := by
  have hthrow : ∀ {α : Type} (e : UrlFault), (throw e : Except UrlFault α) = .error e := fun _ => rfl
  unfold afterSlashes authority
  simp only [hthrow]
  generalize hspecial : isSpecial scheme = special
  rcases takeUser special cs with e | ⟨user, rest⟩
  · rfl
  simp only [ok_bind]
  obtain ⟨hostText, rest⟩ := takeHost special false rest
  have hhost : ∀ f : Host → Except UrlFault Url,
      (if special = true then
        (if hostText.isEmpty = true then .error .emptyHost else Host.parse hostText) >>= f
      else Host.parseVerbatim hostText >>= f) = hostOf special hostText >>= f := by
    intro f
    unfold hostOf
    cases special <;> rfl
  rw [hhost]
  rcases hostOf special hostText with e | host
  · rfl
  simp only [ok_bind]
  split
  · rfl
  rcases takePort scheme rest with e | ⟨port, rest⟩
  · rfl
  simp only [ok_bind]
  split
  · rfl
  · subst hspecial
    rfl

/-- What is read up to the path is read in the same way, and what follows it stays a part of the text. -/
theorem authority_slash {u : Url} {rest' : List Char} (h : authority scheme (cs ++ ['/']) = .ok (u, rest')) :
    ∃ rest, rest' = rest ++ ['/'] ∧ rest <:+ cs ∧ authority scheme cs = .ok (u, rest) := by
  unfold authority at h
  obtain ⟨⟨user, afterUser'⟩, huser', h⟩ := bind_ok h
  obtain ⟨afterUser, rfl, hafterUser, huser⟩ := takeUser_slash huser'
  simp only [takeHost_slash] at h
  obtain ⟨host, hhost, h⟩ := bind_ok h
  split at h
  · cases h
  next hcolon =>
  obtain ⟨⟨port, afterPort'⟩, hport', h⟩ := bind_ok h
  obtain ⟨afterPort, rfl, hafterPort, hport⟩ := takePort_slash hport'
  simp only at h
  split at h
  · cases h
  next hempty =>
  simp only [Except.ok.injEq, Prod.mk.injEq] at h
  obtain ⟨rfl, rfl⟩ := h
  refine ⟨afterPort, rfl, (hafterPort.trans (takeHost_suffix _ _ _)).trans hafterUser, ?_⟩
  have hcolon' : ¬((takeHost (isSpecial scheme) false afterUser).1.isEmpty &&
      (takeHost (isSpecial scheme) false afterUser).2.head? == some ':') = true := by
    cases hafter : (takeHost (isSpecial scheme) false afterUser).2 with
    | nil => simp
    | cons c rest =>
      rw [hafter] at hcolon
      exact hcolon
  unfold authority
  rw [huser]
  show (hostOf _ _ >>= _) = _
  rw [hhost]
  show (if _ then _ else _) = _
  rw [if_neg hcolon', hport]
  show (if _ then _ else _) = _
  rw [if_neg hempty]

theorem authority_fields {u : Url} {rest : List Char} (h : authority scheme cs = .ok (u, rest)) :
    u.scheme = scheme ∧ u.query = none := by
  unfold authority at h
  obtain ⟨_, -, h⟩ := bind_ok h
  obtain ⟨host, -, h⟩ := bind_ok h
  split at h
  · cases h
  · obtain ⟨_, -, h⟩ := bind_ok h
    simp only at h
    split at h
    · cases h
    · simp only [Except.ok.injEq, Prod.mk.injEq] at h
      obtain ⟨rfl, -⟩ := h
      exact ⟨rfl, rfl⟩

end

/-! ## The path and what follows it -/

section

variable (u : Url) (cs : List Char)

@[simp] theorem username_withTail : (withTail u cs).username = u.username := by
  unfold withTail
  split <;> rfl

@[simp] theorem password_withTail : (withTail u cs).password = u.password := by
  unfold withTail
  split <;> rfl

@[simp] theorem host_withTail : (withTail u cs).host = u.host := by
  unfold withTail
  split <;> rfl

@[simp] theorem port_withTail : (withTail u cs).port = u.port := by
  unfold withTail
  split <;> rfl

@[simp] theorem path_withTail : (withTail u cs).path = u.path := by
  unfold withTail
  split <;> rfl

variable {u cs}

/-- Nothing follows the path exactly if there is neither query nor fragment. -/
theorem withTail_eq_none_iff (hquery : u.query = none) (htail : isTail cs = true) :
    ((withTail u cs).query = none ∧ (withTail u cs).fragment = none) ↔ cs = [] := by
  cases cs with
  | nil => exact iff_of_true ⟨hquery, rfl⟩ rfl
  | cons c rest =>
    have hmark : c = '?' ∨ c = '#' := by simpa [isTail] using htail
    refine iff_of_false ?_ (List.cons_ne_nil c rest)
    rintro ⟨hq, hf⟩
    rcases hmark with rfl | rfl
    · cases hq
    · cases hf

end

/-- What a relative path is put after. -/
def stem (u : Url) : List String :=
  if u.scheme = "file" then fileParent u.path.segmentList else u.path.segmentList.dropLast

/-- Segments have no slash in them, and the path of a file has no empty ones at its start. -/
structure Tidy (u : Url) : Prop where
  slashless : Slashless u.path.segmentList
  start : u.scheme = "file" → withoutEmptyStart u.path.segmentList = u.path.segmentList

/-- The same but for path, query and fragment. -/
structure SameSite (v u : Url) : Prop where
  scheme : v.scheme = u.scheme
  username : v.username = u.username
  password : v.password = u.password
  host : v.host = u.host
  port : v.port = u.port

/-- A URL stands in for another one where paths are joined to it: a path is put after the whole path of the
other, or where a query or a fragment follows that, after what the other would put it after. -/
structure IsBase (w u : Url) : Prop where
  site : w.SameSite u
  stem : w.stem = if u.query = none ∧ u.fragment = none then front u.path.segmentList else u.stem

theorem stem_eq {u : Url} (h : ∀ segment, u.path.segmentList.getLast? = some segment → segment = "") :
    u.stem = u.path.segmentList.dropLast := by
  have hempty : isPlainDrive "" = false := by decide
  unfold stem fileParent
  split
  · split
    · next segment hlast =>
      rw [h segment hlast, hempty]
      rfl
    · next hlast =>
      rw [List.getLast?_eq_none_iff.mp hlast]
      rfl
  · rfl

theorem front_eq {path : List String} (h : ∀ segment, path.getLast? = some segment → segment = "") :
    front path = path.dropLast := by
  unfold front
  split
  · rfl
  · next hlast =>
    cases hsegment : path.getLast? with
    | none =>
      rw [List.getLast?_eq_none_iff.mp hsegment]
      rfl
    | some segment => exact absurd (h segment hsegment ▸ hsegment) hlast

/-- A URL stands in for itself if its path is closed or something follows it. -/
theorem isBase_self {u : Url} (h : u.query = none → u.fragment = none →
    ∀ segment, u.path.segmentList.getLast? = some segment → segment = "") : u.IsBase u where
  site := ⟨rfl, rfl, rfl, rfl, rfl⟩
  stem := by
    split
    · next hnone =>
      have hlast := h hnone.1 hnone.2
      rw [stem_eq hlast, front_eq hlast]
    · rfl

section

variable {u : Url} {text : List Char}

theorem tidy_withPath (hfile : u.scheme ≠ "file") : (withPath u text).Tidy where
  slashless := by
    unfold withPath
    rw [path_withTail]
    exact slashless_pathAfterHost _ _ _
  start hscheme := by
    unfold withPath at hscheme
    rw [scheme_withTail] at hscheme
    exact absurd hscheme hfile

theorem isBase_withPath (hfile : u.scheme ≠ "file") (hquery : u.query = none)
    (hopen : IsOpen (isSpecial u.scheme) text) :
    (withPath u (text ++ ['/'])).IsBase (withPath u text) := by
  have htail := isTail_pathAfterHost (isSpecial u.scheme) false text
  unfold withPath
  rw [pathAfterHost_slash hopen]
  generalize pathAfterHost (isSpecial u.scheme) false text = r at htail ⊢
  obtain ⟨path, tail⟩ := r
  have hnone := withTail_eq_none_iff (u := { u with path := .segments path }) hquery htail
  refine ⟨⟨by simp, by simp, by simp, by simp, by simp⟩, ?_⟩
  simp only [hnone]
  unfold stem slashed
  by_cases hnil : tail = []
  · subst hnil
    simp [hfile, UrlPath.segmentList, dropLast_closed]
  · simp [hfile, hnil, UrlPath.segmentList]

theorem closed_withPath (hnone : u.query = none) (hquery : (withPath u (text ++ ['/'])).query = none)
    (hfragment : (withPath u (text ++ ['/'])).fragment = none) :
    (withPath u (text ++ ['/'])).path.segmentList.getLast? = some "" := by
  have htail := isTail_pathAfterHost (isSpecial u.scheme) false (text ++ ['/'])
  unfold withPath at hquery hfragment ⊢
  rw [path_withTail]
  refine pathAfterHost_closes ((withTail_eq_none_iff ?_ htail).mp ⟨hquery, hfragment⟩)
  exact hnone

end

/-! ## Files -/

section

variable {host : Host} {text : List Char}

theorem path_ofFile (host : Host) (path : List String) (tail : List Char) :
    (ofFile host path tail).path.segmentList = withoutEmptyStart path := by
  unfold ofFile
  rw [path_withTail]
  rfl

theorem scheme_ofFile (host : Host) (path : List String) (tail : List Char) :
    (ofFile host path tail).scheme = "file" := scheme_withTail _ _

theorem ofFile_eq_none_iff {path : List String} {tail : List Char} (htail : isTail tail = true) :
    ((ofFile host path tail).query = none ∧ (ofFile host path tail).fragment = none) ↔ tail = [] :=
  withTail_eq_none_iff rfl htail

theorem tidy_fileWithPath : (fileWithPath host text).Tidy where
  slashless := by
    unfold fileWithPath
    rw [path_ofFile]
    exact (slashless_pathAfterHost true true text).withoutEmptyStart
  start _ := by
    unfold fileWithPath
    rw [path_ofFile]
    exact withoutEmptyStart_idem _

theorem isBase_ofFile (host : Host) (path : List String) {tail : List Char} (htail : isTail tail = true) :
    (ofFile host (slashed (path, tail)).1 (slashed (path, tail)).2).IsBase (ofFile host path tail) := by
  have hnone : ((ofFile host path tail).query = none ∧ (ofFile host path tail).fragment = none) ↔ tail = [] :=
    ofFile_eq_none_iff htail
  have hstem : (ofFile host (slashed (path, tail)).1 (slashed (path, tail)).2).stem =
      if tail = [] then front (withoutEmptyStart path) else (ofFile host path tail).stem := by
    by_cases hnil : tail = []
    · have hsegments : (ofFile host (closed path) []).path.segmentList = closed (withoutEmptyStart path) := by
        rw [path_ofFile, withoutEmptyStart_closed]
      subst hnil
      show (ofFile host (closed path) []).stem = _
      rw [if_pos rfl, stem_eq, hsegments, dropLast_closed]
      rw [hsegments, getLast?_closed]
      exact fun segment h => (Option.some.inj h).symm
    · rw [slashed_of_ne_nil path hnil, if_neg hnil]
      unfold stem
      rw [path_ofFile, path_ofFile, scheme_ofFile, scheme_ofFile]
  have hdrive : (slashed (path, tail)).1.head?.any isPlainDrive = path.head?.any isPlainDrive := by
    unfold slashed
    split
    · exact isPlainDrive_head?_closed path
    · rfl
  refine ⟨⟨?_, ?_, ?_, ?_, ?_⟩, ?_⟩
  · rw [scheme_ofFile, scheme_ofFile]
  · simp [ofFile, plain]
  · simp [ofFile, plain]
  · simp [ofFile, plain, hdrive]
  · simp [ofFile, plain]
  · rw [hstem, path_ofFile]
    simp only [hnone]

theorem closed_fileWithPath (host : Host) (text : List Char)
    (hquery : (fileWithPath host (text ++ ['/'])).query = none)
    (hfragment : (fileWithPath host (text ++ ['/'])).fragment = none) :
    (fileWithPath host (text ++ ['/'])).path.segmentList.getLast? = some "" := by
  have htail := isTail_pathAfterHost true true (text ++ ['/'])
  unfold fileWithPath at hquery hfragment ⊢
  have hlast := pathAfterHost_closes ((ofFile_eq_none_iff htail).mp ⟨hquery, hfragment⟩)
  rw [path_ofFile, ← closed_of_getLast? hlast, withoutEmptyStart_closed]
  exact getLast?_closed _

theorem isBase_fileWithPath (hopen : IsOpen true text ∨ text = ['/']) :
    (fileWithPath host (text ++ ['/'])).IsBase (fileWithPath host text) := by
  rcases hopen with hopen | rfl
  · unfold fileWithPath
    rw [pathAfterHost_slash hopen]
    exact isBase_ofFile host _ (isTail_pathAfterHost true true text)
  · -- Both slashes are read as empty segments, which a file has not at its start.
    have hself : fileWithPath host ['/', '/'] = fileWithPath host ['/'] := rfl
    show (fileWithPath host ['/', '/']).IsBase _
    rw [hself]
    refine isBase_self fun hquery hfragment segment hsegment => ?_
    have hlast := closed_fileWithPath host [] hquery hfragment
    exact Option.some.inj (hsegment.symm.trans hlast)

end

/-! ## Whole URLs -/

/-- The ways in which the text of a URL after its scheme is read where a slash stands at its end. -/
inductive Slashed (scheme : String) (cs : List Char) : Url → Prop
  /-- The slash belongs to the path or to what follows it. -/
  | web {u : Url} {text : List Char} (hscheme : u.scheme = scheme) (hfile : scheme ≠ "file")
      (hquery : u.query = none) (hsuffix : text <:+ cs)
      (hread : afterScheme scheme cs = .ok (withPath u text)) :
      Slashed scheme cs (withPath u (text ++ ['/']))
  /-- The path of a file may begin before the first slash after its host. -/
  | file {host : Host} {text : List Char} (hscheme : scheme = "file")
      (htext : text <:+ cs ∨ ∃ rest, rest <:+ cs ∧ text = '/' :: rest)
      (hread : afterScheme scheme cs = .ok (fileWithPath host text)) :
      Slashed scheme cs (fileWithPath host (text ++ ['/']))
  /-- The slash comes right after the colon, where the path is rootless without it. -/
  | root (hspecial : isSpecial scheme = false) (hcs : cs = []) :
      Slashed scheme cs (plain scheme none (.segments [""]))
  /-- The slash is the second one before an empty host. -/
  | host {w : Url} (hspecial : isSpecial scheme = false) (hcs : cs = ['/']) (hscheme : w.scheme = scheme)
      (hpath : w.path = .segments []) :
      Slashed scheme cs w

section

variable {scheme : String} {cs : List Char} {w : Url}

theorem afterSlashes_slash (hfile : scheme ≠ "file") {text : List Char} (hsuffix : text <:+ cs)
    (hread : afterScheme scheme cs = afterSlashes scheme text)
    (h : afterSlashes scheme (text ++ ['/']) = .ok w) : Slashed scheme cs w := by
  rw [afterSlashes_eq] at h
  cases hauthority : authority scheme (text ++ ['/']) with
  | error e =>
    rw [hauthority] at h
    cases h
  | ok r =>
    obtain ⟨u, rest'⟩ := r
    obtain ⟨rest, rfl, hrest, hauthority'⟩ := authority_slash hauthority
    obtain ⟨hscheme, hquery⟩ := authority_fields hauthority
    rw [hauthority] at h
    obtain rfl := Except.ok.inj h
    refine .web hscheme hfile hquery (hrest.trans hsuffix) ?_
    rw [hread, afterSlashes_eq, hauthority']
    rfl

theorem afterSlashes_nil_of_special (hspecial : isSpecial scheme = true) :
    afterSlashes scheme [] = .error .emptyHost := by
  rw [afterSlashes_eq]
  unfold authority
  rw [hspecial]
  rfl

/-- Another scheme may have an empty host. -/
theorem afterSlashes_nil_of_not_special (hspecial : isSpecial scheme = false) :
    afterSlashes scheme [] = .ok (plain scheme (some (.domain "")) (.segments [])) := by
  rw [afterSlashes_eq]
  unfold authority
  rw [hspecial]
  show Except.ok (withPath _ []) = _
  unfold withPath
  simp only
  rw [hspecial]
  rfl

theorem slashed_of_special (hfile : scheme ≠ "file") (hspecial : isSpecial scheme = true)
    (h : afterScheme scheme (cs ++ ['/']) = .ok w) : Slashed scheme cs w := by
  have hread : ∀ cs, afterScheme scheme cs = afterSlashes scheme (cs.dropWhile (isSlash true)) := by
    intro cs
    unfold afterScheme
    rw [if_neg hfile, if_pos hspecial]
  rw [hread] at h
  by_cases hslashes : cs.dropWhile (isSlash true) = []
  · have hall : (cs ++ ['/']).dropWhile (isSlash true) = [] := by
      rw [List.dropWhile_append, hslashes]
      rfl
    rw [hall, afterSlashes_nil_of_special hspecial] at h
    cases h
  · rw [dropWhile_concat (.inr hslashes)] at h
    exact afterSlashes_slash hfile (List.dropWhile_suffix _) (hread cs) h

section

variable (hspecial : isSpecial scheme = false) {rest : List Char}

include hspecial

theorem ne_file_of_not_special : scheme ≠ "file" := by
  rintro rfl
  cases hspecial

theorem afterScheme_slashes : afterScheme scheme ('/' :: '/' :: rest) = afterSlashes scheme rest := by
  unfold afterScheme
  rw [if_neg (ne_file_of_not_special hspecial), if_neg (Bool.eq_false_iff.mp hspecial)]
  rfl

theorem afterScheme_slash (hrest : ∀ more, rest ≠ '/' :: more) :
    afterScheme scheme ('/' :: rest) = .ok (withPath (plain scheme none (.segments [])) ('/' :: rest)) := by
  have hscheme : (plain scheme none (.segments [])).scheme = scheme := rfl
  unfold afterScheme withPath
  rw [if_neg (ne_file_of_not_special hspecial), if_neg (Bool.eq_false_iff.mp hspecial), hscheme, hspecial,
    pathAfterHost_of_slash rfl]
  split
  · next more heq => exact absurd (List.cons.inj heq).2 (hrest more)
  · next more _ heq =>
    obtain rfl := (List.cons.inj heq).2
    rfl
  · next hslash => exact absurd rfl (hslash rest)

theorem afterScheme_rootless (hcs : ∀ more, cs ≠ '/' :: more) :
    ∃ text tail, afterScheme scheme cs = .ok (withTail (plain scheme none (.rootless text)) tail) := by
  unfold afterScheme
  rw [if_neg (ne_file_of_not_special hspecial), if_neg (Bool.eq_false_iff.mp hspecial)]
  split
  · exact absurd rfl (hcs _)
  · exact absurd rfl (hcs _)
  · exact ⟨_, _, rfl⟩

theorem slashed_of_not_special (h : afterScheme scheme (cs ++ ['/']) = .ok w)
    (hpath : w.hasRootlessPath = false) : Slashed scheme cs w := by
  have hfile := ne_file_of_not_special hspecial
  cases cs with
  | nil =>
    have hroot : withPath (plain scheme none (.segments [])) ['/'] = plain scheme none (.segments [""]) := by
      have hscheme : (plain scheme none (.segments [])).scheme = scheme := rfl
      unfold withPath
      rw [hscheme, hspecial]
      rfl
    rw [List.nil_append, afterScheme_slash hspecial fun more => (List.cons_ne_nil _ more).symm, hroot] at h
    obtain rfl := Except.ok.inj h
    exact .root hspecial rfl
  | cons a rest =>
    rw [List.cons_append] at h
    by_cases ha : a = '/'
    · subst ha
      cases rest with
      | nil =>
        rw [List.nil_append, afterScheme_slashes hspecial, afterSlashes_nil_of_not_special hspecial] at h
        obtain rfl := Except.ok.inj h
        exact .host hspecial rfl rfl rfl
      | cons b rest =>
        rw [List.cons_append] at h
        by_cases hb : b = '/'
        · subst hb
          rw [afterScheme_slashes hspecial] at h
          refine afterSlashes_slash hfile ?_ (afterScheme_slashes hspecial) h
          exact (List.suffix_cons '/' rest).trans (List.suffix_cons '/' _)
        · have hslash : ∀ rest more, b :: rest ≠ '/' :: more := fun _ _ heq => hb (List.cons.inj heq).1
          rw [afterScheme_slash hspecial (hslash _)] at h
          obtain rfl := Except.ok.inj h
          exact .web (u := plain scheme none (.segments [])) rfl hfile rfl List.suffix_rfl
            (afterScheme_slash hspecial (hslash rest))
    · have hslash : ∀ more, a :: (rest ++ ['/']) ≠ '/' :: more := fun more heq => ha (List.cons.inj heq).1
      obtain ⟨text, tail, hread⟩ := afterScheme_rootless hspecial hslash
      rw [hread] at h
      obtain rfl := Except.ok.inj h
      unfold hasRootlessPath at hpath
      rw [path_withTail] at hpath
      cases hpath

end

/-! ### Files -/

theorem fileAfterSlash_eq {c : Char} (hslash : isSlash true c = true) (text : List Char) :
    fileAfterSlash none text = fileWithPath (.domain "") (c :: text) := by
  unfold fileWithPath
  rw [pathAfterHost_of_slash hslash]
  rfl

theorem fileFromText_eq {text : List Char} (hslash : text.head?.any (isSlash true) = false) :
    fileFromText none text = fileWithPath (.domain "") text := by
  unfold fileWithPath
  cases text with
  | nil => rfl
  | cons c text =>
    rw [pathAfterHost_of_other hslash]
    rfl

/-- After a drive, or where there is no host, all slashes are read as part of the path. -/
theorem fileAfterSlashes_slash {text : List Char} (h : fileAfterSlashes (text ++ ['/']) = .ok w) :
    ∃ host rest, (rest <:+ text ∨ ∃ more, more <:+ text ∧ rest = '/' :: more) ∧
      w = fileWithPath host (rest ++ ['/']) ∧ fileAfterSlashes text = .ok (fileWithPath host rest) := by
  have hhost : (text ++ ['/']).takeWhile (fun c => !endsAuthority true c) =
      text.takeWhile fun c => !endsAuthority true c := takeWhile_slash rfl text
  have hrooted : ∀ text, ofFile (.domain "") (takeSegments true true [] [] text).1
      (takeSegments true true [] [] text).2 = fileWithPath (.domain "") ('/' :: text) := fun _ => rfl
  unfold fileAfterSlashes at h ⊢
  simp only [hhost] at h ⊢
  generalize hbefore : text.takeWhile (fun c => !endsAuthority true c) = before at h ⊢
  have hprefix : before <+: text := hbefore ▸ List.takeWhile_prefix _
  rw [List.drop_append_of_le_length hprefix.length_le] at h
  split at h
  · next hdrive =>
    rw [if_pos hdrive]
    obtain rfl := Except.ok.inj h
    exact ⟨_, '/' :: text, .inr ⟨text, List.suffix_rfl, rfl⟩, rfl, rfl⟩
  · next hdrive =>
    rw [if_neg hdrive]
    have hrest := List.drop_suffix before.length text
    by_cases hempty : before.isEmpty = true
    · rw [if_pos hempty] at h ⊢
      simp only [pure_bind, true_or, if_true] at h ⊢
      obtain rfl := Except.ok.inj h
      exact ⟨_, '/' :: text.drop before.length, .inr ⟨_, hrest, rfl⟩, rfl, rfl⟩
    · rw [if_neg hempty] at h ⊢
      obtain ⟨host, hread, h⟩ := bind_ok h
      rw [hread]
      simp only [ok_bind]
      by_cases hlocal : host = .domain "" ∨ host = .domain "localhost"
      · rw [if_pos hlocal] at h
        simp only [if_pos hlocal]
        obtain rfl := Except.ok.inj h
        exact ⟨_, '/' :: text.drop before.length, .inr ⟨_, hrest, rfl⟩, rfl, rfl⟩
      · rw [if_neg hlocal] at h
        simp only [if_neg hlocal]
        obtain rfl := Except.ok.inj h
        exact ⟨host, text.drop before.length, .inl hrest, rfl, rfl⟩

/-- Unless there are two slashes in front, all of the text is the path. -/
theorem fileUrl_eq {c : Char} {rest : List Char}
    (h : isSlash true c = false ∨ rest.head?.any (isSlash true) = false) :
    fileUrl none (c :: rest) = .ok (fileWithPath (.domain "") (c :: rest)) := by
  have hhead : (c :: rest).head?.any (isSlash true) = isSlash true c := rfl
  have hrest : (c :: rest).drop 1 = rest := rfl
  unfold fileUrl
  simp only [hhead, hrest]
  cases hslash : isSlash true c with
  | true =>
    have hnone : rest.head?.any (isSlash true) = false := h.resolve_left (by simp [hslash])
    rw [if_pos rfl, hnone, if_neg Bool.false_ne_true, fileAfterSlash_eq hslash]
  | false => rw [if_neg Bool.false_ne_true, fileFromText_eq (hhead.trans hslash)]

theorem fileUrl_slashes {a b : Char} (ha : isSlash true a = true) (hb : isSlash true b = true)
    (rest : List Char) : fileUrl none (a :: b :: rest) = fileAfterSlashes rest := by
  have hfirst : (a :: b :: rest).head?.any (isSlash true) = isSlash true a := rfl
  have hsecond : ((a :: b :: rest).drop 1).head?.any (isSlash true) = isSlash true b := rfl
  unfold fileUrl
  simp only [hfirst, hsecond, ha, hb, if_true]
  rfl

theorem slashed_of_file (h : afterScheme "file" (cs ++ ['/']) = .ok w) : Slashed "file" cs w := by
  have hscheme : ∀ text, afterScheme "file" text = fileUrl none text := fun _ => rfl
  rw [hscheme] at h
  cases cs with
  | nil =>
    obtain rfl := Except.ok.inj h
    show Slashed "file" [] (fileWithPath (.domain "") ([] ++ ['/']))
    exact .file rfl (.inl List.suffix_rfl) rfl
  | cons a rest =>
    rw [List.cons_append] at h
    cases ha : isSlash true a with
    | false =>
      rw [fileUrl_eq (.inl ha)] at h
      obtain rfl := Except.ok.inj h
      exact .file rfl (.inl List.suffix_rfl) (fileUrl_eq (.inl ha))
    | true =>
      cases rest with
      | nil =>
        rw [List.nil_append, fileUrl_slashes ha rfl] at h
        obtain rfl := Except.ok.inj h
        show Slashed "file" [a] (fileWithPath (.domain "") ([] ++ ['/']))
        refine .file rfl (.inl List.nil_suffix) ?_
        rw [hscheme, fileUrl_eq (.inr rfl)]
        unfold fileWithPath
        rw [pathAfterHost_of_slash ha]
        rfl
      | cons b rest =>
        rw [List.cons_append] at h
        cases hb : isSlash true b with
        | false =>
          have hnone : ∀ more : List Char, (b :: more).head?.any (isSlash true) = false := fun _ => hb
          rw [fileUrl_eq (.inr (hnone _))] at h
          obtain rfl := Except.ok.inj h
          exact .file rfl (.inl List.suffix_rfl) (fileUrl_eq (.inr (hnone rest)))
        | true =>
          rw [fileUrl_slashes ha hb] at h
          obtain ⟨host, text, htext, rfl, hread⟩ := fileAfterSlashes_slash h
          have hsuffix : rest <:+ a :: b :: rest := (List.suffix_cons b rest).trans (List.suffix_cons a _)
          refine .file rfl (htext.imp (·.trans hsuffix) ?_) ?_
          · rintro ⟨more, hmore, rfl⟩
            exact ⟨more, hmore.trans hsuffix, rfl⟩
          · rw [hscheme, fileUrl_slashes ha hb, hread]

/-- **A slash at the end.** -/
theorem slashed_of_afterScheme (h : afterScheme scheme (cs ++ ['/']) = .ok w)
    (hpath : w.hasRootlessPath = false) : Slashed scheme cs w := by
  by_cases hfile : scheme = "file"
  · subst hfile
    exact slashed_of_file h
  · cases hspecial : isSpecial scheme with
    | true => exact slashed_of_special hfile hspecial h
    | false => exact slashed_of_not_special hspecial h hpath

theorem Slashed.scheme_eq (h : Slashed scheme cs w) : w.scheme = scheme := by
  cases h with
  | web hscheme =>
    unfold withPath
    rw [scheme_withTail]
    exact hscheme
  | file hscheme =>
    unfold fileWithPath
    rw [scheme_ofFile, hscheme]
  | root => rfl
  | host _ _ hscheme => exact hscheme

theorem Slashed.tidy (h : Slashed scheme cs w) : w.Tidy := by
  cases h with
  | web hscheme hfile => exact tidy_withPath (hscheme ▸ hfile)
  | file => exact tidy_fileWithPath
  | root hspecial =>
    exact ⟨slashless_empty, fun hfile => absurd hfile (ne_file_of_not_special hspecial)⟩
  | host hspecial _ hscheme hpath =>
    refine ⟨?_, fun hfile => absurd (hscheme.symm.trans hfile) (ne_file_of_not_special hspecial)⟩
    rw [hpath]
    exact nofun

/-- The path of a text with a slash at its end is closed, or something follows it. -/
theorem Slashed.isBase_self (h : Slashed scheme cs w) : w.IsBase w := by
  refine Url.isBase_self fun hquery hfragment segment hsegment => ?_
  have hlast : w.path.segmentList.getLast? = some "" ∨ w.path.segmentList = [] := by
    cases h with
    | web _ _ hnone => exact .inl (closed_withPath hnone hquery hfragment)
    | file => exact .inl (closed_fileWithPath _ _ hquery hfragment)
    | root => exact .inl rfl
    | host _ _ _ hpath => exact .inr (by rw [hpath]; rfl)
  rcases hlast with hlast | hnil
  · exact Option.some.inj (hsegment.symm.trans hlast)
  · rw [hnil] at hsegment
    cases hsegment

/-- A text that does not end in a slash is one of a URL where it is with a slash at its end. -/
theorem Slashed.exists_url (h : Slashed scheme cs w) (hopen : IsOpen (isSpecial scheme) cs) :
    ∃ u, afterScheme scheme cs = .ok u ∧ w.IsBase u ∧ Slashless u.path.segmentList ∧
      ∀ text, u.path = .rootless text → text = "" := by
  cases h with
  | web hscheme hfile hquery hsuffix hread =>
    subst hscheme
    refine ⟨_, hread, isBase_withPath hfile hquery (hopen.of_suffix hsuffix), (tidy_withPath hfile).slashless, ?_⟩
    unfold withPath
    rw [path_withTail]
    exact nofun
  | file hscheme htext hread =>
    subst hscheme
    have htext' : ∀ {text}, (text <:+ cs ∨ ∃ rest, rest <:+ cs ∧ text = '/' :: rest) →
        IsOpen true text ∨ text = ['/'] := by
      rintro text (hsuffix | ⟨rest, hsuffix, rfl⟩)
      · exact .inl (hopen.of_suffix hsuffix)
      · cases rest with
        | nil => exact .inr rfl
        | cons c rest => exact .inl fun d hd => hopen.of_suffix hsuffix d hd
    refine ⟨_, hread, isBase_fileWithPath (htext' htext), tidy_fileWithPath.slashless, ?_⟩
    unfold fileWithPath ofFile
    rw [path_withTail]
    exact nofun
  | root hspecial hcs =>
    subst hcs
    have hfile := ne_file_of_not_special hspecial
    have hread : afterScheme scheme [] = .ok (plain scheme none (.rootless "")) := by
      unfold afterScheme
      rw [if_neg hfile, if_neg (Bool.eq_false_iff.mp hspecial)]
      rfl
    have hstem : (plain scheme none (.segments [""])).stem = [] :=
      stem_eq fun segment hsegment => (Option.some.inj hsegment).symm
    refine ⟨_, hread, ⟨⟨rfl, rfl, rfl, rfl, rfl⟩, hstem⟩, nofun, fun text htext => ?_⟩
    exact (UrlPath.rootless.inj htext).symm
  | host _ hcs =>
    subst hcs
    cases hopen '/' rfl

end

end CarbonIntensity.Url
