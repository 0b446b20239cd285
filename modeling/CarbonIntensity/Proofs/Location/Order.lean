import CarbonIntensity.Proofs.Location.Loading
import Mathlib.Data.List.Nodup

/-!
# The order of a load

The entries of a file of locations come in no order: one load may go through them in one way and the next
in another. A load is settled if its text leaves no choice: it cannot be read, all refused entries have one
key, or nothing is refused and entries that come to the same name have the same position. Exactly these
loads end in one way, whatever the order:

    (∀ y, y.SameText x → Agree (x.outcome r) (y.outcome r)) ↔ x.Settled      (forall_agree_iff)

Names are told apart without regard to case and keys are not, so that a text can define a name twice; what
it then stands for is decided by the order alone (twoSpellings).
-/

namespace CarbonIntensity

/-! ## Registries -/

namespace Registry

/-- No name is registered twice. -/
def Distinct (r : Registry) : Prop := (r.entries.map Prod.fst).Nodup

/-- The same entries, and so the same answers. -/
structure Same (r s : Registry) : Prop where
  entries : r.entries.Perm s.entries
  resolve : ∀ name, r.resolve name = s.resolve name

theorem Same.refl (r : Registry) : r.Same r := ⟨.refl _, fun _ => rfl⟩

theorem distinct_empty : empty.Distinct := List.nodup_nil

theorem Distinct.insert {r : Registry} (h : r.Distinct) (name : String) (p : Position) :
    (r.insert name p).Distinct := Assoc.nodup_keys_put _ _ h

theorem Distinct.foldl_insert {r : Registry} (h : r.Distinct) (fullName : String → String)
    (entries : List (String × Position)) :
    (entries.foldl (fun r e => r.insert (fullName e.1) e.2) r).Distinct := by
  induction entries generalizing r with
  | nil => exact h
  | cons entry entries ih => exact ih (h.insert _ _)

theorem Same.lookup {r s : Registry} (h : r.Same s) (hr : r.Distinct) (hs : s.Distinct) (key : String) :
    r.entries.lookup key = s.entries.lookup key := by
  ext p
  rw [Assoc.lookup_eq_some_iff_mem hr, Assoc.lookup_eq_some_iff_mem hs, h.entries.mem_iff]

/-- Registries with the same positions under all keys have the same entries. -/
theorem same_of_lookup {r s : Registry} (hr : r.Distinct) (hs : s.Distinct)
    (h : ∀ key, r.entries.lookup key = s.entries.lookup key) : r.Same s where
  entries := by
    refine (List.perm_ext_iff_of_nodup (List.Nodup.of_map _ hr) (List.Nodup.of_map _ hs)).mpr ?_
    rintro ⟨key, p⟩
    rw [← Assoc.lookup_eq_some_iff_mem hr, ← Assoc.lookup_eq_some_iff_mem hs, h]
  resolve name := by
    unfold resolve
    rw [h]

/-- Entries that have one position wherever they come to one name can be registered in any order. -/
theorem same_foldl_insert {fullName : String → String} {entries entries' : List (String × Position)}
    (hperm : entries.Perm entries')
    (hagree : ∀ e ∈ entries, ∀ f ∈ entries,
      Text.lowerCase (fullName e.1) = Text.lowerCase (fullName f.1) → e.2 = f.2)
    {r s : Registry} (hr : r.Distinct) (hs : s.Distinct) (h : r.Same s) :
    (entries.foldl (fun r e => r.insert (fullName e.1) e.2) r).Same
      (entries'.foldl (fun r e => r.insert (fullName e.1) e.2) s) := by
  refine same_of_lookup (hr.foldl_insert ..) (hs.foldl_insert ..) fun key => ?_
  -- Both have an entry that decides on the key, or neither has.
  rcases lookup_foldl_insert fullName entries r key with ⟨e, he, hkey, hlookup⟩ | ⟨hnone, hlookup⟩
  · rcases lookup_foldl_insert fullName entries' s key with ⟨f, hf, hkey', hlookup'⟩ | ⟨hnone', -⟩
    · rw [hlookup, hlookup', hagree e he f (hperm.mem_iff.mpr hf) (hkey.trans hkey'.symm)]
    · exact absurd hkey (hnone' e (hperm.mem_iff.mp he))
  · rcases lookup_foldl_insert fullName entries' s key with ⟨f, hf, hkey', -⟩ | ⟨-, hlookup'⟩
    · exact absurd hkey' (hnone f (hperm.mem_iff.mpr hf))
    · rw [hlookup, hlookup', h.lookup hr hs]

end Registry

/-! ## Loads of one text -/

/-- The same failure, or the same registry. -/
inductive Agree : Except Failure Registry → Except Failure Registry → Prop
  | refused (e : Failure) : Agree (.error e) (.error e)
  | loaded {r s : Registry} (h : r.Same s) : Agree (.ok r) (.ok s)

theorem Agree.resolve {left right : Except Failure Registry} (h : Agree left right) (name : String) :
    (left >>= (·.resolve name)) = (right >>= (·.resolve name)) := by
  cases h with
  | refused => rfl
  | loaded hsame => exact hsame.resolve name

namespace Load

/-- The same text, registered under the same names. -/
structure SameText (x y : Load) : Prop where
  label : x.label = y.label
  delimiter : x.delimiter = y.delimiter
  text : x.text = y.text

/-- The text leaves no choice to the order: all refused entries have one key, or none is refused and those
that come to one name have one position. -/
def Settled (x : Load) : Prop :=
  ∀ entries, x.decoded = .ok entries →
    (∃ refused ∈ entries, ¬refused.2.Placed ∧ ∀ e ∈ entries, ¬e.2.Placed → e.1 = refused.1) ∨
      (∀ e ∈ entries, e.2.Placed) ∧ ∀ e ∈ entries, ∀ f ∈ entries,
        Text.lowerCase (x.fullName e.1) = Text.lowerCase (x.fullName f.1) → e.2 = f.2

section

variable {x y : Load}

theorem SameText.symm (h : y.SameText x) : x.SameText y := ⟨h.label.symm, h.delimiter.symm, h.text.symm⟩

theorem SameText.decoded (h : y.SameText x) : y.decoded = x.decoded := by
  unfold Load.decoded
  rw [h.text]

theorem SameText.fullName (h : y.SameText x) : y.fullName = x.fullName := by
  funext key
  unfold Load.fullName
  rw [h.label, h.delimiter]

theorem SameText.settled (h : y.SameText x) (hx : x.Settled) : y.Settled := by
  unfold Settled
  rw [h.decoded, h.fullName]
  exact hx

/-- Every order of the entries is that of a load. -/
theorem exists_order (x : Load) {entries arranged : List (String × Position)}
    (h : arranged.Perm entries) : ∃ y : Load, y.SameText x ∧ y.order entries = arranged := by
  classical
  refine ⟨{ x with
    order := fun l => if l = entries then arranged else l
    perm := fun l => ?_ }, ⟨rfl, rfl, rfl⟩, if_pos rfl⟩
  by_cases hl : l = entries
  · rw [if_pos hl, hl]
    exact h
  · rw [if_neg hl]

theorem unplaced_injective {key key' : String} (h : unplaced key = unplaced key') : key = key' := by
  simpa [unplaced, Registry.configurationFault] using h

/-! ### What an order comes to -/

variable {r : Registry} {entries : List (String × Position)}

/-- A refused entry is reported. -/
theorem outcome_of_refused (hdecoded : x.decoded = .ok entries) (h : ¬∀ e ∈ entries, e.2.Placed) :
    ∃ e ∈ entries, ¬e.2.Placed ∧ x.outcome r = .error (unplaced e.1) := by
  cases hfind : (x.order entries).find? fun entry => !entry.2.isValid with
  | none => exact absurd (find?_eq_none_iff.mp hfind) h
  | some e =>
    have hinvalid : ¬e.2.Placed := by
      rw [← Position.isValid_iff]
      simpa using List.find?_some hfind
    refine ⟨e, (x.perm entries).mem_iff.mp (List.mem_of_find?_eq_some hfind), hinvalid, ?_⟩
    unfold outcome Registry.load
    rw [hdecoded]
    simp only [hfind]
    rfl

/-- The entry that comes first is reported if it is refused. -/
theorem outcome_of_first {e : String × Position} {rest : List (String × Position)}
    (hdecoded : x.decoded = .ok entries) (horder : x.order entries = e :: rest) (h : ¬e.2.Placed) :
    x.outcome r = .error (unplaced e.1) := by
  have hinvalid : (!e.2.isValid) = true := by
    rw [← Position.isValid_iff] at h
    simpa using h
  unfold outcome Registry.load
  rw [hdecoded]
  simp only [horder, List.find?_cons, hinvalid]
  rfl

/-- The entry that comes last has its name. -/
theorem outcome_of_last {e : String × Position} {front : List (String × Position)}
    (hdecoded : x.decoded = .ok entries) (hplaced : ∀ e ∈ entries, e.2.Placed)
    (horder : x.order entries = front ++ [e]) :
    ∃ s, x.outcome r = .ok s ∧
      ∀ name, Text.lowerCase name = Text.lowerCase (x.fullName e.1) → s.resolve name = .ok e.2 := by
  refine ⟨_, outcome_of_accepted hdecoded hplaced r, fun name hname => ?_⟩
  rw [horder, List.foldl_concat, Registry.resolve_insert, if_pos hname]

/-- Loads of a settled text end in one way. -/
theorem agree_of_settled (hsettled : x.Settled) (htext : y.SameText x) {s : Registry} (hr : r.Distinct)
    (hs : s.Distinct) (hsame : s.Same r) : Agree (y.outcome s) (x.outcome r) := by
  cases hdecoded : x.decoded with
  | error trouble =>
    unfold outcome
    rw [htext.decoded, hdecoded]
    exact .refused _
  | ok entries =>
    have hdecoded' : y.decoded = .ok entries := htext.decoded.trans hdecoded
    rcases hsettled entries hdecoded with ⟨refused, hmem, hrefused, hall⟩ | ⟨hplaced, hagree⟩
    · have hnot : ¬∀ e ∈ entries, e.2.Placed := fun h => hrefused (h refused hmem)
      obtain ⟨e, he, hunplaced, hx⟩ := outcome_of_refused (r := r) hdecoded hnot
      obtain ⟨f, hf, hunplaced', hy⟩ := outcome_of_refused (r := s) hdecoded' hnot
      rw [hx, hy, hall e he hunplaced, hall f hf hunplaced']
      exact .refused _
    · rw [outcome_of_accepted hdecoded hplaced, outcome_of_accepted hdecoded' hplaced, htext.fullName]
      have hperm : (y.order entries).Perm (x.order entries) :=
        (y.perm entries).trans (x.perm entries).symm
      refine .loaded (Registry.same_foldl_insert hperm (fun e he f hf => ?_) hs hr hsame)
      exact hagree e ((y.perm entries).mem_iff.mp he) f ((y.perm entries).mem_iff.mp hf)

/-- A text that is not settled is loaded in two ways. -/
theorem settled_of_forall_agree
    (h : ∀ y : Load, y.SameText x → Agree (y.outcome r) (x.outcome r)) : x.Settled := by
  intro entries hdecoded
  by_cases hplaced : ∀ e ∈ entries, e.2.Placed
  · refine .inr ⟨hplaced, fun e he f hf hname => ?_⟩
    -- Each of the two entries comes last in one order.
    have hlast : ∀ g ∈ entries, ∃ t : Registry, x.outcome r = .ok t ∧
        ∀ name, Text.lowerCase name = Text.lowerCase (x.fullName g.1) → t.resolve name = .ok g.2 := by
      intro g hg
      obtain ⟨before, after, rfl⟩ := List.append_of_mem hg
      have hperm : (before ++ after ++ [g]).Perm (before ++ g :: after) := by
        rw [List.append_assoc]
        exact (List.perm_append_singleton g after).append_left before
      obtain ⟨y, htext, horder⟩ := x.exists_order hperm
      obtain ⟨s, hs, hresolve⟩ :=
        outcome_of_last (r := r) (htext.decoded.trans hdecoded) hplaced horder
      have hagree := h y htext
      rw [hs] at hagree
      rw [htext.fullName] at hresolve
      generalize x.outcome r = result at hagree ⊢
      cases hagree with
      | loaded hsame => exact ⟨_, rfl, fun name hname => hsame.resolve name ▸ hresolve name hname⟩
    obtain ⟨t, ht, hresolve⟩ := hlast e he
    obtain ⟨t', ht', hresolve'⟩ := hlast f hf
    obtain rfl := Except.ok.inj (ht.symm.trans ht')
    exact Except.ok.inj ((hresolve _ rfl).symm.trans (hresolve' _ hname))
  · obtain ⟨refused, hmem, hrefused, houtcome⟩ := outcome_of_refused (r := r) hdecoded hplaced
    refine .inl ⟨refused, hmem, hrefused, fun e he hunplaced => ?_⟩
    obtain ⟨before, after, rfl⟩ := List.append_of_mem he
    have hfront : (e :: (before ++ after)).Perm (before ++ e :: after) := List.perm_middle.symm
    obtain ⟨y, htext, horder⟩ := x.exists_order hfront
    have hagree := h y htext
    rw [houtcome, outcome_of_first (htext.decoded.trans hdecoded) horder hunplaced] at hagree
    generalize hleft : unplaced e.1 = left at hagree
    cases hagree with
    | refused => exact unplaced_injective hleft

theorem forall_agree_iff (hr : r.Distinct) :
    (∀ y : Load, y.SameText x → Agree (y.outcome r) (x.outcome r)) ↔ x.Settled :=
  ⟨settled_of_forall_agree, fun h _ htext => agree_of_settled h htext hr hr (.refl r)⟩

end

end Load

/-! ## Files -/

/-- A way to go through the entries of a file. -/
structure Way where
  go : List (String × Position) → List (String × Position)
  perm : ∀ entries, (go entries).Perm entries

theorem perm_asRead (entries : List (String × Position)) : (id entries).Perm entries := .refl entries

def Way.asRead : Way := ⟨id, perm_asRead⟩

def Load.inWay (label : Option String) (delimiter text : String) (way : Way) : Load :=
  ⟨label, delimiter, text, way.go, way.perm⟩

namespace Registry

/-- Loads a file whose entries are gone through in some way. -/
def loadFileIn (way : Way) (r : Registry) (files : Files) (file : LocationFile) (delimiter : String) :
    Except Failure Registry :=
  match files file.path with
  | .error trouble =>
    .error (configurationFault ("cannot read " ++ file.path ++ ": " ++ trouble.message))
  | .ok text =>
    match (Load.inWay file.label delimiter text way).outcome r with
    | .error (.configuration _ reason) => .error (configurationFault (file.path ++ ": " ++ reason))
    | result => result

/-- The registry of several files, each gone through in a way of its own. -/
def ofFilesIn (files : Files) (list : List (LocationFile × Way)) (delimiter : String) :
    Except Failure Registry :=
  list.foldlM (fun r entry => r.loadFileIn entry.2 files entry.1 delimiter) empty

variable {files : Files} {delimiter : String}

theorem ofFilesIn_asRead (list : List LocationFile) :
    ofFilesIn files (list.map fun file => (file, Way.asRead)) delimiter =
      ofFiles files list delimiter := by
  unfold ofFilesIn ofFiles
  rw [List.foldlM_map]
  rfl

/-- The file cannot be read, or its text is settled. -/
def SettledFile (files : Files) (delimiter : String) (file : LocationFile) : Prop :=
  ∀ text, files file.path = .ok text → (Load.inOrder file.label delimiter text).Settled

theorem distinct_of_outcome {x : Load} {r s : Registry} (hr : r.Distinct) (h : x.outcome r = .ok s) :
    s.Distinct := by
  unfold Load.outcome at h
  split at h
  · cases h
  · unfold load at h
    split at h
    · cases h
    · obtain rfl := Except.ok.inj h
      exact hr.foldl_insert ..

theorem distinct_of_loadFileIn {way : Way} {file : LocationFile} {r s : Registry} (hr : r.Distinct)
    (h : r.loadFileIn way files file delimiter = .ok s) : s.Distinct := by
  unfold loadFileIn at h
  split at h
  · cases h
  · split at h
    · cases h
    · exact distinct_of_outcome hr h

theorem agree_loadFileIn (way way' : Way) {file : LocationFile} (h : SettledFile files delimiter file)
    {r s : Registry} (hr : r.Distinct) (hs : s.Distinct) (hsame : s.Same r) :
    Agree (s.loadFileIn way' files file delimiter) (r.loadFileIn way files file delimiter) := by
  unfold loadFileIn
  cases htext : files file.path with
  | error trouble => exact .refused _
  | ok text =>
    have hsettled : (Load.inWay file.label delimiter text way).Settled :=
      Load.SameText.settled (x := Load.inOrder file.label delimiter text) ⟨rfl, rfl, rfl⟩ (h text htext)
    have hsame' : (Load.inWay file.label delimiter text way').SameText
        (Load.inWay file.label delimiter text way) := ⟨rfl, rfl, rfl⟩
    have hagree := Load.agree_of_settled hsettled hsame' hr hs hsame
    simp only
    generalize (Load.inWay file.label delimiter text way').outcome s = left at hagree ⊢
    generalize (Load.inWay file.label delimiter text way).outcome r = right at hagree ⊢
    cases hagree with
    | refused e => cases e <;> exact .refused _
    | loaded hsame => exact .loaded hsame

/-- Two runs over the same files, none of which leaves a choice. -/
theorem agree_ofFilesIn {list list' : List (LocationFile × Way)}
    (hfiles : list.map Prod.fst = list'.map Prod.fst)
    (hsettled : ∀ entry ∈ list, SettledFile files delimiter entry.1) :
    Agree (ofFilesIn files list' delimiter) (ofFilesIn files list delimiter) := by
  have key : ∀ {r s : Registry}, r.Distinct → s.Distinct → s.Same r →
      Agree (list'.foldlM (fun r entry => r.loadFileIn entry.2 files entry.1 delimiter) s)
        (list.foldlM (fun r entry => r.loadFileIn entry.2 files entry.1 delimiter) r) := by
    induction list generalizing list' with
    | nil =>
      intro r s _ _ hsame
      obtain rfl := List.map_eq_nil_iff.mp hfiles.symm
      exact .loaded hsame
    | cons first rest ih =>
      intro r s hr hs hsame
      obtain ⟨first', rest', rfl, hfirst, hrest⟩ := List.map_eq_cons_iff.mp hfiles.symm
      rw [List.foldlM_cons, List.foldlM_cons, hfirst]
      have hagree := agree_loadFileIn first.2 first'.2 (hsettled first List.mem_cons_self) hr hs hsame
      cases hright : r.loadFileIn first.2 files first.1 delimiter with
      | error e =>
        rw [hright] at hagree
        generalize s.loadFileIn first'.2 files first.1 delimiter = left at hagree ⊢
        cases hagree with
        | refused => exact .refused e
      | ok t =>
        rw [hright] at hagree
        cases hleft : s.loadFileIn first'.2 files first.1 delimiter with
        | error e =>
          rw [hleft] at hagree
          cases hagree
        | ok u =>
          rw [hleft] at hagree
          cases hagree with
          | loaded hsame =>
            exact ih hrest.symm (fun entry hmem => hsettled entry (List.mem_cons_of_mem first hmem))
              (distinct_of_loadFileIn hr hright) (distinct_of_loadFileIn hs hleft) hsame
  exact key distinct_empty distinct_empty (.refl empty)

end Registry

/-! ## Orders -/

namespace Load

/-- **Orders.** A load ends in one way whatever the order of its entries, in the same failure or in a
registry with the same answers, exactly if its text is settled; and two runs over the same files, each in
orders of its own, end in one way if the texts of all files are settled. -/
theorem agree_iff_settled {r : Registry} (hr : r.Distinct) :
    (∀ label delimiter text,
      (inOrder label delimiter text).outcome r = r.loadText label delimiter text) ∧
    (∀ x : Load, (∀ y : Load, y.SameText x → Agree (y.outcome r) (x.outcome r)) ↔ x.Settled) ∧
    (∀ files delimiter list, Registry.ofFilesIn files (list.map fun file => (file, Way.asRead)) delimiter =
      Registry.ofFiles files list delimiter) ∧
    ∀ files delimiter list list', list.map Prod.fst = list'.map Prod.fst →
      (∀ entry ∈ list, Registry.SettledFile files delimiter entry.1) →
        Agree (Registry.ofFilesIn files list' delimiter) (Registry.ofFilesIn files list delimiter) := by
  refine ⟨fun label delimiter text => outcome_inOrder label delimiter text r, fun x => forall_agree_iff hr,
    fun files delimiter list => Registry.ofFilesIn_asRead list, ?_⟩
  intro files delimiter list list' hfiles hsettled
  exact Registry.agree_ofFilesIn hfiles hsettled

/-- A name in two spellings, each with a zone of its own. -/
def twoSpellings : Load :=
  inOrder none "-" (Document.object
    [("A", .object [("name", .string "FR")]), ("a", .object [("name", .string "DE")])]).compact

/-- The same text from its last entry to its first. -/
def twoSpellingsBackwards : Load :=
  ⟨none, "-", twoSpellings.text, List.reverse, List.reverse_perm⟩

/-- The zone that the name of two spellings stands for after a load. -/
def zoneOfTwo (result : Except Failure Registry) : Option String :=
  (result >>= (·.resolve "a")).toOption.bind (·.name)

theorem zoneOfTwo_of_agree {left right : Except Failure Registry} (h : Agree left right) :
    zoneOfTwo left = zoneOfTwo right := by
  unfold zoneOfTwo
  rw [h.resolve]

theorem agree_iff_settled_two_spellings :
    (Registry.empty.insert "A" ⟨some "US", none, none⟩).Distinct ∧ ¬twoSpellings.Settled := by
  have hdistinct := Registry.distinct_empty.insert "A" ⟨some "US", none, none⟩
  refine ⟨hdistinct, fun hsettled => ?_⟩
  have hagree := ((agree_iff_settled hdistinct).2.1 twoSpellings).mpr hsettled twoSpellingsBackwards
    ⟨rfl, rfl, rfl⟩
  have hzone := zoneOfTwo_of_agree hagree
  revert hzone
  decide +kernel

/-- What stands for the name is the entry that comes last. -/
theorem outcome_of_two_spellings :
    twoSpellingsBackwards.SameText twoSpellings ∧
      zoneOfTwo (twoSpellings.outcome .empty) = some "DE" ∧
      zoneOfTwo (twoSpellingsBackwards.outcome .empty) = some "FR" ∧
      ¬Agree (twoSpellingsBackwards.outcome .empty) (twoSpellings.outcome .empty) := by
  have hlast : zoneOfTwo (twoSpellings.outcome .empty) = some "DE" := by decide +kernel
  have hfirst : zoneOfTwo (twoSpellingsBackwards.outcome .empty) = some "FR" := by decide +kernel
  refine ⟨⟨rfl, rfl, rfl⟩, hlast, hfirst, fun hagree => ?_⟩
  have hzone := zoneOfTwo_of_agree hagree
  rw [hlast, hfirst] at hzone
  exact absurd hzone (by decide)

end Load

end CarbonIntensity
