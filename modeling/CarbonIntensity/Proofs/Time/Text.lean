import CarbonIntensity.Proofs.Time.Civil
import CarbonIntensity.Proofs.Time.Instant
import CarbonIntensity.Time.Parser
import CarbonIntensity.Time.Text

/-!
# Instants written and read back

The parts of an instant are written with leading zeros, so that each number is read off in one piece and
the mark after it is left. An instant written without its fraction is read as what is left of it, also in
a leap second; outside leap seconds that is the start of its second:

    Instant.parse? t.wholeSecondText = some t.withoutFraction      (parse?_wholeSecondText_eq)
    Instant.parse? t.wholeSecondText = some t.wholeSecond          (parse?_wholeSecondText)
-/

namespace CarbonIntensity

/-! ## Digits -/

namespace Text

theorem isDigit_of_mem_padded {width n : Nat} {c : Char} (h : c ∈ padded width n) : c.isDigit = true := by
  unfold padded digits at h
  rcases List.mem_append.mp h with h | h
  · rw [List.eq_of_mem_replicate h]
    decide
  · exact Nat.isDigit_of_mem_toDigits (by decide) (by decide) h

theorem padded_ne_nil (width n : Nat) : padded width n ≠ [] := by
  have hpos : 0 < (Nat.toDigits 10 n).length := Nat.length_toDigits_pos
  unfold padded digits
  intro h
  have hnil := (List.append_eq_nil_iff.mp h).2
  rw [hnil] at hpos
  cases hpos

theorem length_padded {width n : Nat} (h : (digits n).length ≤ width) : (padded width n).length = width := by
  unfold padded
  rw [List.length_append, List.length_replicate]
  omega

theorem natOfDigits_eq (cs : List Char) : natOfDigits cs = Nat.ofDigitChars 10 cs 0 := rfl

theorem natOfDigits_padded (width n : Nat) : natOfDigits (padded width n) = n := by
  have hzeros : ∀ k, Nat.ofDigitChars 10 (List.replicate k '0') 0 = 0 := by
    intro k
    induction k with
    | zero => rfl
    | succ k ih =>
      rw [List.replicate_succ, Nat.ofDigitChars_cons]
      exact ih
  rw [natOfDigits_eq]
  unfold padded digits
  rw [Nat.ofDigitChars_append, hzeros]
  exact Nat.ofDigitChars_toDigits (by decide) (by decide)

theorem isBlank_of_isDigit {c : Char} (h : c.isDigit = true) : isBlank c = false := by
  have hrange : 48 ≤ c.toNat ∧ c.toNat ≤ 57 := by
    unfold Char.isDigit at h
    rw [Bool.and_eq_true, decide_eq_true_iff, decide_eq_true_iff] at h
    exact h
  unfold isBlank
  simp
  omega

theorem dropBlanks_cons {c : Char} (hc : isBlank c = false) (cs : List Char) :
    dropBlanks (c :: cs) = c :: cs := by
  unfold dropBlanks
  rw [List.dropWhile_cons, hc]
  rfl

/-- Digits do not start with a blank. -/
theorem dropBlanks_padded (width n : Nat) (cs : List Char) :
    dropBlanks (padded width n ++ cs) = padded width n ++ cs := by
  cases hdigits : padded width n with
  | nil => exact absurd hdigits (padded_ne_nil width n)
  | cons d ds =>
    have hd : d.isDigit = true := isDigit_of_mem_padded (by rw [hdigits]; exact List.mem_cons_self ..)
    exact dropBlanks_cons (isBlank_of_isDigit hd) _

end Text

/-! ## Parts of an instant -/

namespace Time

theorem digitsUpTo_padded {width n : Nat} (h : (Text.digits n).length ≤ width) (cs : List Char) :
    digitsUpTo width (Text.padded width n ++ cs) = some (n, cs) := by
  have hlen := Text.length_padded h
  have htake : (Text.padded width n ++ cs).take width = Text.padded width n := List.take_left' hlen
  have hdigits : (Text.padded width n).takeWhile Char.isDigit = Text.padded width n := by
    have happend : (Text.padded width n ++ []).takeWhile Char.isDigit =
        Text.padded width n ++ [].takeWhile Char.isDigit :=
      List.takeWhile_append_of_pos fun c hc => Text.isDigit_of_mem_padded hc
    rw [List.append_nil, List.takeWhile_nil, List.append_nil] at happend
    exact happend
  unfold digitsUpTo
  rw [htake, hdigits]
  split
  · next hnil => exact absurd hnil (Text.padded_ne_nil width n)
  · rw [Text.natOfDigits_padded, hlen, List.drop_left' hlen]

theorem twoDigits_padded {n : Nat} (h : n < 100) (cs : List Char) :
    twoDigits (Text.padded 2 n ++ cs) = some (n, cs) := by
  unfold twoDigits
  rw [Text.dropBlanks_padded]
  exact digitsUpTo_padded ((Nat.length_toDigits_le_iff (by decide) (by decide)).mpr h) cs

theorem mark_cons {c : Char} (hc : Text.isBlank c = false) (cs : List Char) : mark c (c :: cs) = some cs := by
  unfold mark
  rw [Text.dropBlanks_cons hc]
  exact if_pos rfl

theorem anyDigits_padded (width n : Nat) {c : Char} (hc : c.isDigit = false) (cs : List Char) :
    anyDigits (Text.padded width n ++ c :: cs) = some (n, c :: cs) := by
  have htake : (Text.padded width n ++ c :: cs).takeWhile Char.isDigit = Text.padded width n := by
    rw [List.takeWhile_append_of_pos fun c hc => Text.isDigit_of_mem_padded hc, List.takeWhile_cons, hc]
    exact List.append_nil _
  have hdrop : (Text.padded width n ++ c :: cs).dropWhile Char.isDigit = c :: cs := by
    rw [List.dropWhile_append_of_pos fun c hc => Text.isDigit_of_mem_padded hc, List.dropWhile_cons, hc]
    rfl
  unfold anyDigits Text.spanDigits
  rw [htake, hdrop]
  split
  · next hnil =>
    exact absurd (Prod.mk.inj hnil).1 (Text.padded_ne_nil width n)
  · next hsome =>
    obtain ⟨rfl, rfl⟩ := Prod.mk.inj hsome
    rw [Text.natOfDigits_padded]

/-- A year is read as it is written, before the mark that follows it. -/
theorem year_yearText (y : Int) (cs : List Char) :
    year (CivilTime.yearText y ++ '-' :: cs) = some (y, '-' :: cs) := by
  unfold CivilTime.yearText
  split
  · next h =>
    unfold year
    rw [Text.dropBlanks_padded]
    have hlen : (Text.digits y.natAbs).length ≤ 4 :=
      (Nat.length_toDigits_le_iff (by decide) (by decide)).mpr (show y.natAbs < 10000 by omega)
    have hdigits := digitsUpTo_padded hlen ('-' :: cs)
    cases hpadded : Text.padded 4 y.natAbs with
    | nil => exact absurd hpadded (Text.padded_ne_nil 4 y.natAbs)
    | cons d ds =>
      have hd : d.isDigit = true := Text.isDigit_of_mem_padded (by rw [hpadded]; exact List.mem_cons_self ..)
      rw [hpadded] at hdigits
      rw [List.cons_append] at *
      split
      · next heq =>
        cases heq
        cases hd
      · next heq =>
        cases heq
        cases hd
      · rw [hdigits]
        show some ((y.natAbs : Int), '-' :: cs) = _
        rw [Int.natAbs_of_nonneg h.1]
  · split
    · next hneg =>
      unfold year
      rw [List.cons_append, Text.dropBlanks_cons (by decide)]
      simp only [anyDigits_padded 4 y.natAbs (show Char.isDigit '-' = false by decide), Option.map_some]
      rw [show -(y.natAbs : Int) = y by omega]
    · next hpos =>
      unfold year
      rw [List.cons_append, Text.dropBlanks_cons (by decide)]
      simp only [anyDigits_padded 4 y.natAbs (show Char.isDigit '-' = false by decide), Option.map_some]
      rw [show (y.natAbs : Int) = y by omega]

end Time

/-! ## Instants -/

theorem CivilDate.lt_of_isValid {d : CivilDate} (h : d.isValid = true) : d.month < 100 ∧ d.day < 100 := by
  unfold isValid at h
  simp only [Bool.and_eq_true, decide_eq_true_iff] at h
  have hlen : daysInMonth d.year d.month ≤ 31 := by
    unfold daysInMonth
    split
    · split <;> decide
    · split <;> decide
  omega

namespace Instant

/-- The start of the second. -/
def wholeSecond (t : Instant) : Instant := ⟨t.second, 0, t.inRange, Nat.succ_pos _, fun h => absurd h (Nat.not_le.mpr (Nat.succ_pos _))⟩

/-- The instant without the fraction of its second; a leap second stays one. -/
def withoutFraction (t : Instant) : Instant :=
  ⟨t.second, t.nano / giga * giga, t.inRange, by
    have hnano := t.nano_lt
    unfold giga at *
    omega, fun h => t.leap (Nat.le_trans h (Nat.div_mul_le_self t.nano giga))⟩

theorem withoutFraction_eq {t : Instant} (ht : t.isLeap = false) : t.withoutFraction = t.wholeSecond := by
  have hnano := isLeap_eq_false_iff.mp ht
  apply rank_injective
  show t.second * (2 * giga : Nat) + (t.nano / giga * giga : Nat) = t.second * (2 * giga : Nat) + (0 : Nat)
  rw [Nat.div_eq_of_lt hnano, Nat.zero_mul]

theorem withoutFraction_le (t : Instant) : t.withoutFraction ≤ t := by
  have hcut := Nat.div_mul_le_self t.nano giga
  show t.second * (2 * giga : Nat) + (t.nano / giga * giga : Nat) ≤ t.second * (2 * giga : Nat) + t.nano
  omega

/-- The parts of an instant stand in their ranges and make up its second; the number 60 stands for a leap
second. -/
theorem civil_parts (t : Instant) :
    t.civil.hour < 24 ∧ t.civil.minute < 60 ∧ t.civil.second ≤ 60 ∧
      (t.civil.second = 60 ↔ t.isLeap = true) ∧
      t.civil.date.dayNumber * 86400 + t.civil.hour * 3600 + t.civil.minute * 60 +
        ((if t.civil.second = 60 then 59 else t.civil.second : Nat) : Int) = t.second := by
  have hnano := t.nano_lt
  have hleap := t.leap
  unfold giga at hnano hleap
  have hday : t.civil.date.dayNumber = t.second / 86400 := CivilDate.dayNumber_ofDayNumber _
  have hhour : t.civil.hour = (t.second % 86400).toNat / 3600 := rfl
  have hminute : t.civil.minute = (t.second % 86400).toNat / 60 % 60 := rfl
  have hsecond : t.civil.second = (t.second % 86400).toNat % 60 + t.nano / 1000000000 := rfl
  have hsixty : t.civil.second = 60 ↔ t.isLeap = true := by
    rw [isLeap_eq_true_iff]
    unfold giga
    omega
  refine ⟨by omega, by omega, by omega, hsixty, ?_⟩
  rw [hday]
  split <;> omega

theorem assemble_civil (t : Instant) :
    Time.assemble t.civil.date t.civil.hour t.civil.minute t.civil.second 0 0 = some t.withoutFraction := by
  have hrange := t.inRange
  have hnano := t.nano_lt
  have hvalid : t.civil.date.isValid = true := CivilDate.isValid_ofDayNumber _
  obtain ⟨hhour, hminute, hsecond, hsixty, hsum⟩ := civil_parts t
  have hcut : (if t.civil.second = 60 then 0 + giga else 0) = t.nano / giga * giga := by
    by_cases hleap : t.isLeap = true
    · have hgiga := isLeap_eq_true_iff.mp hleap
      rw [if_pos (hsixty.mpr hleap)]
      unfold giga at *
      omega
    · have hgiga := isLeap_eq_false_iff.mp (Bool.eq_false_iff.mpr hleap)
      rw [if_neg fun h => hleap (hsixty.mp h), Nat.div_eq_of_lt hgiga, Nat.zero_mul]
  have hdays : firstSecond / 86400 ≤ t.civil.date.dayNumber ∧
      t.civil.date.dayNumber ≤ lastSecond / 86400 := by
    rw [show t.civil.date.dayNumber = t.second / 86400 from CivilDate.dayNumber_ofDayNumber _]
    unfold firstSecond lastSecond at *
    omega
  unfold Time.assemble
  simp only [hsum, hcut, Int.sub_zero]
  rw [if_pos ⟨hvalid, hdays.1, hdays.2, hhour, hminute, hsecond⟩]
  exact dif_pos ⟨hrange, t.withoutFraction.nano_lt, t.withoutFraction.leap⟩

/-- The text of an instant without its fraction denotes the instant without its fraction. -/
theorem parse?_wholeSecondText_eq (t : Instant) : parse? t.wholeSecondText = some t.withoutFraction := by
  obtain ⟨hhour, hminute, hsecond, -, -⟩ := civil_parts t
  obtain ⟨hmonth, hday⟩ := CivilDate.lt_of_isValid (CivilDate.isValid_ofDayNumber (t.second / 86400))
  have hdash : Text.isBlank '-' = false := by decide
  have hcolon : Text.isBlank ':' = false := by decide
  unfold parse? wholeSecondText CivilTime.dateText CivilTime.clockText
  rw [String.toList_ofList]
  simp only [List.append_assoc, List.cons_append]
  -- The parts are read in the order in which they are written.
  refine Option.bind_eq_some_iff.mpr ⟨_, Time.year_yearText _ _, ?_⟩
  refine Option.bind_eq_some_iff.mpr ⟨_, Time.mark_cons hdash _, ?_⟩
  refine Option.bind_eq_some_iff.mpr ⟨_, Time.twoDigits_padded hmonth _, ?_⟩
  refine Option.bind_eq_some_iff.mpr ⟨_, Time.mark_cons hdash _, ?_⟩
  refine Option.bind_eq_some_iff.mpr ⟨_, Time.twoDigits_padded hday _, ?_⟩
  refine Option.bind_eq_some_iff.mpr ⟨_, Time.twoDigits_padded (by omega) _, ?_⟩
  refine Option.bind_eq_some_iff.mpr ⟨_, Time.mark_cons hcolon _, ?_⟩
  refine Option.bind_eq_some_iff.mpr ⟨_, Time.twoDigits_padded (by omega) _, ?_⟩
  refine Option.bind_eq_some_iff.mpr ⟨_, Time.mark_cons hcolon _, ?_⟩
  refine Option.bind_eq_some_iff.mpr ⟨_, Time.twoDigits_padded (by omega) _, ?_⟩
  exact assemble_civil t

/-- **Written and read back.** The text of an instant without its fraction denotes the start of its
second. -/
theorem parse?_wholeSecondText {t : Instant} (ht : t.isLeap = false) :
    parse? t.wholeSecondText = some t.wholeSecond := by
  rw [parse?_wholeSecondText_eq, withoutFraction_eq ht]

end Instant

end CarbonIntensity
