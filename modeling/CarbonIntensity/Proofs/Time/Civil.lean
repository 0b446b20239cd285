import CarbonIntensity.Time.Text

/-!
# Dates and day numbers

A day of an era is a day `k` of a year `y` of it, `k` below 365 or the leap day that ends the year, and
year and day are found back from `daysBefore y + k`. So a date found from its day number exists and has
that number:

    (ofDayNumber n).dayNumber = n                (dayNumber_ofDayNumber)
    (ofDayNumber n).isValid = true               (isValid_ofDayNumber)
-/

namespace CarbonIntensity.CivilDate

/-- Days of an era before a year of it. -/
def daysBefore (y : Nat) : Nat := 365 * y + y / 4 - y / 100

/-- A year of an era ends with a leap day if the civil year that it ends in is a leap year. -/
def EndsLeap (y : Nat) : Prop := (y + 1) % 4 = 0 ∧ ((y + 1) % 100 ≠ 0 ∨ (y + 1) % 400 = 0)

/-- The year has a day of that number. -/
def HasDay (y k : Nat) : Prop := k < 365 ∨ k = 365 ∧ EndsLeap y

/-- Every day of an era is a day of one of its years. -/
theorem exists_hasDay {d : Nat} (hd : d < 146097) : ∃ y k, y < 400 ∧ HasDay y k ∧ d = daysBefore y + k := by
  induction d with
  | zero => exact ⟨0, 0, by decide, .inl (by decide), rfl⟩
  | succ d ih =>
    obtain ⟨y, k, hy, hk, rfl⟩ := ih (by omega)
    clear ih
    -- The next day of the same year, unless this is its last one.
    by_cases hnext : HasDay y (k + 1)
    · exact ⟨y, k + 1, hy, hnext, by omega⟩
    · have hlast : y < 399 := by
        unfold HasDay EndsLeap daysBefore at *
        omega
      refine ⟨y + 1, 0, by omega, .inl (by decide), ?_⟩
      unfold HasDay EndsLeap daysBefore at *
      clear hd
      omega

/-- The year is found from the day of its era. -/
theorem yearOfEra_eq {y k : Nat} (hy : y < 400) (hk : HasDay y k) :
    let d := daysBefore y + k
    (d - d / 1460 + d / 36524 - d / 146096) / 365 = y := by
  intro d
  obtain ⟨c, q, b, hc, hq, hb, rfl⟩ : ∃ c q b, c < 4 ∧ q < 25 ∧ b < 4 ∧ y = 100 * c + 4 * q + b :=
    ⟨y / 100, y % 100 / 4, y % 4, by omega, by omega, by omega, by omega⟩
  have hd : d = 36524 * c + 1461 * q + 365 * b + k := by
    show 365 * (100 * c + 4 * q + b) + (100 * c + 4 * q + b) / 4 - (100 * c + 4 * q + b) / 100 + k = _
    omega
  have hlast : k < 365 ∨ k = 365 ∧ b = 3 ∧ (q < 24 ∨ q = 24 ∧ c = 3) := by
    unfold HasDay EndsLeap at hk
    omega
  clear_value d
  clear hk hy
  -- The last day of an era counts as one of a fifth century.
  have hcenturies : d / 36524 = c + d / 146096 := by
    by_cases hfifth : 1461 * q + 365 * b + k < 36524
    · have hwhole : d / 36524 = c := by omega
      have hnone : d / 146096 = 0 := by omega
      omega
    · obtain rfl : c = 3 := by omega
      have hd : d = 146096 := by omega
      omega
  -- Late days of a fourth year count as days of a year more.
  obtain ⟨r, hfour, hr⟩ : ∃ r, d / 1460 = 25 * c + q + r ∧ (r = 0 ∧ k < 365 ∨ r = 1 ∧ 0 < k ∧ k ≤ 365) := by
    by_cases hlate : 24 * c + q + 365 * b + k < 1460
    · exact ⟨0, by omega, by omega⟩
    · exact ⟨1, by omega, by omega⟩
  have hn : d - d / 1460 + d / 36524 - d / 146096 = 365 * (100 * c + 4 * q + b) + (k - r) := by
    omega
  rw [hn]
  omega

/-- A date by its era, the year of the era and the day of the year. -/
theorem ofDayNumber_eq (n : Int) : ∃ (era : Int) (y k : Nat), y < 400 ∧ HasDay y k ∧
    n = era * 146097 + daysBefore y + k - 719468 ∧
    ofDayNumber n =
      let m := (5 * k + 2) / 153
      let month := if m < 10 then m + 3 else m - 9
      ⟨if month ≤ 2 then era * 400 + y + 1 else era * 400 + y, month, k - (153 * m + 2) / 5 + 1⟩ := by
  obtain ⟨y, k, hy, hk, hd⟩ := exists_hasDay (show ((n + 719468) % 146097).toNat < 146097 by omega)
  refine ⟨(n + 719468) / 146097, y, k, hy, hk, by omega, ?_⟩
  have hyear := yearOfEra_eq hy hk
  have hday : daysBefore y + k - (365 * y + y / 4 - y / 100) = k := by
    unfold daysBefore
    omega
  unfold ofDayNumber
  simp only [hd] at *
  simp only [hyear, hday]

theorem dayNumber_ofDayNumber (n : Int) : (ofDayNumber n).dayNumber = n := by
  obtain ⟨era, y, k, hy, hk, hn, hdate⟩ := ofDayNumber_eq n
  have hle : k ≤ 365 := by
    unfold HasDay at hk
    omega
  rw [hdate, hn]
  unfold dayNumber daysBefore
  simp only
  generalize hm : (5 * k + 2) / 153 = m
  have hyear : ∀ month : Nat, (if month ≤ 2 then (if month ≤ 2 then era * 400 + (y : Int) + 1 else era * 400 + y) - 1
      else (if month ≤ 2 then era * 400 + (y : Int) + 1 else era * 400 + y)) = era * 400 + y := by
    intro month
    split <;> omega
  have hmonth : ((if m < 10 then m + 3 else m - 9) + 9) % 12 = m := by
    split <;> omega
  rw [hyear, hmonth]
  omega

/-- The months from March to January are as long as the days before them say. -/
theorem daysInMonth_eq (y : Int) {m : Nat} (hm : m < 11) :
    daysInMonth y (if m < 10 then m + 3 else m - 9) = (153 * (m + 1) + 2) / 5 - (153 * m + 2) / 5 := by
  have hcases : m = 0 ∨ m = 1 ∨ m = 2 ∨ m = 3 ∨ m = 4 ∨ m = 5 ∨ m = 6 ∨ m = 7 ∨ m = 8 ∨ m = 9 ∨ m = 10 := by
    omega
  rcases hcases with rfl | rfl | rfl | rfl | rfl | rfl | rfl | rfl | rfl | rfl | rfl <;> rfl

/-- A date found from its day number exists. -/
theorem isValid_ofDayNumber (n : Int) : (ofDayNumber n).isValid = true := by
  obtain ⟨era, y, k, hy, hk, -, hdate⟩ := ofDayNumber_eq n
  rw [hdate]
  unfold HasDay EndsLeap at hk
  unfold isValid
  simp only [Bool.and_eq_true, decide_eq_true_iff]
  by_cases hm : (5 * k + 2) / 153 < 11
  · rw [daysInMonth_eq _ hm]
    generalize hmonth : (if (5 * k + 2) / 153 < 10 then _ else _) = month
    split at hmonth
    · omega
    · omega
  · -- The last month has a day more at the end of a leap year.
    have hfebruary : (5 * k + 2) / 153 = 11 := by omega
    rw [hfebruary]
    show ((1 ≤ 2 ∧ 2 ≤ 12) ∧ 1 ≤ k - 337 + 1) ∧
      k - 337 + 1 ≤ if isLeapYear (era * 400 + y + 1) then 29 else 28
    unfold isLeapYear
    simp only [Bool.and_eq_true, Bool.or_eq_true, beq_iff_eq, bne_iff_ne]
    split
    · omega
    · omega

end CarbonIntensity.CivilDate
