import Mathlib.Tactic.Common
import Mathlib.Tactic.IntervalCases
import Playbook.Instant.Basic

/-!
The calendar in both directions. The date of a day number is a valid one, and its day number is the
one that it was made from; days are counted in the order of dates, so the other way round a valid
date is that of its day number.
-/
namespace Playbook

namespace Date

/-! ### Days in a cycle of 400 years -/

/-- The year, counted from March, that a day of a cycle of 400 years lies in. -/
def yearOfCycle (e : Int) : Int := (e - e / 1460 + e / 36524 - e / 146096) / 365

/-- The day of that year. -/
def dayOfYear (e : Int) : Int :=
  e - (365 * yearOfCycle e + yearOfCycle e / 4 - yearOfCycle e / 100)

section
variable {e y : Int}

theorem century_of_year (low : 0 ≤ e) (high : e < 146096)
    (year : y = (e - e / 1460 + e / 36524) / 365) : y / 100 = e / 36524 := by
  have first : 0 ≤ e / 36524 := by omega
  have last : e / 36524 ≤ 3 := by omega
  generalize century : e / 36524 = c at *
  interval_cases c <;> omega

/-- A day but the last one of the cycle lies in the first 365 days of its year, or is the day that a
leap year has more. -/
theorem day_bounds (low : 0 ≤ e) (high : e < 146096)
    (year : y = (e - e / 1460 + e / 36524) / 365) :
    0 ≤ y ∧ y ≤ 399 ∧ 365 * y + y / 4 - y / 100 ≤ e ∧
      (e < 365 * y + y / 4 - y / 100 + 365 ∨
        e = 365 * y + y / 4 - y / 100 + 365 ∧ y % 4 = 3 ∧ y % 100 ≠ 99) := by
  have century := century_of_year low high year
  have within : 36524 * (e / 36524) ≤ e ∧ e < 36524 * (e / 36524) + 36524 := by omega
  generalize e / 36524 = c at *
  have below : 1460 * (e / 1460) ≤ e := by omega
  have above : e < 1460 * (e / 1460) + 1460 := by omega
  generalize e / 1460 = f at *
  have least : 365 * y ≤ e - f + c := by omega
  have greatest : e - f + c < 365 * (y + 1) := by omega
  have quads : y / 4 ≤ f ∧ f ≤ y / 4 + 1 := by omega
  have inside : 0 ≤ c ∧ c ≤ 3 ∧ 0 ≤ f ∧ f ≤ 100 ∧ 25 * c ≤ f + 1 := by omega
  refine ⟨by omega, by omega, by omega, ?_⟩
  rcases Int.lt_or_le e (365 * y + y / 4 - y / 100 + 365) with less | more
  · exact .inl less
  · refine .inr ⟨by omega, by omega, by omega⟩

theorem dayOfYear_bounds (low : 0 ≤ e) (high : e < 146097) :
    0 ≤ yearOfCycle e ∧ yearOfCycle e ≤ 399 ∧ 0 ≤ dayOfYear e ∧
      (dayOfYear e < 365 ∨ dayOfYear e = 365 ∧ isLeap (yearOfCycle e + 1) = true) := by
  by_cases last : e = 146096
  · subst last
    decide
  · have year : yearOfCycle e = (e - e / 1460 + e / 36524) / 365 := by
      rw [yearOfCycle]
      omega
    obtain ⟨first, final, least, day⟩ := day_bounds low (by omega) year
    rw [dayOfYear]
    refine ⟨first, final, by omega, ?_⟩
    rcases day with less | ⟨leap, quad, century⟩
    · exact .inl (by omega)
    · refine .inr ⟨by omega, ?_⟩
      have four : (yearOfCycle e + 1) % 4 = 0 := by omega
      have hundred : (yearOfCycle e + 1) % 100 ≠ 0 := by omega
      simp [isLeap, four, hundred]

end

/-! ### Dates of day numbers -/

/-- The month, counted from March as zero, of a day of the year. -/
def monthOfYear (d : Int) : Int := (5 * d + 2) / 153

/-- The date of a day of a year that is counted from March. -/
def ofParts (y d : Int) : Date :=
  let s := monthOfYear d
  let month := if s < 10 then s + 3 else s - 9
  ⟨if month ≤ 2 then y + 1 else y, month.toNat, (d - (153 * s + 2) / 5 + 1).toNat⟩

theorem ofDays_eq (days : Int) :
    ofDays days = ofParts (yearOfCycle ((days + 719468) % 146097) + (days + 719468) / 146097 * 400)
      (dayOfYear ((days + 719468) % 146097)) := rfl

section
variable {y d : Int}

theorem toDays_ofParts (low : 0 ≤ d) (high : d ≤ 365) :
    (ofParts y d).toDays = y * 365 + y / 4 - y / 100 + y / 400 + d - 719468 := by
  have first : 0 ≤ monthOfYear d := by rw [monthOfYear]; omega
  have last : monthOfYear d ≤ 11 := by rw [monthOfYear]; omega
  have day : 0 ≤ d - (153 * monthOfYear d + 2) / 5 := by rw [monthOfYear]; omega
  by_cases early : monthOfYear d < 10
  · have march : ¬(monthOfYear d + 3).toNat ≤ 2 := by omega
    have march' : ¬monthOfYear d + 3 ≤ 2 := by omega
    simp only [ofParts, toDays, if_pos early, if_neg march, if_neg march']
    omega
  · have january : (monthOfYear d - 9).toNat ≤ 2 := by omega
    have january' : monthOfYear d - 9 ≤ 2 := by omega
    simp only [ofParts, toDays, if_neg early, if_pos january, if_pos january']
    omega

theorem isValid_ofParts (low : 0 ≤ d) (high : d < 365 ∨ d = 365 ∧ isLeap (y + 1) = true) :
    (ofParts y d).isValid = true := by
  have first : 0 ≤ monthOfYear d := by rw [monthOfYear]; omega
  have last : monthOfYear d ≤ 11 := by rw [monthOfYear]; omega
  have least : 153 * monthOfYear d ≤ 5 * d + 2 := by rw [monthOfYear]; omega
  have greatest : 5 * d + 2 < 153 * monthOfYear d + 153 := by rw [monthOfYear]; omega
  generalize month : monthOfYear d = s at *
  simp only [isValid, ofParts, month, Bool.and_eq_true, decide_eq_true_eq]
  interval_cases s
  case «11» =>
    refine ⟨⟨⟨by decide, by decide⟩, by omega⟩, ?_⟩
    rcases high with less | ⟨rfl, leap⟩
    · have short : 28 ≤ daysInMonth (y + 1) 2 := by
        simp only [daysInMonth, if_true]
        split <;> decide
      simp
      omega
    · simp [daysInMonth, leap]
  all_goals
    refine ⟨⟨⟨by decide, by decide⟩, by omega⟩, ?_⟩
    simp [daysInMonth]
    omega

end

theorem isLeap_add_cycles (y c : Int) : isLeap (y + c * 400) = isLeap y := by
  have four : (y + c * 400) % 4 = y % 4 := by omega
  have hundred : (y + c * 400) % 100 = y % 100 := by omega
  have fourHundred : (y + c * 400) % 400 = y % 400 := by omega
  rw [isLeap, four, hundred, fourHundred, isLeap]

theorem toDays_ofDays (days : Int) : (ofDays days).toDays = days := by
  have low := Int.emod_nonneg (days + 719468) (b := 146097) (by decide)
  have high := Int.emod_lt_of_pos (days + 719468) (b := 146097) (by decide)
  obtain ⟨first, last, least, day⟩ := dayOfYear_bounds low high
  rw [ofDays_eq, toDays_ofParts least (by omega), dayOfYear]
  omega

theorem isValid_ofDays (days : Int) : (ofDays days).isValid = true := by
  have low := Int.emod_nonneg (days + 719468) (b := 146097) (by decide)
  have high := Int.emod_lt_of_pos (days + 719468) (b := 146097) (by decide)
  obtain ⟨first, last, least, day⟩ := dayOfYear_bounds low high
  refine isValid_ofParts least (day.imp_right fun ⟨leap, year⟩ => ⟨leap, ?_⟩)
  rwa [Int.add_right_comm, isLeap_add_cycles]

/-! ### Order of years -/

section
variable {d : Date} {y : Int}

theorem bounds_of_isValid (valid : d.isValid = true) :
    1 ≤ d.month ∧ d.month ≤ 12 ∧ 1 ≤ d.day ∧ d.day ≤ 31 := by
  simp only [isValid, Bool.and_eq_true, decide_eq_true_eq] at valid
  obtain ⟨⟨⟨january, december⟩, first⟩, last⟩ := valid
  have longest : daysInMonth d.year d.month ≤ 31 := by
    unfold daysInMonth
    repeat' split
    all_goals decide
  exact ⟨january, december, first, last.trans longest⟩

theorem toDays_lt_of_year_lt (valid : d.isValid = true) (before : d.year < y) :
    d.toDays < toDays ⟨y, 1, 1⟩ := by
  obtain ⟨january, december, first, last⟩ := bounds_of_isValid valid
  unfold toDays
  by_cases early : d.month ≤ 2
  · simp [early]
    omega
  · simp [early]
    omega

theorem lt_toDays_of_lt_year (valid : d.isValid = true) (after : y < d.year) :
    toDays ⟨y, 12, 31⟩ < d.toDays := by
  obtain ⟨january, december, first, last⟩ := bounds_of_isValid valid
  unfold toDays
  by_cases early : d.month ≤ 2
  · simp [early]
    omega
  · simp [early]
    omega

end

/-! ### Order of dates -/

section
variable {d e : Date} {y : Int} {m n : Nat}

theorem isLeap_iff : isLeap y = true ↔ y % 4 = 0 ∧ (y % 100 ≠ 0 ∨ y % 400 = 0) := by
  simp [isLeap]

theorem toDays_eq_first_add (d : Date) : d.toDays = toDays ⟨d.year, d.month, 1⟩ + d.day - 1 := by
  unfold toDays
  dsimp only
  omega

/-- A month starts after all days of the month before. -/
theorem toDays_next_month (first : 1 ≤ m) (last : m < 12) :
    toDays ⟨y, m + 1, 1⟩ = toDays ⟨y, m, 1⟩ + daysInMonth y m := by
  unfold toDays daysInMonth
  by_cases february : m = 2
  · subst february
    by_cases leap : isLeap y = true
    · have := isLeap_iff.1 leap
      simp [leap]
      omega
    · have := mt isLeap_iff.2 leap
      simp [leap]
      omega
  · interval_cases m <;> simp at february ⊢ <;> omega

theorem toDays_first_le (first : 1 ≤ m) (less : m < n) (last : n ≤ 12) :
    toDays ⟨y, m, 1⟩ + daysInMonth y m ≤ toDays ⟨y, n, 1⟩ := by
  induction n, less using Nat.le_induction with
  | base => exact (toDays_next_month first (by omega)).ge
  | succ n less ih =>
    have next := toDays_next_month (y := y) (m := n) (by omega) (by omega)
    have := ih (by omega)
    omega

theorem day_le_of_isValid (valid : d.isValid = true) : d.day ≤ daysInMonth d.year d.month := by
  simp only [isValid, Bool.and_eq_true, decide_eq_true_eq] at valid
  exact valid.2

theorem toDays_lt_of_month_lt (valid : d.isValid = true) (valid' : e.isValid = true)
    (year : d.year = e.year) (month : d.month < e.month) : d.toDays < e.toDays := by
  obtain ⟨january, -, -, -⟩ := bounds_of_isValid valid
  obtain ⟨-, december, first, -⟩ := bounds_of_isValid valid'
  have last := day_le_of_isValid valid
  have months := toDays_first_le (y := d.year) january month december
  rw [toDays_eq_first_add d, toDays_eq_first_add e, ← year]
  omega

theorem toDays_first_of_year_le (valid : d.isValid = true) : toDays ⟨d.year, 1, 1⟩ ≤ d.toDays := by
  obtain ⟨january, december, first, -⟩ := bounds_of_isValid valid
  rw [toDays_eq_first_add d]
  rcases Nat.eq_or_lt_of_le january with same | later
  · rw [← same]
    omega
  · have := toDays_first_le (y := d.year) (Nat.le_refl 1) later december
    omega

theorem toDays_lt_toDays_of_year_lt (valid : d.isValid = true) (valid' : e.isValid = true)
    (year : d.year < e.year) : d.toDays < e.toDays :=
  Int.lt_of_lt_of_le (toDays_lt_of_year_lt valid year) (toDays_first_of_year_le valid')

/-- Days are counted in the order of year, month and day. -/
theorem toDays_lt_of_day_lt (year : d.year = e.year) (month : d.month = e.month)
    (day : d.day < e.day) : d.toDays < e.toDays := by
  rw [toDays_eq_first_add d, toDays_eq_first_add e, year, month]
  omega

theorem eq_of_toDays_eq (valid : d.isValid = true) (valid' : e.isValid = true)
    (same : d.toDays = e.toDays) : d = e := by
  obtain ⟨y, m, k⟩ := d
  obtain ⟨y', m', k'⟩ := e
  have year : y = y' := by
    rcases Int.lt_trichotomy y y' with less | equal | more
    · exact absurd same (Int.ne_of_lt (toDays_lt_toDays_of_year_lt valid valid' less))
    · exact equal
    · exact absurd same.symm (Int.ne_of_lt (toDays_lt_toDays_of_year_lt valid' valid more))
  subst year
  have month : m = m' := by
    rcases Nat.lt_trichotomy m m' with less | equal | more
    · exact absurd same (Int.ne_of_lt (toDays_lt_of_month_lt valid valid' rfl less))
    · exact equal
    · exact absurd same.symm (Int.ne_of_lt (toDays_lt_of_month_lt valid' valid rfl more))
  subst month
  have day : k = k' := by
    rw [toDays_eq_first_add, toDays_eq_first_add ⟨y, m, k'⟩] at same
    dsimp only at same
    omega
  rw [day]

theorem ofDays_toDays (valid : d.isValid = true) : ofDays d.toDays = d :=
  eq_of_toDays_eq (isValid_ofDays _) valid (toDays_ofDays _)

end

end Date
end Playbook
