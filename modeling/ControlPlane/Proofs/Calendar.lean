/-
The calendar, there and back.

A day lies in an era of 400 years, in a year of that era that starts in March, and in a month
of that year.  `Parts` is how the number of a day is put together from these, and both
directions of the calendar are compared with it: a date is made from the parts of its day, and
its day is the sum of its parts.
-/
import ControlPlane.Time.Calendar

namespace ControlPlane.Calendar

/-! ### Years -/

/-- The March year of an era that a day of it lies in. -/
def yearOfEra (d : Int) : Int := (d - d / 1460 + d / 36524 - d / 146096) / 365

/-- The day of an era that a March year of it starts with. -/
def yearStart (y : Int) : Int := 365 * y + y / 4 - y / 100

/-- The year of a day that is given by its century, by the four years in that, and by its day
of these four. -/
theorem yearOfEra_eq {e k r : Int} (he : 0 ≤ e ∧ e ≤ 3) (hk : 0 ≤ k ∧ k ≤ 24)
    (hr : 0 ≤ r ∧ r ≤ 1460) (hlast : k = 24 → r ≤ 1459) :
    yearOfEra (36524 * e + 1461 * k + r) = 100 * e + 4 * k + (min r 1459) / 365 := by
  have hcentury : (36524 * e + 1461 * k + r) / 36524 = e := by omega
  have hera : (36524 * e + 1461 * k + r) / 146096 = 0 := by omega
  have hleap : (36524 * e + 1461 * k + r) / 1460 = 25 * e + k + (24 * e + k + r) / 1460 := by omega
  unfold yearOfEra
  rw [hcentury, hera, hleap]
  omega

theorem yearStart_eq {e k m : Int} (hk : 0 ≤ k ∧ k ≤ 24) (hm : 0 ≤ m ∧ m ≤ 3) :
    yearStart (100 * e + 4 * k + m) = 36524 * e + 1461 * k + 365 * m := by
  unfold yearStart
  omega

/-- Only the last day of an era lies in none of its four centuries. -/
theorem dayOfEra_cases {d : Int} (h0 : 0 ≤ d) (h1 : d ≤ 146096) :
    d = 146096 ∨ ∃ e k r, 0 ≤ e ∧ e ≤ 3 ∧ 0 ≤ k ∧ k ≤ 24 ∧ 0 ≤ r ∧ r ≤ 1460 ∧ (k = 24 → r ≤ 1459) ∧
      d = 36524 * e + 1461 * k + r := by
  by_cases h : d = 146096
  · exact .inl h
  · refine .inr ⟨d / 36524, d % 36524 / 1461, d % 36524 % 1461, ?_⟩
    omega

/-- A day of an era lies in its March year, which has a 366th day only if a leap year ends it. -/
theorem yearOfEra_spec {d : Int} (h0 : 0 ≤ d) (h1 : d ≤ 146096) :
    0 ≤ yearOfEra d ∧ yearOfEra d ≤ 399 ∧ yearStart (yearOfEra d) ≤ d ∧
      d ≤ yearStart (yearOfEra d) + 365 ∧
      (d = yearStart (yearOfEra d) + 365 → isLeap (yearOfEra d + 1) = true) := by
  rcases dayOfEra_cases h0 h1 with rfl | ⟨e, k, r, he0, he, hk0, hk, hr0, hr, hlast, rfl⟩
  · decide
  · obtain ⟨m, hm⟩ : ∃ m, min r 1459 / 365 = m := ⟨_, rfl⟩
    rw [yearOfEra_eq ⟨he0, he⟩ ⟨hk0, hk⟩ ⟨hr0, hr⟩ hlast, hm, yearStart_eq ⟨hk0, hk⟩ (by omega)]
    refine ⟨by omega, by omega, by omega, by omega, fun hleap => ?_⟩
    have hfour : (100 * e + 4 * k + m + 1) % 4 = 0 := by omega
    have hhundred : (100 * e + 4 * k + m + 1) % 100 ≠ 0 := by omega
    simp [isLeap, hfour, hhundred]

theorem isLeap_add_era {year era : Int} : isLeap (year + era * 400) = isLeap year := by
  unfold isLeap
  have h4 : (year + era * 400) % 4 = year % 4 := by omega
  have h100 : (year + era * 400) % 100 = year % 100 := by omega
  have h400 : (year + era * 400) % 400 = year % 400 := by omega
  rw [h4, h100, h400]

/-! ### Dates -/

/-- The day of a March year that a month of it starts with. -/
def monthStart (m : Int) : Int := (153 * m + 2) / 5

/-- The date that lies some days behind the start of a month of a March year. -/
def dateOf (era y m n : Int) : Date :=
  if m < 10 then ⟨y + era * 400, (m + 3).toNat, (n + 1).toNat⟩
  else ⟨y + era * 400 + 1, (m - 9).toNat, (n + 1).toNat⟩

/-- A day as it is put together from its March year. -/
structure Parts (days era y m n : Int) : Prop where
  sum : days + 719468 = era * 146097 + yearStart y + monthStart m + n
  year : 0 ≤ y ∧ y ≤ 399
  month : 0 ≤ m ∧ m ≤ 11
  /-- The day lies in its month. -/
  day : 0 ≤ n ∧ n < monthStart (m + 1) - monthStart m
  /-- The last month has a 29th day only in a leap year. -/
  leap : m = 11 → n ≤ 28 ∧ (n = 28 → isLeap (y + 1) = true)

theorem ofDays_spec (days : Int) :
    ∃ era y m n, Parts days era y m n ∧ ofDays days = dateOf era y m n := by
  obtain ⟨hy0, hy1, hstart, hend, hleap⟩ := yearOfEra_spec (d := (days + 719468) % 146097)
    (by omega) (by omega)
  obtain ⟨era, hera⟩ : ∃ era, (days + 719468) / 146097 = era := ⟨_, rfl⟩
  obtain ⟨d, hd⟩ : ∃ d, (days + 719468) % 146097 = d := ⟨_, rfl⟩
  obtain ⟨y, hy⟩ : ∃ y, yearOfEra d = y := ⟨_, rfl⟩
  obtain ⟨doy, hdoy⟩ : ∃ doy, d - yearStart y = doy := ⟨_, rfl⟩
  obtain ⟨m, hm⟩ : ∃ m, (5 * doy + 2) / 153 = m := ⟨_, rfl⟩
  rw [hd, hy] at hy0 hy1 hstart hend hleap
  refine ⟨era, y, m, doy - monthStart m, ⟨by omega, ⟨hy0, hy1⟩, by omega, ?_, ?_⟩, ?_⟩
  · unfold monthStart
    omega
  · rintro rfl
    have hlast : monthStart 11 = 337 := by decide
    exact ⟨by omega, fun hn => hleap (by omega)⟩
  · have hfdiv : (days + 719468).fdiv 146097 = era := by
      rw [Int.fdiv_eq_ediv_of_nonneg _ (by decide), hera]
    have hday : days + 719468 - era * 146097 = d := by omega
    have hyear : (d - d / 1460 + d / 36524 - d / 146096) / 365 = y := hy
    have hstart : d - (365 * y + y / 4 - y / 100) = doy := hdoy
    unfold ofDays dateOf monthStart
    dsimp only
    rw [hfdiv, hday, hyear, hstart, hm]
    by_cases hmonth : m < 10
    · rw [if_pos hmonth, if_pos hmonth, if_neg (by omega)]
    · rw [if_neg hmonth, if_neg hmonth, if_pos (by omega)]

variable {days era y m n : Int}

theorem toDays_dateOf (h : Parts days era y m n) : toDays (dateOf era y m n) = days := by
  obtain ⟨hsum, ⟨hy0, hy1⟩, ⟨hm0, hm1⟩, ⟨hn0, -⟩, -⟩ := h
  have hfdiv : (y + era * 400).fdiv 400 = era := by
    rw [Int.fdiv_eq_ediv_of_nonneg _ (by decide)]
    omega
  have hyear : y + era * 400 - era * 400 = y := by omega
  have hday : ((n + 1).toNat : Int) = n + 1 := by omega
  unfold yearStart monthStart at hsum
  unfold dateOf
  by_cases hmonth : m < 10
  · have hlate : ¬(m + 3).toNat ≤ 2 := by omega
    have hback : ((m + 3).toNat : Int) - 3 = m := by omega
    rw [if_pos hmonth]
    unfold toDays
    dsimp only
    rw [if_neg hlate, if_neg hlate, hfdiv, hyear, hback, hday]
    omega
  · have hearly : (m - 9).toNat ≤ 2 := by omega
    have hback : ((m - 9).toNat : Int) + 9 = m := by omega
    have hprevious : y + era * 400 + 1 - 1 = y + era * 400 := by omega
    rw [if_neg hmonth]
    unfold toDays
    dsimp only
    rw [if_pos hearly, if_pos hearly, hprevious, hfdiv, hyear, hback, hday]
    omega

theorem valid_dateOf (h : Parts days era y m n) : (dateOf era y m n).Valid := by
  obtain ⟨-, -, ⟨hm0, hm1⟩, ⟨hn0, hn⟩, hleap⟩ := h
  have hlong : n ≤ 30 ∧ (m = 1 ∨ m = 3 ∨ m = 6 ∨ m = 8 → n ≤ 29) := by
    unfold monthStart at hn
    omega
  unfold dateOf Date.Valid daysInMonth
  by_cases hmonth : m < 10
  · rw [if_pos hmonth]
    dsimp only
    rw [if_neg (by omega)]
    refine ⟨by omega, by omega, by omega, ?_⟩
    split <;> omega
  · rw [if_neg hmonth]
    dsimp only
    refine ⟨by omega, by omega, by omega, ?_⟩
    by_cases hlast : m = 11
    · obtain ⟨hn28, hyear⟩ := hleap hlast
      rw [if_pos (by omega), show y + era * 400 + 1 = y + 1 + era * 400 by omega, isLeap_add_era]
      by_cases hn : n = 28
      · rw [if_pos (hyear hn)]
        omega
      · split <;> omega
    · rw [if_neg (by omega), if_neg (by omega)]
      omega

/-- **The calendar takes a day back out of its date**, which is one that there is. -/
theorem toDays_ofDays (days : Int) : toDays (ofDays days) = days ∧ (ofDays days).Valid := by
  obtain ⟨era, y, m, n, hparts, hdate⟩ := ofDays_spec days
  rw [hdate]
  exact ⟨toDays_dateOf hparts, valid_dateOf hparts⟩

end ControlPlane.Calendar
