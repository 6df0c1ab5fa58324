import AccessGate.Time.Calendar

/-! # Dates are the days they name

    The calendar computes a date from a day's number by plain division, with no
    table and no loop, so nothing in it says that the date exists.  `isDate_date`
    does: the month and the day are there, and counting the days up to the date
    gives the number back.

    The argument follows the eras of 400 years.  `eraYear` guesses the year from
    the day, and `yearStart_le` and `le_yearStart` say that the guess is right: the
    day lies between the first day of that year and the last.  `MarchDay` keeps what
    is known then, and the months are read off it. -/

namespace AccessGate.Calendar

/-- The year of an era in which a day of the era falls, years counted from March. -/
def eraYear (day : Int) : Int := (day - day / 1460 + day / 36524 - day / 146096) / 365

/-- The first day of a year of an era. -/
def yearStart (year : Int) : Int := 365 * year + year / 4 - year / 100

variable {d n : Int}

/-! ## Years -/

theorem eraYear_bounds (h₀ : 0 ≤ d) (h₁ : d < 146097) : 0 ≤ eraYear d ∧ eraYear d ≤ 399 := by
  rw [eraYear]
  omega

/-- Every century of an era has the same length, and the last day of the era one too many. -/
private theorem centuries_eraYear (h₀ : 0 ≤ d) (h₁ : d < 146097) :
    eraYear d / 100 = d / 36524 - d / 146096 := by
  have hcentury : d / 36524 = 0 ∨ d / 36524 = 1 ∨ d / 36524 = 2 ∨ d / 36524 = 3 ∨
      d / 36524 = 4 := by omega
  rw [eraYear]
  rcases hcentury with h | h | h | h | h
  all_goals omega

private theorem leaps_eraYear (h₀ : 0 ≤ d) (h₁ : d < 146097) : eraYear d / 4 ≤ d / 1460 := by
  have hcenturies := centuries_eraYear h₀ h₁
  rw [eraYear] at hcenturies ⊢
  omega

/-- A day is not before the first one of its year. -/
theorem yearStart_le (h₀ : 0 ≤ d) (h₁ : d < 146097) : yearStart (eraYear d) ≤ d := by
  have hcenturies := centuries_eraYear h₀ h₁
  have hleaps := leaps_eraYear h₀ h₁
  rw [yearStart]
  rw [eraYear] at *
  omega

/-- A day is at most the 366th of its year. -/
theorem le_yearStart (h₀ : 0 ≤ d) (h₁ : d < 146097) : d ≤ yearStart (eraYear d) + 365 := by
  have hcenturies := centuries_eraYear h₀ h₁
  have hleaps := leaps_eraYear h₀ h₁
  rw [yearStart]
  rw [eraYear] at *
  omega

/-- Only a year that ends with a leap day has a 366th one. -/
private theorem leap_of_eq (h₀ : 0 ≤ d) (h₁ : d < 146097) (h : d = yearStart (eraYear d) + 365) :
    (eraYear d + 1) % 4 = 0 ∧ ((eraYear d + 1) % 100 = 0 → (eraYear d + 1) % 400 = 0) := by
  have hcenturies := centuries_eraYear h₀ h₁
  have hyear := eraYear_bounds h₀ h₁
  have hguess : 365 * eraYear d ≤ d - d / 1460 + d / 36524 - d / 146096 ∧
      d - d / 1460 + d / 36524 - d / 146096 < 365 * eraYear d + 365 := by
    rw [eraYear]
    omega
  rw [yearStart] at h
  generalize eraYear d = y at *
  constructor
  · -- the place of the year in its leap cycle has to be known to bound the guess
    have hcycle : y % 4 = 0 ∨ y % 4 = 1 ∨ y % 4 = 2 ∨ y % 4 = 3 := by omega
    rcases hcycle with hc | hc | hc | hc
    all_goals omega
  · omega

/-- A day of a year of an era, years and days counted from March. -/
structure MarchDay (era year day number : Int) : Prop where
  year_nonneg : 0 ≤ year
  year_le : year ≤ 399
  day_nonneg : 0 ≤ day
  day_le : day ≤ 365
  leap : day = 365 → (year + 1) % 4 = 0 ∧ ((year + 1) % 100 = 0 → (year + 1) % 400 = 0)
  number : number = era * 146097 + (yearStart year + day) - 719468

/-- The date of a day of a year of an era. -/
def marchDate (era year day : Int) : Int × Nat × Nat :=
  let shifted := (5 * day + 2) / 153
  let month := if shifted < 10 then shifted + 3 else shifted - 9
  (if month ≤ 2 then year + era * 400 + 1 else year + era * 400, month.toNat,
    (day - (153 * shifted + 2) / 5 + 1).toNat)

/-- Every day has its place in an era, and its date is read off there. -/
theorem exists_marchDay (n : Int) :
    ∃ era year day, MarchDay era year day n ∧ date n = marchDate era year day := by
  have h₀ : 0 ≤ (n + 719468) % 146097 := by omega
  have h₁ : (n + 719468) % 146097 < 146097 := by omega
  obtain ⟨hnonneg, hle⟩ := eraYear_bounds h₀ h₁
  have hfirst := yearStart_le h₀ h₁
  have hlast := le_yearStart h₀ h₁
  refine ⟨(n + 719468) / 146097, _, _, ⟨hnonneg, hle, Int.sub_nonneg_of_le hfirst, ?_, ?_, ?_⟩,
    rfl⟩
  · omega
  · intro hday
    exact leap_of_eq h₀ h₁ (by omega)
  · omega

/-! ## Months -/

/-- A date that is there, with its day's number. -/
structure IsDate (year : Int) (month day : Nat) (number : Int) : Prop where
  month_pos : 1 ≤ month
  month_le : month ≤ 12
  day_pos : 1 ≤ day
  day_le : day ≤ daysInMonth year month
  number : dayNumber year month day = number

/-- The year that counts from March ends with February. -/
private theorem day_le_february {era y day : Int} (h : MarchDay era y day n) :
    day - 336 ≤ daysInMonth (y + era * 400 + 1) 2 := by
  have hlast := h.day_le
  rw [daysInMonth, if_pos rfl, isLeap]
  split
  · omega
  · next hcommon =>
    have hne : day ≠ 365 := by
      intro hday
      have hleap := h.leap hday
      refine hcommon ?_
      simp only [Bool.and_eq_true, Bool.or_eq_true, beq_iff_eq, bne_iff_ne, ne_eq]
      omega
    omega

theorem MarchDay.isDate {era y doy year : Int} {month day : Nat} (h : MarchDay era y doy n)
    (hdate : marchDate era y doy = (year, month, day)) : IsDate year month day n := by
  have hfebruary := day_le_february h
  obtain ⟨hnonneg, hle, hday, hlast, -, rfl⟩ := h
  obtain ⟨shifted, hs⟩ : ∃ shifted, (5 * doy + 2) / 153 = shifted := ⟨_, rfl⟩
  simp only [marchDate, hs, Prod.mk.injEq] at hdate
  obtain ⟨rfl, rfl, rfl⟩ := hdate
  rw [yearStart]
  -- with the month known, all that is left is arithmetic; only February depends on the year
  obtain hmonth | rfl : (shifted = 0 ∨ shifted = 1 ∨ shifted = 2 ∨ shifted = 3 ∨ shifted = 4 ∨
      shifted = 5 ∨ shifted = 6 ∨ shifted = 7 ∨ shifted = 8 ∨ shifted = 9 ∨ shifted = 10) ∨
      shifted = 11 := by omega
  · rcases hmonth with rfl | rfl | rfl | rfl | rfl | rfl | rfl | rfl | rfl | rfl | rfl
    all_goals
      refine ⟨by decide, by decide, by omega, ?_, ?_⟩
      · simp [daysInMonth]
        omega
      · simp [dayNumber]
        omega
  · refine ⟨by decide, by decide, by omega, ?_, ?_⟩
    · simp
      omega
    · simp [dayNumber]
      omega

/-- The date of a day is there, and it is that day's. -/
theorem isDate_date {year : Int} {month day : Nat} (h : date n = (year, month, day)) :
    IsDate year month day n := by
  obtain ⟨era, y, doy, hplace, hdate⟩ := exists_marchDay n
  exact hplace.isDate (hdate.symm.trans h)

/-- The days of the calendar fall in its years. -/
theorem year_of_date {year : Int} {month day : Nat} (h : date n = (year, month, day))
    (hfirst : dayNumber firstYear 1 1 ≤ n) (hlast : n ≤ dayNumber lastYear 12 31) :
    firstYear ≤ year ∧ year ≤ lastYear := by
  obtain ⟨era, y, doy, ⟨hnonneg, hle, hday, hdoy, -, rfl⟩, hdate⟩ := exists_marchDay n
  obtain ⟨rfl, -, -⟩ := Prod.mk.inj (hdate.symm.trans h)
  rw [show dayNumber firstYear 1 1 = -96465292 from rfl, yearStart] at hfirst
  rw [show dayNumber lastYear 12 31 = 95026236 from rfl, yearStart] at hlast
  rw [firstYear, lastYear]
  have hera : -656 ≤ era ∧ era ≤ 655 := by omega
  split
  · omega
  · omega

end AccessGate.Calendar
