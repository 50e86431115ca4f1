import StreamBridge.Time.Date

/-! Day numbers and dates. Every day number has a date of the calendar, and numbering that date
gives the day back. Within four hundred years a day is split into centuries, groups of four years,
years and days; the last of each may be a day longer, which is where the leap days are. -/

namespace StreamBridge.Proofs.CalendarDays
open Time

/-- The days of four hundred years that lie before a year of them. -/
def daysBeforeYear (year : Nat) : Nat := 365 * year + year / 4 - year / 100

/-- A day of four hundred years by centuries, groups of four years, years, and days. -/
structure Split (day century group year rest : Nat) : Prop where
  sum : day = 36524 * century + 1461 * group + 365 * year + rest
  centuries : century ≤ 3
  groups : group ≤ 24
  years : year ≤ 3
  days : rest ≤ 365
  /-- The longest year ends its group, and the longest group of a century ends the four of them. -/
  longest : rest = 365 → year = 3 ∧ (group = 24 → century = 3)

private theorem split (day : Nat) (inside : day < daysInEra) :
    ∃ century group year rest, Split day century group year rest := by
  rw [daysInEra] at inside
  let century := min 3 (day / 36524)
  let afterCentury := day - 36524 * century
  let group := afterCentury / 1461
  let afterGroup := afterCentury % 1461
  let year := min 3 (afterGroup / 365)
  refine ⟨century, group, year, afterGroup - 365 * year, ?_, ?_, ?_, ?_, ?_, ?_⟩ <;> omega

private theorem yearOfEra_split {day century group year rest : Nat}
    (split : Split day century group year rest) :
    yearOfEra day = 100 * century + 4 * group + year := by
  obtain ⟨sum, centuries, groups, years, days, longest⟩ := split
  have lastDay : day / 146096 = if 146096 ≤ day then 1 else 0 := by split <;> omega
  have inCentury : day / 36524 = century + if 146096 ≤ day then 1 else 0 := by split <;> omega
  -- The short division by 1460 is ahead by one only near the end of a group of four years.
  have inGroup : day / 1460 = 25 * century + group +
      if 1460 ≤ 24 * century + group + 365 * year + rest then 1 else 0 := by split <;> omega
  unfold yearOfEra
  rw [lastDay, inCentury, inGroup]
  split <;> split <;> omega

/-- A day of four hundred years lies in the year found for it, and is its 366th day only in a leap
year. Years start in March, so the leap day is that of the year that follows in January. -/
theorem yearOfEra_contains (day : Nat) (inside : day < daysInEra) :
    yearOfEra day < 400 ∧ daysBeforeYear (yearOfEra day) ≤ day ∧
      day - daysBeforeYear (yearOfEra day) ≤ 365 ∧
      (day - daysBeforeYear (yearOfEra day) = 365 → (yearOfEra day + 1) % 4 = 0 ∧
        ((yearOfEra day + 1) % 100 = 0 → (yearOfEra day + 1) % 400 = 0)) := by
  obtain ⟨century, group, year, rest, split⟩ := split day inside
  rw [yearOfEra_split split]
  obtain ⟨sum, centuries, groups, years, days, longest⟩ := split
  have before : daysBeforeYear (100 * century + 4 * group + year) =
      36524 * century + 1461 * group + 365 * year := by
    unfold daysBeforeYear
    omega
  rw [before]
  refine ⟨by omega, by omega, by omega, fun long => ?_⟩
  obtain ⟨last, end_⟩ := longest (by omega)
  refine ⟨by omega, fun full => ?_⟩
  have lastGroup : group = 24 := by omega
  have lastCentury := end_ lastGroup
  omega

/-- The date of a day of a year that starts in March, within some four hundred years. Months are
counted from zero. -/
def marchDate (era : Int) (year month rest : Nat) : Date where
  year := era * 400 + year + (if month < 10 then 0 else 1)
  month := if month < 10 then month + 3 else month - 9
  day := rest - daysBeforeMonth month + 1

/-- A day that lies in a month of a year that starts in March. -/
structure InMonth (month rest : Nat) : Prop where
  month_le : month ≤ 11
  before : daysBeforeMonth month ≤ rest
  after : rest < daysBeforeMonth (month + 1)
  short : rest ≤ 365

private theorem inMonth (rest : Nat) (short : rest ≤ 365) :
    InMonth ((5 * rest + 2) / 153) rest := by
  refine ⟨?_, ?_, ?_, short⟩ <;> (try unfold daysBeforeMonth) <;> omega

/-- Every day number lies in some four hundred years, in a year of them. -/
theorem ofDays_marchDate (days : Int) :
    ∃ (era : Int) (year month rest : Nat), Date.ofDays days = marchDate era year month rest ∧
      days = era * daysInEra + (daysBeforeYear year + rest : Nat) - epochShift ∧
      year < 400 ∧ InMonth month rest ∧
      (rest = 365 → (year + 1) % 4 = 0 ∧ ((year + 1) % 100 = 0 → (year + 1) % 400 = 0)) := by
  let shifted := days + epochShift
  let day := (shifted % daysInEra).toNat
  have inside : day < daysInEra := by
    simp only [day, daysInEra]
    omega
  obtain ⟨small, start, short, leap⟩ := yearOfEra_contains day inside
  refine ⟨shifted / daysInEra, yearOfEra day, _, day - daysBeforeYear (yearOfEra day), rfl, ?_,
    small, inMonth _ short, leap⟩
  rw [Nat.add_sub_cancel' start]
  simp only [day, shifted, daysInEra, epochShift]
  omega

theorem marchDate_toDays (era : Int) (year month rest : Nat) (small : year < 400)
    (inside : InMonth month rest) :
    (marchDate era year month rest).toDays =
      era * daysInEra + (daysBeforeYear year + rest : Nat) - epochShift := by
  obtain ⟨last, before, _, _⟩ := inside
  simp only [marchDate, Date.toDays]
  by_cases early : month < 10
  · have late : ¬ month + 3 ≤ 2 := by omega
    have marchYear : (era * 400 + year + 0) / 400 = era := by omega
    have inEra : ((era * 400 + year + 0) % 400).toNat = year := by omega
    simp only [early, late, if_true, if_false, marchYear, inEra, Nat.add_sub_cancel, dayOfEra,
      daysBeforeYear]
    omega
  · have january : month - 9 ≤ 2 := by omega
    have marchYear : (era * 400 + year + 1 - 1) / 400 = era := by omega
    have inEra : ((era * 400 + year + 1 - 1) % 400).toNat = year := by omega
    have back : month - 9 + 9 = month := by omega
    simp only [early, january, if_true, if_false, marchYear, inEra, Nat.add_sub_cancel, back,
      dayOfEra, daysBeforeYear]
    omega

/-- Numbering the date of a day gives the day back. -/
theorem toDays_ofDays (days : Int) : (Date.ofDays days).toDays = days := by
  obtain ⟨era, year, month, rest, date, same, small, inside, _⟩ := ofDays_marchDate days
  rw [date, marchDate_toDays era year month rest small inside, same]

private theorem leapYear_next (era : Int) (year : Nat) (four : (year + 1) % 4 = 0)
    (hundred : (year + 1) % 100 = 0 → (year + 1) % 400 = 0) :
    isLeapYear (era * 400 + year + 1) = true := by
  have quarter : (era * 400 + year + 1) % 4 = 0 := by omega
  by_cases century : (year + 1) % 100 = 0
  · have full := hundred century
    have era400 : (era * 400 + year + 1) % 400 = 0 := by omega
    simp [isLeapYear, quarter, era400]
  · have ordinary : (era * 400 + year + 1) % 100 ≠ 0 := by omega
    simp [isLeapYear, quarter, ordinary]

theorem marchDate_exists (era : Int) (year month rest : Nat) (inside : InMonth month rest)
    (leap : rest = 365 → (year + 1) % 4 = 0 ∧ ((year + 1) % 100 = 0 → (year + 1) % 400 = 0)) :
    (marchDate era year month rest).exists = true := by
  obtain ⟨last, before, after, short⟩ := inside
  simp only [marchDate, Date.exists]
  -- Only February, the last month of such a year, depends on the year.
  by_cases february : month = 11
  · subst february
    simp only [daysBeforeMonth] at before after
    by_cases leapDay : rest = 365
    · have isLeap := leapYear_next era year (leap leapDay).1 (leap leapDay).2
      simp [leapDay, daysBeforeMonth, daysInMonth, isLeap]
    · simp [daysBeforeMonth, daysInMonth]
      split <;> omega
  · have months : month = 0 ∨ month = 1 ∨ month = 2 ∨ month = 3 ∨ month = 4 ∨ month = 5 ∨
        month = 6 ∨ month = 7 ∨ month = 8 ∨ month = 9 ∨ month = 10 := by omega
    rcases months with rfl | rfl | rfl | rfl | rfl | rfl | rfl | rfl | rfl | rfl | rfl <;>
      simp [daysBeforeMonth, daysInMonth] at before after ⊢ <;> omega

theorem exists_ofDays (days : Int) : (Date.ofDays days).exists = true := by
  obtain ⟨era, year, month, rest, date, _, _, inside, leap⟩ := ofDays_marchDate days
  rw [date]
  exact marchDate_exists era year month rest inside leap

theorem year_ofDays (days : Int) (late : -100000000 ≤ days) (early : days ≤ 100000000) :
    -1000000 < (Date.ofDays days).year ∧ (Date.ofDays days).year < 1000000 := by
  obtain ⟨era, year, month, rest, date, same, small, inside, _⟩ := ofDays_marchDate days
  have short := inside.short
  have before : daysBeforeYear year < daysInEra := by
    unfold daysBeforeYear daysInEra
    omega
  rw [date]
  simp only [marchDate, daysInEra, epochShift] at same before ⊢
  constructor <;> split <;> omega

end StreamBridge.Proofs.CalendarDays
