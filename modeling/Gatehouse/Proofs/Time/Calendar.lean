import Gatehouse.Time.Calendar
import Mathlib.Tactic.IntervalCases
import Mathlib.Tactic.SplitIfs

/-! Days and dates. Each day has a date that the calendar has, and that date names this day. -/
namespace Gatehouse.Date

/-- The year of a cycle that holds a day of the cycle. -/
def yearOfDay (day : Nat) : Nat := (day - day / 1460 + day / 36524 - day / 146096) / 365

theorem daysBeforeYear_yearOfDay {day : Nat} (h : day < 146096) :
    daysBeforeYear (yearOfDay day) ≤ day ∧ day < daysBeforeYear (yearOfDay day + 1) := by
  unfold yearOfDay daysBeforeYear
  have hlast : day / 146096 = 0 := by omega
  generalize hcentury : day / 36524 = century
  generalize hyear : (day - day / 1460 + century - day / 146096) / 365 = year
  have hsame : year / 100 = century := by omega
  rw [hsame]
  constructor
  · omega
  · -- The century ends with this year or goes on.
    have hnext : (year + 1) / 100 = century ∨ year + 1 = 100 * (century + 1) := by omega
    rcases hnext with hnext | hnext
    · rw [hnext]
      omega
    · omega

/-- A year in this count ends with the leap day of the year after it, if there is one. -/
theorem daysBeforeYear_succ {year : Nat} (h : year < 400) :
    daysBeforeYear (year + 1) + (if year = 399 then 1 else 0) =
      daysBeforeYear year + if isLeapYear (year + 1) then 366 else 365 := by
  have hfour : (year + 1) / 4 = year / 4 + if (year + 1) % 4 = 0 then 1 else 0 := by
    split <;> omega
  have hhundred : (year + 1) / 100 = year / 100 + if (year + 1) % 100 = 0 then 1 else 0 := by
    split <;> omega
  simp only [isLeapYear, daysBeforeYear, hfour, hhundred, Bool.and_eq_true, Bool.or_eq_true,
    decide_eq_true_eq]
  split_ifs <;> omega

/-- Where a day of a cycle falls: its year, and its number in that year. -/
structure Falls (day year dayOfYear : Nat) : Prop where
  day_eq : day = daysBeforeYear year + dayOfYear
  year_lt : year < 400
  within : dayOfYear < 365 ∨ dayOfYear = 365 ∧ isLeapYear (year + 1) = true

theorem Falls.dayOfYear_le {day year dayOfYear : Nat} (h : Falls day year dayOfYear) :
    dayOfYear ≤ 365 := by
  have hwithin := h.within
  omega

theorem isLeapYear_add_cycles (cycle year : Int) :
    isLeapYear (cycle * 400 + year) = isLeapYear year := by
  unfold isLeapYear
  have h4 : (cycle * 400 + year) % 4 = year % 4 := by omega
  have h100 : (cycle * 400 + year) % 100 = year % 100 := by omega
  have h400 : (cycle * 400 + year) % 400 = year % 400 := by omega
  rw [h4, h100, h400]

theorem falls_yearOfDay {day : Nat} (h : day < 146097) :
    Falls day (yearOfDay day) (day - daysBeforeYear (yearOfDay day)) := by
  by_cases hlast : day = 146096
  · subst hlast
    exact ⟨by decide, by decide, .inr (by decide)⟩
  · obtain ⟨hfrom, hto⟩ := daysBeforeYear_yearOfDay (show day < 146096 by omega)
    have hyear : yearOfDay day < 400 := by
      unfold yearOfDay
      omega
    refine ⟨by omega, hyear, ?_⟩
    generalize yearOfDay day = year at *
    have hnext := daysBeforeYear_succ hyear
    split_ifs at hnext with _ hleap hleap
    all_goals simp [hleap]
    all_goals omega

/-- The month, counted from March, that holds a day of the year. -/
def monthOfDay (dayOfYear : Nat) : Nat := (5 * dayOfYear + 2) / 153

theorem daysBeforeMonth_monthOfDay {dayOfYear : Nat} (h : dayOfYear ≤ 365) :
    monthOfDay dayOfYear < 12 ∧ daysBeforeMonth (monthOfDay dayOfYear) ≤ dayOfYear ∧
      dayOfYear < daysBeforeMonth (monthOfDay dayOfYear + 1) := by
  unfold monthOfDay daysBeforeMonth
  omega

/-- A date with its parts counted from March, the day of the month from zero. -/
def ofMarch (year : Int) (month day : Nat) : Date where
  year := if month < 10 then year else year + 1
  month := if month < 10 then month + 3 else month - 9
  day := day + 1

theorem ofDays_spec (days : Int) :
    ∃ (cycle : Int) (day year dayOfYear : Nat), days + 719468 = cycle * 146097 + day ∧
      Falls day year dayOfYear ∧
      ofDays days = ofMarch (cycle * 400 + year) (monthOfDay dayOfYear)
        (dayOfYear - daysBeforeMonth (monthOfDay dayOfYear)) := by
  have hday : ((days + 719468) % 146097).toNat < 146097 := by omega
  exact ⟨(days + 719468) / 146097, _, _, _, by omega, falls_yearOfDay hday, rfl⟩

theorem toDays_ofMarch {cycle : Int} {year month : Nat} (hyear : year < 400) (hmonth : month < 12)
    (day : Nat) :
    (ofMarch (cycle * 400 + year) month day).toDays =
      cycle * 146097 + (daysBeforeYear year + daysBeforeMonth month + day : Nat) - 719468 := by
  have hcycle : (cycle * 400 + (year : Int)) / 400 = cycle := by omega
  have hyearOfCycle : ((cycle * 400 + (year : Int)) % 400).toNat = year := by omega
  unfold toDays ofMarch
  by_cases hlate : month < 10
  · have hnew : ¬ month + 3 ≤ 2 := by omega
    simp only [hlate, hnew, if_true, if_false, hcycle, hyearOfCycle, Nat.add_sub_cancel]
  · have hnew : month - 9 ≤ 2 := by omega
    have hback : month - 9 + 9 = month := by omega
    simp only [hlate, hnew, if_true, if_false, Int.add_sub_cancel, hcycle, hyearOfCycle, hback,
      Nat.add_sub_cancel]

theorem toDays_ofDays (days : Int) : (ofDays days).toDays = days := by
  obtain ⟨cycle, day, year, dayOfYear, hdays, hfalls, heq⟩ := ofDays_spec days
  obtain ⟨hmonth, hfrom, -⟩ := daysBeforeMonth_monthOfDay hfalls.dayOfYear_le
  have hday := hfalls.day_eq
  rw [heq, toDays_ofMarch hfalls.year_lt hmonth]
  omega

/-- Each month but February has the days that lie between the starts of it and of the next. -/
theorem daysInMonth_ofMarch {month : Nat} (h : month < 11) (year : Int) :
    daysInMonth year (if month < 10 then month + 3 else month - 9) =
      daysBeforeMonth (month + 1) - daysBeforeMonth month := by
  interval_cases month <;> rfl

theorem isValid_ofMarch {year : Int} {month day : Nat} (hmonth : month < 12)
    (h : day < daysInMonth (if month < 10 then year else year + 1)
      (if month < 10 then month + 3 else month - 9)) :
    (ofMarch year month day).isValid = true := by
  have hfirst : 1 ≤ (ofMarch year month day).month := by
    unfold ofMarch
    dsimp only
    split <;> omega
  have hlast : (ofMarch year month day).month ≤ 12 := by
    unfold ofMarch
    dsimp only
    split <;> omega
  have hday : 1 ≤ (ofMarch year month day).day := Nat.le_add_left 1 day
  unfold isValid
  rw [decide_eq_true hfirst, decide_eq_true hlast, decide_eq_true hday]
  exact decide_eq_true h

theorem isValid_ofDays (days : Int) : (ofDays days).isValid = true := by
  obtain ⟨cycle, day, year, dayOfYear, hdays, hfalls, heq⟩ := ofDays_spec days
  obtain ⟨hmonth, hfrom, hto⟩ := daysBeforeMonth_monthOfDay hfalls.dayOfYear_le
  rw [heq]
  apply isValid_ofMarch hmonth
  generalize monthOfDay dayOfYear = month at *
  by_cases hfebruary : month = 11
  · subst hfebruary
    have hstart : daysBeforeMonth 11 = 337 := rfl
    have hleap : isLeapYear (cycle * 400 + year + 1) = isLeapYear (year + 1) := by
      rw [Int.add_assoc, isLeapYear_add_cycles]
    have hwithin := hfalls.within
    change dayOfYear - daysBeforeMonth 11 <
      if isLeapYear (cycle * 400 + year + 1) then 29 else 28
    rw [hleap, hstart]
    rcases hwithin with hwithin | ⟨rfl, hleapDay⟩
    · split <;> omega
    · rw [if_pos hleapDay]
      decide
  · rw [daysInMonth_ofMarch (by omega)]
    omega

theorem daysInMonth_le (year : Int) (month : Nat) : daysInMonth year month ≤ 31 := by
  unfold daysInMonth
  split
  · split <;> omega
  all_goals omega

theorem le_of_isValid {d : Date} (h : d.isValid = true) : d.month ≤ 12 ∧ d.day ≤ 31 := by
  simp only [isValid, Bool.and_eq_true, decide_eq_true_eq] at h
  exact ⟨h.1.1.2, h.2.trans (daysInMonth_le d.year d.month)⟩

/-- Days from the first to the last supported one have dates in the supported years. -/
theorem year_ofDays {days : Int} (hfrom : toDays ⟨-262143, 1, 1⟩ ≤ days)
    (hto : days ≤ toDays ⟨262142, 12, 31⟩) :
    -262143 ≤ (ofDays days).year ∧ (ofDays days).year ≤ 262142 := by
  obtain ⟨cycle, day, year, dayOfYear, hdays, hfalls, heq⟩ := ofDays_spec days
  have hfirst : toDays ⟨-262143, 1, 1⟩ = -96465292 := by decide
  have hlast : toDays ⟨262142, 12, 31⟩ = 95026236 := by decide
  have hday := hfalls.day_eq
  have hyear := hfalls.year_lt
  have hlength := hfalls.dayOfYear_le
  rw [hfirst] at hfrom
  rw [hlast] at hto
  rw [heq]
  unfold ofMarch monthOfDay
  unfold daysBeforeYear at hday
  dsimp only
  by_cases hcycle : cycle = -656 ∨ cycle = 655
  · split <;> omega
  · split <;> omega

end Gatehouse.Date
