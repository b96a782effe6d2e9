/-! The proleptic Gregorian calendar. Days are counted from 1970-01-01; years are counted from
March, so a leap day ends its year, and repeat every 400 years of 146097 days. -/
namespace Gatehouse

structure Date where
  year : Int
  month : Nat
  day : Nat
deriving DecidableEq

namespace Date

def isLeapYear (year : Int) : Bool :=
  year % 4 = 0 && (year % 100 ≠ 0 || year % 400 = 0)

def daysInMonth (year : Int) (month : Nat) : Nat :=
  match month with
  | 2 => if isLeapYear year then 29 else 28
  | 4 | 6 | 9 | 11 => 30
  | _ => 31

def isValid (d : Date) : Bool :=
  1 ≤ d.month && d.month ≤ 12 && 1 ≤ d.day && d.day ≤ daysInMonth d.year d.month

/-- Days from the first of March of a year to the first of its month number `m`, counting March
as zero. -/
def daysBeforeMonth (m : Nat) : Nat := (153 * m + 2) / 5

/-- Days from the first of March of year 0 to the first of March of year `y` of a cycle. -/
def daysBeforeYear (y : Nat) : Nat := 365 * y + y / 4 - y / 100

def toDays (d : Date) : Int :=
  let year := if d.month ≤ 2 then d.year - 1 else d.year
  let month := if d.month ≤ 2 then d.month + 9 else d.month - 3
  let cycle := year / 400
  let yearOfCycle := (year % 400).toNat
  cycle * 146097 + (daysBeforeYear yearOfCycle + daysBeforeMonth month + (d.day - 1) : Nat) - 719468

def ofDays (days : Int) : Date :=
  let shifted := days + 719468
  let cycle := shifted / 146097
  let dayOfCycle := (shifted % 146097).toNat
  let yearOfCycle :=
    (dayOfCycle - dayOfCycle / 1460 + dayOfCycle / 36524 - dayOfCycle / 146096) / 365
  let dayOfYear := dayOfCycle - daysBeforeYear yearOfCycle
  let month := (5 * dayOfYear + 2) / 153
  let year := cycle * 400 + yearOfCycle
  { year := if month < 10 then year else year + 1
    month := if month < 10 then month + 3 else month - 9
    day := dayOfYear - daysBeforeMonth month + 1 }

example : toDays ⟨1970, 1, 1⟩ = 0 ∧ ofDays 0 = ⟨1970, 1, 1⟩ := by decide
example : ofDays (toDays ⟨2024, 2, 29⟩) = ⟨2024, 2, 29⟩ := by decide

end Date

end Gatehouse
