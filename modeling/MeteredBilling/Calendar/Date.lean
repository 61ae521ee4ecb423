/-!
# Dates

The proleptic Gregorian calendar. A day is its number counted from 1 January of year 0; a year is
found from its first day, which `firstDay` gives in closed form.
-/

namespace MeteredBilling.Calendar

def isLeapYear (year : Int) : Bool := year % 4 == 0 && (year % 100 != 0 || year % 400 == 0)

/-- The number of 1 January of `year`. -/
def firstDay (year : Int) : Int :=
  365 * year + (year + 3) / 4 - (year + 99) / 100 + (year + 399) / 400

/-- The days of a year before each of its months. -/
def daysBefore (leap : Bool) : Nat → Nat
  | 1 => 0
  | 2 => 31
  | month => [59, 90, 120, 151, 181, 212, 243, 273, 304, 334].getD (month - 3) 365 + leap.toNat

def daysIn (leap : Bool) (month : Nat) : Nat := daysBefore leap (month + 1) - daysBefore leap month

/-- The year that holds a day: an estimate from the mean length of a year, put right by a step. -/
def yearOf (day : Int) : Int :=
  let year := day * 400 / 146097
  if day < firstDay year then year - 1
  else if firstDay (year + 1) ≤ day then year + 1
  else year

/-- The last month of `1, …, 12` that starts on or before a day of the year, counted from 0. -/
def monthOf (leap : Bool) (dayOfYear : Nat) : Nat :=
  ((List.range 12).filter fun i => daysBefore leap (i + 1) ≤ dayOfYear).length

structure Date where
  year : Int
  month : Nat
  day : Nat
  deriving DecidableEq, Repr

namespace Date

/-- The first of the years that are kept. -/
def firstYear : Int := -262143

/-- The last of the years that are kept. -/
def lastYear : Int := 262142

def isValid (d : Date) : Bool :=
  firstYear ≤ d.year && d.year ≤ lastYear && 1 ≤ d.month && d.month ≤ 12 &&
    1 ≤ d.day && d.day ≤ daysIn (isLeapYear d.year) d.month

def number (d : Date) : Int :=
  firstDay d.year + daysBefore (isLeapYear d.year) d.month + (d.day - 1 : Nat)

def ofNumber (n : Int) : Date :=
  let year := yearOf n
  let leap := isLeapYear year
  let dayOfYear := (n - firstDay year).toNat
  let month := monthOf leap dayOfYear
  ⟨year, month, dayOfYear - daysBefore leap month + 1⟩

end Date
end MeteredBilling.Calendar
