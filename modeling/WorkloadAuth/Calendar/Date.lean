/-!
# Dates

The proleptic Gregorian calendar with astronomical years (the year before 1 is 0), and the count
of days that places a date on the time line.

* `isLeapYear`, `daysInMonth`: the lengths of years and months.
* `Date`, `Date.Valid`: a year, a month and a day, and when that day exists.
* `Date.dayNumber`: the days from the first of January 1970 to a date.
* `Date.ofDayNumber`: the date with a given day number.
-/

namespace WorkloadAuth.Calendar

/-- Every fourth year is a leap year, except for the centuries that four hundred does not
divide. -/
def isLeapYear (year : Int) : Bool :=
  year % 4 == 0 && (year % 100 != 0 || year % 400 == 0)

/-- The number of days of a month; zero for a month that does not exist. -/
def daysInMonth (year : Int) (month : Nat) : Nat :=
  match month with
  | 1 | 3 | 5 | 7 | 8 | 10 | 12 => 31
  | 4 | 6 | 9 | 11 => 30
  | 2 => if isLeapYear year then 29 else 28
  | _ => 0

/-- A day of the calendar, or a combination of numbers that names none. -/
structure Date where
  year : Int
  month : Nat
  day : Nat
  deriving DecidableEq, Repr

/-- The day exists in that month of that year. -/
def Date.Valid (d : Date) : Prop := 1 ≤ d.day ∧ d.day ≤ daysInMonth d.year d.month

instance (d : Date) : Decidable d.Valid := inferInstanceAs (Decidable (_ ∧ _))

/-- The date, if it exists. -/
def Date.ofParts? (year : Int) (month day : Nat) : Option Date :=
  let date : Date := ⟨year, month, day⟩
  if date.Valid then some date else none

/-- The days of a common year before a month starts, counting from March, so that the leap day
comes last. -/
def daysFromMarch (month : Nat) : Int := (153 * ((month + 9) % 12 : Nat) + 2) / 5

/-- The days from the first of January 1970 to the date. Years are taken to start in March, in
cycles of four hundred years of 146097 days. -/
def Date.dayNumber (d : Date) : Int :=
  let year := if d.month ≤ 2 then d.year - 1 else d.year
  let cycle := year / 400
  let yearOfCycle := year % 400
  let dayOfYear := daysFromMarch d.month + d.day - 1
  let dayOfCycle := yearOfCycle * 365 + yearOfCycle / 4 - yearOfCycle / 100 + dayOfYear
  cycle * 146097 + dayOfCycle - 719468

/-- The date that a number of days after the first of January 1970 is. -/
def Date.ofDayNumber (n : Int) : Date :=
  let shifted := n + 719468
  let cycle := shifted / 146097
  let dayOfCycle := shifted % 146097
  let yearOfCycle :=
    (dayOfCycle - dayOfCycle / 1460 + dayOfCycle / 36524 - dayOfCycle / 146096) / 365
  let dayOfYear := dayOfCycle - (365 * yearOfCycle + yearOfCycle / 4 - yearOfCycle / 100)
  let monthFromMarch := (5 * dayOfYear + 2) / 153
  let day := dayOfYear - (153 * monthFromMarch + 2) / 5 + 1
  let month := if monthFromMarch < 10 then monthFromMarch + 3 else monthFromMarch - 9
  let year := yearOfCycle + cycle * 400
  ⟨if month ≤ 2 then year + 1 else year, month.toNat, day.toNat⟩

end WorkloadAuth.Calendar
