import WorkloadAuth.Calendar.Moment
import WorkloadAuth.Text.Blank

/-!
# Signing times

The time a login request was signed at, as its client wrote it. Three forms are read, and every
time is taken to be in UTC:

1. `2006-01-02T15:04:05Z`;
2. the same with a fraction of a second before the `Z`, of which nine digits count and at most
   `maxDigits` are read;
3. what `date` prints in a shell, `Mon Jan 2 15:04:05 MST 2006`: six words, of which the name of
   the weekday is not compared with the date and the name of the zone is not looked up.

* `SigningTime.parse?`: the moment a text names.
-/

namespace WorkloadAuth.SigningTime

open Calendar Text

/-- A number of exactly `width` digits. -/
def number? (width : Nat) (cs : List Char) : Option Nat :=
  if cs.length = width ∧ cs.all isDigit then some (decimalValue cs) else none

/-- A year: four digits with an optional sign. -/
def year? : List Char → Option Int
  | '+' :: digits => (number? 4 digits).map Int.ofNat
  | '-' :: digits => (number? 4 digits).map fun n => -Int.ofNat n
  | digits => (number? 4 digits).map Int.ofNat

/-- A time of day to the second, `HH:MM:SS`, with a fraction of a second taken from elsewhere. -/
def clock? (cs : List Char) (nanosecond : Nat) : Option TimeOfDay :=
  match cs with
  | [h₁, h₂, ':', m₁, m₂, ':', s₁, s₂] => do
    let hour ← number? 2 [h₁, h₂]
    let minute ← number? 2 [m₁, m₂]
    let second ← number? 2 [s₁, s₂]
    let time : TimeOfDay := ⟨hour, minute, second, nanosecond⟩
    if time.Valid then some time else none
  | _ => none

/-- The numerical form of a date: a year, a two digit month and a two digit day with hyphens
between them. -/
def isoDate? (cs : List Char) : Option Date :=
  match cs.reverse with
  | d₂ :: d₁ :: '-' :: m₂ :: m₁ :: '-' :: year => do
    let year ← year? year.reverse
    let month ← number? 2 [m₁, m₂]
    let day ← number? 2 [d₁, d₂]
    Date.ofParts? year month day
  | _ => none

/-- The nanoseconds that the digits of a fraction denote; digits after the ninth are dropped. -/
def nanoseconds (digits : List Char) : Nat :=
  decimalValue ((digits ++ List.replicate 9 '0').take 9)

/-- How many digits of a fraction are read. -/
def maxDigits : Nat := 32

/-- What follows the seconds in the numerical forms: `Z`, or a point, digits and `Z`. -/
def fraction? : List Char → Option Nat
  | ['Z'] => some 0
  | '.' :: rest =>
    let digits := rest.takeWhile isDigit
    if 1 ≤ digits.length && digits.length ≤ maxDigits && rest.dropWhile isDigit == ['Z'] then
      some (nanoseconds digits)
    else none
  | _ => none

/-- The first two forms. -/
def iso? (cs : List Char) : Option Moment := do
  let date ← isoDate? (cs.takeWhile (· != 'T'))
  match cs.dropWhile (· != 'T') with
  | _ :: rest =>
    let nanosecond ← fraction? (rest.drop 8)
    let time ← clock? (rest.take 8) nanosecond
    some (Moment.ofUtc date time)
  | [] => none

/-- The names of the weekdays. -/
def weekdays : List String := ["Mon", "Tue", "Wed", "Thu", "Fri", "Sat", "Sun"]

/-- The names of the months, in order. -/
def months : List String :=
  ["Jan", "Feb", "Mar", "Apr", "May", "Jun", "Jul", "Aug", "Sep", "Oct", "Nov", "Dec"]

/-- The number of the month with a given name. -/
def month? (name : List Char) : Option Nat :=
  (months.findIdx? (· == String.ofList name)).map (· + 1)

/-- A word that stands for a time zone: three to five ASCII letters. -/
def isZone (word : List Char) : Bool :=
  3 ≤ word.length && word.length ≤ 5 && word.all Char.isAlpha

/-- A day of the month, of one or two digits. -/
def day? (word : List Char) : Option Nat :=
  if word.length = 1 then number? 1 word else number? 2 word

/-- The third form (`parse_shell_time`). -/
def shell? (cs : List Char) : Option Moment :=
  match words cs with
  | [weekday, month, day, clock, zone, year] =>
    if weekdays.contains (String.ofList weekday) && isZone zone then do
      let year ← year? year
      let month ← month? month
      let day ← day? day
      let date ← Date.ofParts? year month day
      let time ← clock? clock 0
      some (Moment.ofUtc date time)
    else none
  | _ => none

/-- The moment that a signing time names, if it is written in one of the three forms
(`parse_signing_time`). -/
def parse? (raw : String) : Option Moment :=
  (iso? raw.toList).or (shell? raw.toList)

end WorkloadAuth.SigningTime
