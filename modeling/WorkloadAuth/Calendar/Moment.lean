import WorkloadAuth.Calendar.Date
import WorkloadAuth.Text.Hex

/-!
# Moments

An instant with nanoseconds, written in some offset from UTC.

* `Moment`: the instant and the offset it is shown in. Two moments of one instant may differ in
  their offset; only their instants are compared.
* `Moment.ofUtc`: the instant that a date and a time of day name in UTC.
* `Moment.InCalendar`: the local date lies in the years -9999 to 9999.
* `Moment.add?`: a moment moved by some time, if it stays in the calendar.
* `Moment.render`: the local date, the time of day and the offset as text.
-/

namespace WorkloadAuth.Calendar

/-- Nanoseconds of a second. -/
def nanosPerSecond : Int := 1000000000

/-- Seconds of a day. -/
def secondsPerDay : Int := 86400

/-- A time of day with nanoseconds. -/
structure TimeOfDay where
  hour : Nat
  minute : Nat
  second : Nat
  nanosecond : Nat
  deriving DecidableEq, Repr

/-- The time of day exists: leap seconds do not. -/
def TimeOfDay.Valid (t : TimeOfDay) : Prop :=
  t.hour < 24 ∧ t.minute < 60 ∧ t.second < 60 ∧ t.nanosecond < 1000000000

instance (t : TimeOfDay) : Decidable t.Valid := inferInstanceAs (Decidable (_ ∧ _))

/-- The whole seconds since midnight. -/
def TimeOfDay.seconds (t : TimeOfDay) : Int :=
  ((t.hour * 60 + t.minute) * 60 + t.second : Nat)

/-- An instant, and the offset from UTC in which it is shown. -/
structure Moment where
  /-- Nanoseconds since the start of 1970 in UTC. -/
  nanos : Int
  /-- Seconds that local time is ahead of UTC. -/
  offset : Int
  deriving DecidableEq, Repr

namespace Moment

/-- The instant of a date and a time of day in UTC. -/
def ofUtc (date : Date) (time : TimeOfDay) : Moment where
  nanos := (date.dayNumber * secondsPerDay + time.seconds) * nanosPerSecond + time.nanosecond
  offset := 0

/-- The whole seconds since the start of 1970, rounded down. -/
def unixSeconds (m : Moment) : Int := m.nanos / nanosPerSecond

/-- The nanoseconds beyond the whole second. -/
def subsecond (m : Moment) : Nat := (m.nanos % nanosPerSecond).toNat

/-- The seconds from the start of 1970 to the moment on a clock that shows local time. -/
def localSeconds (m : Moment) : Int := m.unixSeconds + m.offset

/-- The local date. -/
def date (m : Moment) : Date := Date.ofDayNumber (m.localSeconds / secondsPerDay)

/-- The local time of day. -/
def time (m : Moment) : TimeOfDay :=
  let seconds := (m.localSeconds % secondsPerDay).toNat
  ⟨seconds / 3600, seconds / 60 % 60, seconds % 60, m.subsecond⟩

/-- The first second of the year -9999, counted from the start of 1970. -/
def firstSecond : Int := -377705116800

/-- The last second of the year 9999, counted from the start of 1970. -/
def lastSecond : Int := 253402300799

/-- The local date lies in the years -9999 to 9999. -/
def InCalendar (m : Moment) : Prop := firstSecond ≤ m.localSeconds ∧ m.localSeconds ≤ lastSecond

instance (m : Moment) : Decidable m.InCalendar := inferInstanceAs (Decidable (_ ∧ _))

/-- The moment some nanoseconds later, if the calendar still has a date for it. -/
def add? (m : Moment) (nanos : Int) : Option Moment :=
  let later : Moment := { m with nanos := m.nanos + nanos }
  if later.InCalendar then some later else none

/-- A number of nanoseconds as the fraction of a second, without zeros at its end but with one
digit at least. -/
def fraction (nanos : Nat) : List Char :=
  let digits := ((Text.decimalPadded 9 nanos).reverse.dropWhile (· == '0')).reverse
  if digits.isEmpty then ['0'] else digits

/-- A date with four digits of the year, and a minus in front of years before 0. -/
def renderDate (d : Date) : List Char :=
  (if d.year < 0 then ['-'] else []) ++ Text.decimalPadded 4 d.year.natAbs ++ '-' ::
    Text.decimalPadded 2 d.month ++ '-' :: Text.decimalPadded 2 d.day

/-- A time of day; the hour is not padded. -/
def renderTime (t : TimeOfDay) : List Char :=
  Text.decimal t.hour ++ ':' :: Text.decimalPadded 2 t.minute ++ ':' ::
    Text.decimalPadded 2 t.second ++ '.' :: fraction t.nanosecond

/-- An offset from UTC with its sign, hours, minutes and seconds. -/
def renderOffset (offset : Int) : List Char :=
  let n := offset.natAbs
  (if offset < 0 then '-' else '+') :: Text.decimalPadded 2 (n / 3600) ++ ':' ::
    Text.decimalPadded 2 (n / 60 % 60) ++ ':' :: Text.decimalPadded 2 (n % 60)

/-- The local date, the local time of day and the offset, separated by spaces. -/
def render (m : Moment) : String :=
  String.ofList (renderDate m.date ++ ' ' :: renderTime m.time ++ ' ' :: renderOffset m.offset)

end Moment

end WorkloadAuth.Calendar
