import Mathlib.Tactic.IntervalCases
import WorkloadAuth.Proofs.CertificateTime

/-!
# Days of the calendar

The number of a day counts the days from the first of January 1970, and each number is that of one
day.

* `Date.next`, `Date.dayNumber_next`: the number of the day after a day is one more.
* `daysOfYears_elapsed`: the year of a cycle that a day lies in.
* `Date.valid_ofDayNumber`, `Date.dayNumber_ofDayNumber`: the day with a number.
* `Moment.ofUtc_date_time`: a moment is named by its date and its time of day.
-/

namespace WorkloadAuth.Calendar

/-! ## The day after a day -/

/-- The day after a day. -/
def Date.next (d : Date) : Date :=
  if d.day < daysInMonth d.year d.month then { d with day := d.day + 1 }
  else if d.month < 12 then ⟨d.year, d.month + 1, 1⟩
  else ⟨d.year + 1, 1, 1⟩

/-- The days in front of a year and of the year before it, which start in March, differ by the
length of the February between them. -/
theorem daysBeforeYear_eq (year : Int) :
    daysBeforeYear year =
      daysBeforeYear (year - 1) + 337 + daysInMonth year 2 := by
  have hleap : isLeapYear year = true ↔ year % 4 = 0 ∧ (year % 100 ≠ 0 ∨ year % 400 = 0) := by
    simp [isLeapYear]
  unfold daysBeforeYear
  simp only [daysInMonth]
  split
  · rename_i h
    have := hleap.1 h
    omega
  · rename_i h
    have := mt hleap.2 h
    omega

/-- January and February are counted with the year before, which starts in March. -/
theorem Date.dayNumber_of_le {year : Int} {month day : Nat} (h : month ≤ 2) :
    (Date.mk year month day).dayNumber =
      daysBeforeYear (year - 1) + (daysFromMarch month + day - 1) - 719468 := by
  rw [Date.dayNumber_eq, if_pos h]

theorem Date.dayNumber_of_lt {year : Int} {month day : Nat} (h : 2 < month) :
    (Date.mk year month day).dayNumber =
      daysBeforeYear year + (daysFromMarch month + day - 1) - 719468 := by
  rw [Date.dayNumber_eq, if_neg (by simpa using h)]

/-- The months from March on follow each other in the count of days. -/
theorem daysFromMarch_succ {year : Int} {month : Nat} (hfirst : 1 ≤ month) (hlast : month < 12)
    (hmonth : month ≠ 2) :
    daysFromMarch (month + 1) = daysFromMarch month + daysInMonth year month := by
  interval_cases month <;> first | exact absurd rfl hmonth | rfl

/-- The number of the day after a day is one more. -/
theorem Date.dayNumber_next {d : Date} (h : d.Valid) : d.next.dayNumber = d.dayNumber + 1 := by
  obtain ⟨hfirst, hlast, -⟩ := month_of_valid h
  obtain ⟨year, month, day⟩ := d
  obtain ⟨-, hday⟩ : 1 ≤ day ∧ day ≤ daysInMonth year month := h
  simp only at hfirst hlast
  have hnext : (Date.mk year month day).next =
      if day < daysInMonth year month then ⟨year, month, day + 1⟩
      else if month < 12 then ⟨year, month + 1, 1⟩
      else ⟨year + 1, 1, 1⟩ := rfl
  rw [hnext]
  split
  · simp only [Date.dayNumber_eq]
    omega
  · rename_i hend
    have hfull : day = daysInMonth year month := by omega
    have hyear := daysBeforeYear_eq year
    split
    · rename_i hbefore
      obtain rfl | rfl | hmonth : month = 1 ∨ month = 2 ∨ 2 < month := by omega
      · rw [Date.dayNumber_of_le (by decide), Date.dayNumber_of_le (by decide),
          daysFromMarch_succ hfirst hbefore (by decide), ← hfull]
        omega
      · have hmarch : daysFromMarch (2 + 1) = 0 := rfl
        have hfebruary : daysFromMarch 2 = 337 := rfl
        rw [Date.dayNumber_of_lt (by decide), Date.dayNumber_of_le (by decide), hmarch, hfebruary]
        omega
      · rw [Date.dayNumber_of_lt (by omega), Date.dayNumber_of_lt hmonth,
          daysFromMarch_succ hfirst hbefore (by omega), ← hfull]
        omega
    · rename_i hafter
      obtain rfl : month = 12 := by omega
      have hjanuary : daysFromMarch 1 = 306 := rfl
      have hdecember : daysFromMarch 12 = 275 := rfl
      have hlength : daysInMonth year 12 = 31 := rfl
      rw [Date.dayNumber_of_le (by decide), Date.dayNumber_of_lt (by decide), hjanuary, hdecember,
        Int.add_sub_cancel]
      omega

/-! ## The day with a number -/

/-- The days of a cycle of four hundred years in front of one of its years. -/
def daysOfYears (year : Int) : Int := 365 * year + year / 4 - year / 100

/-- The days of a cycle up to one of them, less the leap days. -/
def elapsed (day : Int) : Int := day - day / 1460 + day / 36524 - day / 146096

theorem elapsed_mono {m n : Int} (h : m ≤ n) : elapsed m ≤ elapsed n := by
  unfold elapsed
  omega

/-- Each year of a cycle starts when all the common days of the years before have passed. -/
theorem elapsed_daysOfYears : ∀ year : Fin 400,
    365 * (year : Int) ≤ elapsed (daysOfYears year) ∧
      ((year : Int) ≠ 0 → elapsed (daysOfYears year - 1) < 365 * (year : Int)) := by
  decide +kernel

/-- The year of a cycle that a day lies in. -/
theorem daysOfYears_elapsed {day : Int} (hfirst : 0 ≤ day) (hlast : day < 146097) :
    0 ≤ elapsed day / 365 ∧ elapsed day / 365 < 400 ∧
      daysOfYears (elapsed day / 365) ≤ day ∧
      (elapsed day / 365 < 399 → day < daysOfYears (elapsed day / 365 + 1)) := by
  have hlow : elapsed 0 ≤ elapsed day := elapsed_mono hfirst
  have hhigh : elapsed day ≤ elapsed 146096 := elapsed_mono (by omega)
  have hzero : elapsed 0 = 0 := rfl
  have htop : elapsed 146096 = 145999 := rfl
  obtain ⟨year, hyear⟩ : ∃ year : Nat, elapsed day / 365 = year :=
    ⟨_, (Int.toNat_of_nonneg (by omega)).symm⟩
  have hlt : year < 400 := by omega
  rw [hyear]
  refine ⟨by omega, by omega, ?_, fun hbefore => ?_⟩
  · by_contra hstart
    have hstart : elapsed day ≤ elapsed (daysOfYears year - 1) := elapsed_mono (by omega)
    have hzero : daysOfYears (0 : Nat) = 0 := rfl
    have hprevious : (year : Int) ≠ 0 → elapsed (daysOfYears year - 1) < 365 * (year : Int) :=
      (elapsed_daysOfYears ⟨year, hlt⟩).2
    by_cases hne : year = 0
    · subst hne
      omega
    · have := hprevious (by omega)
      omega
  · by_contra hend
    have hend : elapsed (daysOfYears (year + 1)) ≤ elapsed day := elapsed_mono (by omega)
    have hnext : 365 * ((year + 1 : Nat) : Int) ≤ elapsed (daysOfYears ((year + 1 : Nat) : Int)) :=
      (elapsed_daysOfYears ⟨year + 1, by omega⟩).1
    rw [Nat.cast_succ] at hnext
    omega

/-- The number of the month of a day of a year that starts in March. -/
def monthAt (dayOfYear : Int) : Int :=
  if (5 * dayOfYear + 2) / 153 < 10 then (5 * dayOfYear + 2) / 153 + 3
  else (5 * dayOfYear + 2) / 153 - 9

/-- The day of the month of a day of a year that starts in March. -/
def dayAt (dayOfYear : Int) : Int := dayOfYear - (153 * ((5 * dayOfYear + 2) / 153) + 2) / 5 + 1

/-- The days of a year that starts in March. -/
theorem monthAt_dayAt : ∀ dayOfYear : Fin 366,
    1 ≤ monthAt dayOfYear ∧ monthAt dayOfYear ≤ 12 ∧ 1 ≤ dayAt dayOfYear ∧
      daysFromMarch (monthAt dayOfYear).toNat + dayAt dayOfYear - 1 = (dayOfYear : Int) ∧
      (monthAt dayOfYear ≠ 2 → dayAt dayOfYear ≤ daysInMonth 0 (monthAt dayOfYear).toNat) ∧
      (monthAt dayOfYear = 2 →
        dayAt dayOfYear ≤ 29 ∧ ((dayOfYear : Int) < 365 → dayAt dayOfYear ≤ 28)) := by
  decide +kernel

/-- Only the length of February differs between years. -/
theorem daysInMonth_of_ne {month : Nat} (h : month ≠ 2) (year year' : Int) :
    daysInMonth year month = daysInMonth year' month := by
  unfold daysInMonth
  split <;> first | rfl | exact absurd rfl h

/-- A day with a number, in a cycle of four hundred years and a year that starts in March. -/
structure Placed (n cycle year dayOfYear : Int) : Prop where
  number : n + 719468 = cycle * 146097 + daysOfYears year + dayOfYear
  first : 0 ≤ year
  last : year < 400
  nonneg : 0 ≤ dayOfYear
  le : dayOfYear ≤ 365
  leap : dayOfYear = 365 → isLeapYear (year + cycle * 400 + 1) = true
  date : Date.ofDayNumber n =
    ⟨if monthAt dayOfYear ≤ 2 then year + cycle * 400 + 1 else year + cycle * 400,
      (monthAt dayOfYear).toNat, (dayAt dayOfYear).toNat⟩

/-- The years of a cycle have at most 366 days, and they have so many only if the February at their
end has a leap day. -/
theorem leap_of_length {year day : Int} (hfirst : 0 ≤ year) (hlast : year < 400)
    (hday : day < 146097) (hend : year < 399 → day < daysOfYears (year + 1)) (cycle : Int) :
    day - daysOfYears year ≤ 365 ∧
      (day - daysOfYears year = 365 → isLeapYear (year + cycle * 400 + 1) = true) := by
  simp only [isLeapYear, Bool.and_eq_true, Bool.or_eq_true, beq_iff_eq, bne_iff_ne]
  unfold daysOfYears at *
  by_cases hyear : year = 399
  · omega
  · have := hend (by omega)
    omega

theorem exists_placed (n : Int) : ∃ cycle year dayOfYear, Placed n cycle year dayOfYear := by
  have hday : 0 ≤ (n + 719468) % 146097 ∧ (n + 719468) % 146097 < 146097 := by omega
  obtain ⟨hfirst, hlast, hstart, hend⟩ := daysOfYears_elapsed hday.1 hday.2
  obtain ⟨hle, hleap⟩ := leap_of_length hfirst hlast (by omega) hend ((n + 719468) / 146097)
  exact ⟨(n + 719468) / 146097, elapsed ((n + 719468) % 146097) / 365,
    (n + 719468) % 146097 - daysOfYears (elapsed ((n + 719468) % 146097) / 365), by omega, hfirst,
    hlast, by omega, hle, hleap, rfl⟩

variable {n cycle year dayOfYear : Int}

/-- What the days of a year say of the day that is placed. -/
theorem Placed.month (h : Placed n cycle year dayOfYear) :
    1 ≤ monthAt dayOfYear ∧ monthAt dayOfYear ≤ 12 ∧ 1 ≤ dayAt dayOfYear ∧
      daysFromMarch (monthAt dayOfYear).toNat + dayAt dayOfYear - 1 = dayOfYear ∧
      (monthAt dayOfYear ≠ 2 → dayAt dayOfYear ≤ daysInMonth 0 (monthAt dayOfYear).toNat) ∧
      (monthAt dayOfYear = 2 →
        dayAt dayOfYear ≤ 29 ∧ (dayOfYear < 365 → dayAt dayOfYear ≤ 28)) := by
  obtain ⟨day, rfl⟩ : ∃ day : Nat, dayOfYear = day := ⟨_, (Int.toNat_of_nonneg h.nonneg).symm⟩
  have hle := h.le
  exact monthAt_dayAt ⟨day, by omega⟩

/-- The date with a number exists. -/
theorem Date.valid_ofDayNumber (n : Int) : (Date.ofDayNumber n).Valid := by
  obtain ⟨cycle, year, dayOfYear, h⟩ := exists_placed n
  obtain ⟨hjanuary, hdecember, hfirst, -, hmonth, hfebruary⟩ := h.month
  rw [h.date]
  refine ⟨show 1 ≤ (dayAt dayOfYear).toNat by omega, ?_⟩
  show (dayAt dayOfYear).toNat ≤ daysInMonth (if monthAt dayOfYear ≤ 2 then
    year + cycle * 400 + 1 else year + cycle * 400) (monthAt dayOfYear).toNat
  by_cases htwo : monthAt dayOfYear = 2
  · obtain ⟨hlong, hshort⟩ := hfebruary htwo
    have hlength (year : Int) : daysInMonth year 2 = if isLeapYear year then 29 else 28 := rfl
    rw [htwo, if_pos (by omega), show (2 : Int).toNat = 2 from rfl, hlength]
    split
    · omega
    · rename_i hcommon
      have hle := h.le
      have hne : dayOfYear ≠ 365 := fun hend => hcommon (h.leap hend)
      have := hshort (by omega)
      omega
  · have := hmonth htwo
    rw [daysInMonth_of_ne (by omega) _ 0]
    omega

/-- The date with a number has this number. -/
theorem Date.dayNumber_ofDayNumber (n : Int) : (Date.ofDayNumber n).dayNumber = n := by
  obtain ⟨cycle, year, dayOfYear, h⟩ := exists_placed n
  obtain ⟨hjanuary, hdecember, hfirst, hday, -⟩ := h.month
  have hnumber := h.number
  have hyear := h.first
  have hlast := h.last
  have hcycle : daysBeforeYear (year + cycle * 400) = cycle * 146097 + daysOfYears year := by
    unfold daysBeforeYear daysOfYears
    omega
  have hdayAt : ((dayAt dayOfYear).toNat : Int) = dayAt dayOfYear := Int.toNat_of_nonneg (by omega)
  rw [h.date]
  by_cases hmonth : monthAt dayOfYear ≤ 2
  · rw [if_pos hmonth, Date.dayNumber_of_le (by omega), Int.add_sub_cancel, hcycle, hdayAt, hday]
    omega
  · rw [if_neg hmonth, Date.dayNumber_of_lt (by omega), hcycle, hdayAt, hday]
    omega

/-! ## The date and the time of a moment -/

/-- The time of day of a moment exists. -/
theorem Moment.valid_time (m : Moment) : m.time.Valid := by
  have hseconds : (m.localSeconds % secondsPerDay).toNat < 86400 := by
    rw [secondsPerDay]
    omega
  have hsubsecond : m.subsecond < 1000000000 := by
    rw [Moment.subsecond, nanosPerSecond]
    omega
  exact ⟨Nat.div_lt_of_lt_mul hseconds, Nat.mod_lt _ (by decide), Nat.mod_lt _ (by decide),
    hsubsecond⟩

/-- The seconds of a time of day are those since midnight. -/
theorem Moment.seconds_time (m : Moment) : m.time.seconds = m.localSeconds % secondsPerDay := by
  simp only [TimeOfDay.seconds, Moment.time, secondsPerDay]
  omega

/-- A moment in UTC is named by its date and its time of day. -/
theorem Moment.ofUtc_date_time {m : Moment} (h : m.offset = 0) :
    Moment.ofUtc m.date m.time = m := by
  have hdays : m.date.dayNumber * secondsPerDay + m.time.seconds = m.unixSeconds := by
    rw [Moment.date, Date.dayNumber_ofDayNumber, Moment.seconds_time, Moment.localSeconds, h,
      Int.add_zero, Int.mul_comm, Int.mul_ediv_add_emod]
  have hnanos : m.unixSeconds * nanosPerSecond + m.time.nanosecond = m.nanos := by
    simp only [Moment.unixSeconds, Moment.time, Moment.subsecond, nanosPerSecond]
    omega
  obtain ⟨nanos, offset⟩ := m
  obtain rfl : offset = 0 := h
  rw [Moment.ofUtc, hdays, hnanos]

end WorkloadAuth.Calendar
