import WorkloadAuth.Certificate

/-!
# Times of certificates

* `Calendar.dayNumber_le`, `Calendar.le_dayNumber`: the days of the years from 0 to 9999.
* `Calendar.dayNumber_nonneg`: those of the years from 1970 on.
* `Moment.InYears`: an instant lies in the years of the calendar.
* `Certificate.inYears_of_timeAt?`: all times that can be read in a certificate do.
* `Calendar.inCalendar_of_between`: so the calendar has a date for each second within the validity
  of a certificate.
-/

namespace WorkloadAuth

namespace Calendar

/-! ## Days of the calendar -/

theorem month_of_valid {d : Date} (h : d.Valid) : 1 ≤ d.month ∧ d.month ≤ 12 ∧ d.day ≤ 31 := by
  obtain ⟨hfirst, hlast⟩ := h
  unfold daysInMonth at hlast
  split at hlast <;> first | (split at hlast <;> omega) | omega

theorem daysFromMarch_bounds (month : Nat) :
    0 ≤ daysFromMarch month ∧ daysFromMarch month ≤ 337 := by
  unfold daysFromMarch
  omega

/-- The days of all years in front of one, which start in March. -/
def daysBeforeYear (year : Int) : Int :=
  year / 400 * 146097 + (year % 400 * 365 + year % 400 / 4 - year % 400 / 100)

theorem Date.dayNumber_eq (d : Date) :
    d.dayNumber = daysBeforeYear (if d.month ≤ 2 then d.year - 1 else d.year) +
      (daysFromMarch d.month + d.day - 1) - 719468 := by
  simp only [Date.dayNumber, daysBeforeYear]
  omega

theorem daysBeforeYear_le {year : Int} (h : year ≤ 9999) :
    daysBeforeYear year + 365 * (9999 - year) ≤ 3652059 := by
  unfold daysBeforeYear
  omega

/-- No day of the years up to 9999 comes after the last one. -/
theorem dayNumber_le {d : Date} (h : d.Valid) (hyear : d.year ≤ 9999) :
    d.dayNumber + 365 * (9999 - d.year) ≤ 2932896 := by
  obtain ⟨hfirst, hlast, hday⟩ := month_of_valid h
  rw [Date.dayNumber_eq]
  split
  · have hyears := daysBeforeYear_le (show d.year - 1 ≤ 9999 by omega)
    have hmonths := (daysFromMarch_bounds d.month).2
    omega
  · have hyears := daysBeforeYear_le hyear
    have hmonths : daysFromMarch d.month ≤ 275 := by
      unfold daysFromMarch
      omega
    omega

theorem le_dayNumber {d : Date} (h : d.Valid) (hyear : 0 ≤ d.year) : -1000000 ≤ d.dayNumber := by
  have hday := h.1
  have hmonth := daysFromMarch_bounds d.month
  unfold Date.dayNumber
  simp only
  split <;> omega

theorem le_daysBeforeYear {year : Int} (h : 1969 ≤ year) :
    719162 + 365 * (year - 1969) ≤ daysBeforeYear year := by
  unfold daysBeforeYear
  omega

/-- No day of the years from 1970 on comes before the first one. -/
theorem dayNumber_nonneg {d : Date} (h : d.Valid) (hyear : 1970 ≤ d.year) : 0 ≤ d.dayNumber := by
  obtain ⟨hfirst, hlast, -⟩ := month_of_valid h
  have hday := h.1
  rw [Date.dayNumber_eq]
  split
  · have hyears := le_daysBeforeYear (show 1969 ≤ d.year - 1 by omega)
    have hmonths : 306 ≤ daysFromMarch d.month := by
      unfold daysFromMarch
      omega
    omega
  · have hyears := le_daysBeforeYear (show 1969 ≤ d.year by omega)
    have hmonths := (daysFromMarch_bounds d.month).1
    omega

/-- An instant lies in the years of the calendar, in UTC. -/
def Moment.InYears (m : Moment) : Prop :=
  Moment.firstSecond * nanosPerSecond ≤ m.nanos ∧
    m.nanos < (Moment.lastSecond + 1) * nanosPerSecond

/-- The calendar has each whole second between two instants in its years. -/
theorem inCalendar_of_between {first last : Moment} (hfirst : first.InYears) (hlast : last.InYears)
    {second : Int} (hle : first.nanos ≤ second * nanosPerSecond)
    (hge : second * nanosPerSecond ≤ last.nanos) :
    Moment.InCalendar ⟨second * nanosPerSecond, 0⟩ := by
  obtain ⟨hfirst, -⟩ := hfirst
  obtain ⟨-, hlast⟩ := hlast
  simp only [nanosPerSecond] at hle hge hfirst hlast
  simp only [Moment.InCalendar, Moment.localSeconds, Moment.unixSeconds, nanosPerSecond]
  omega

end Calendar

namespace Certificate

open Calendar

/-! ## Times of certificates -/

theorem pair?_le {a b : UInt8} {n : Nat} (h : pair? a b = some n) : n ≤ 99 := by
  have hdigit {c : UInt8} {x : Nat}
      (hx : (if (0x30 ≤ c && c ≤ 0x39) = true then some (c.toNat - 0x30) else none) = some x) :
      x ≤ 9 := by
    split at hx
    · rename_i hc
      have hle : c.toNat ≤ 0x39 := by
        simpa [UInt8.le_iff_toNat_le] using (Bool.and_eq_true_iff.1 hc).2
      cases hx
      omega
    · cases hx
  simp only [pair?, Option.bind_eq_bind, Option.bind_eq_some_iff] at h
  obtain ⟨x, hx, y, hy, h⟩ := h
  have hx := hdigit hx
  have hy := hdigit hy
  cases h
  omega

theorem pairs?_le {count : Nat} {bytes rest : List UInt8} {ns : List Nat}
    (h : pairs? count bytes = some (ns, rest)) : ∀ n ∈ ns, n ≤ 99 := by
  induction count generalizing bytes ns with
  | zero =>
    cases h
    exact fun n hn => absurd hn List.not_mem_nil
  | succ count ih =>
    match bytes with
    | [] => cases h
    | [_] => cases h
    | a :: b :: bytes =>
      simp only [pairs?, Option.bind_eq_bind, Option.bind_eq_some_iff] at h
      obtain ⟨n, hn, ⟨ns', rest'⟩, hrest, h⟩ := h
      cases h
      exact List.forall_mem_cons.2 ⟨pair?_le hn, ih hrest⟩

/-- An offset from UTC is less than two days. -/
theorem zone?_bounds {bytes : List UInt8} {offset : Int} (h : zone? bytes = some offset) :
    -secondsPerDay * 2 < offset ∧ offset < secondsPerDay * 2 := by
  unfold zone? at h
  split at h
  · cases h
    decide
  · simp only [Option.bind_eq_bind, Option.bind_eq_some_iff] at h
    obtain ⟨hours, -, minutes, -, h⟩ := h
    simp only [secondsPerDay]
    split at h
    · split at h
      · cases h
        omega
      · split at h
        · cases h
          split <;> omega
        · cases h
    · cases h
  · cases h

theorem inYears_of_instant? {year month day hour minute second nanosecond : Nat} {offset : Int}
    {m : Moment} (h : instant? year month day hour minute second nanosecond offset = some m)
    (hyear : year ≤ 9999) (hzone : offset = 0 ∨ year ≤ 2049)
    (hoffset : -secondsPerDay * 2 < offset ∧ offset < secondsPerDay * 2) : m.InYears := by
  unfold instant? at h
  simp only at h
  split at h
  · rename_i hvalid
    cases h
    obtain ⟨hdate, hhour, hminute, hsecond, hnano⟩ := hvalid
    have hle := dayNumber_le hdate (by simp only; omega)
    have hge := le_dayNumber hdate (by simp only; omega)
    simp only [Moment.InYears, Moment.ofUtc, TimeOfDay.seconds, nanosPerSecond, secondsPerDay,
      Moment.firstSecond, Moment.lastSecond] at *
    omega
  · cases h

theorem inYears_of_utcTime? {bytes : List UInt8} {m : Moment} (h : utcTime? bytes = some m) :
    m.InYears := by
  unfold utcTime? at h
  split at h
  · rename_i hpairs
    have hyear := pairs?_le hpairs _ List.mem_cons_self
    simp only [Option.bind_eq_bind, Option.bind_eq_some_iff] at h
    obtain ⟨⟨second, rest⟩, -, offset, hoffset, h⟩ := h
    exact inYears_of_instant? h (by split <;> omega) (.inr (by split <;> omega))
      (zone?_bounds hoffset)
  · cases h

theorem inYears_of_generalizedTime? {bytes : List UInt8} {m : Moment}
    (h : generalizedTime? bytes = some m) : m.InYears := by
  unfold generalizedTime? at h
  split at h
  · rename_i hpairs
    have hcentury := pairs?_le hpairs _ List.mem_cons_self
    have hyear := pairs?_le hpairs _ (List.mem_cons_of_mem _ List.mem_cons_self)
    simp only [Option.bind_eq_bind, Option.bind_eq_some_iff] at h
    obtain ⟨⟨second, rest⟩, -, ⟨nanosecond, rest'⟩, -, h⟩ := h
    split at h
    · exact inYears_of_instant? h (by omega) (.inl rfl) (by decide)
    · cases h
  · cases h

theorem inYears_of_timeAt? {bytes rest : List UInt8} {m : Moment}
    (h : timeAt? bytes = some (m, rest)) : m.InYears := by
  unfold timeAt? at h
  split at h
  · split at h
    · obtain ⟨m', hm, heq⟩ := Option.map_eq_some_iff.1 h
      cases heq
      exact inYears_of_utcTime? hm
    · split at h
      · obtain ⟨m', hm, heq⟩ := Option.map_eq_some_iff.1 h
        cases heq
        exact inYears_of_generalizedTime? hm
      · cases h
  · cases h

theorem Inspected.inYears_of_toBeSigned? {bytes : List UInt8} {inspected : Inspected}
    (h : toBeSigned? bytes = some inspected) :
    inspected.notBefore.InYears ∧ inspected.notAfter.InYears := by
  simp only [toBeSigned?, Option.bind_eq_bind, Option.bind_eq_some_iff, Prod.exists,
    Option.some.injEq] at h
  -- Version, serial number, algorithm and issuer stand in front of the validity.
  obtain ⟨_, _, _, _, _, _, _, _, _, _, _, _, _, notBefore, after, hbefore, notAfter, _, hafter,
    hrest⟩ := h
  obtain ⟨_, _, _, _, _, _, _, _, _, _, _, _, _, _, _, _, _, _, rfl⟩ := hrest
  exact ⟨inYears_of_timeAt? hbefore, inYears_of_timeAt? hafter⟩

theorem Inspected.exists_of_next? {bytes rest : List UInt8} {inspected : Inspected}
    (h : next? bytes = some (inspected, rest)) : ∃ signed, toBeSigned? signed = some inspected := by
  simp only [next?, Option.bind_eq_bind, Option.bind_eq_some_iff, Prod.exists, Option.some.injEq,
    Prod.mk.injEq] at h
  obtain ⟨_, _, _, signed, _, _, found, hsigned, _, _, _, _, _, _, rfl, _⟩ := h
  exact ⟨signed.content, hsigned⟩

/-- Both ends of the validity of a certificate lie in the years of the calendar. -/
theorem inYears_of_inspect {c : Certificate} {inspected : Inspected}
    (h : c.inspect = .ok inspected) :
    inspected.notBefore.InYears ∧ inspected.notAfter.InYears := by
  unfold inspect at h
  split at h
  · rename_i hread
    cases h
    obtain ⟨signed, hsigned⟩ := Inspected.exists_of_next? hread
    exact Inspected.inYears_of_toBeSigned? hsigned
  · cases h

end Certificate

end WorkloadAuth
