import Mathlib.Data.List.Nodup
import WorkloadAuth.Proofs.Digits
import WorkloadAuth.SigningTime

/-!
# The fields of a signing time

The texts that a year, a date, a time of day and a fraction of a second are read from.

* `WritesYear`, `WritesDate`, `WritesClock`, `WritesMonth`, `WritesDay`: what the fields look like;
  `year?_eq_some_iff` and its siblings: they are read from these texts and from no others.
* `nanoseconds_eq`: digits after the ninth are dropped from a fraction.
-/

namespace WorkloadAuth.SigningTime

open Calendar Text

/-! ## Numbers -/

/-- A number is written in so many digits. -/
structure Digits (width n : Nat) (cs : List Char) : Prop where
  length : cs.length = width
  all : ∀ c ∈ cs, isDigit c = true
  value : decimalValue cs = n

variable {cs : List Char}

theorem number?_eq_some_iff {width n : Nat} : number? width cs = some n ↔ Digits width n cs := by
  have hall : cs.all isDigit = true ↔ ∀ c ∈ cs, isDigit c = true := List.all_eq_true
  rw [number?]
  constructor
  · intro h
    split at h
    · rename_i hcs
      exact ⟨hcs.1, hall.1 hcs.2, Option.some.inj h⟩
    · exact absurd h (by simp)
  · intro h
    rw [if_pos ⟨h.length, hall.2 h.all⟩, h.value]

theorem digits_decimalPadded {width n : Nat} (hwidth : 0 < width) (h : n < 10 ^ width) :
    Digits width n (decimalPadded width n) :=
  ⟨length_decimalPadded hwidth h, fun _ => isDigit_of_mem_decimalPadded,
    decimalValue_decimalPadded width n⟩

theorem Digits.exists_pair {n : Nat} (h : Digits 2 n cs) : ∃ a b, cs = [a, b] :=
  List.length_eq_two.1 h.length

/-! ## Dates -/

/-- A year is written with four digits and an optional sign. -/
inductive WritesYear : Int → List Char → Prop where
  | unsigned {n : Nat} {cs : List Char} (h : Digits 4 n cs) : WritesYear n cs
  | plus {n : Nat} {cs : List Char} (h : Digits 4 n cs) : WritesYear n ('+' :: cs)
  | minus {n : Nat} {cs : List Char} (h : Digits 4 n cs) : WritesYear (-n) ('-' :: cs)

/-- Four digits are read as a year whatever their first one is. -/
theorem year?_of_digits {n : Nat} (h : Digits 4 n cs) : year? cs = some n := by
  have hnumber : number? 4 cs = some n := number?_eq_some_iff.2 h
  unfold year?
  split
  · exact absurd (h.all '+' List.mem_cons_self) (by decide)
  · exact absurd (h.all '-' List.mem_cons_self) (by decide)
  · rw [hnumber]
    rfl

theorem year?_eq_some_iff {year : Int} : year? cs = some year ↔ WritesYear year cs := by
  constructor
  · intro h
    unfold year? at h
    split at h <;> obtain ⟨n, hnumber, rfl⟩ := Option.map_eq_some_iff.1 h <;>
      have hdigits := number?_eq_some_iff.1 hnumber
    · exact .plus hdigits
    · exact .minus hdigits
    · exact .unsigned hdigits
  · intro h
    cases h with
    | unsigned h => exact year?_of_digits h
    | plus h => rw [year?, number?_eq_some_iff.2 h]; rfl
    | minus h => rw [year?, number?_eq_some_iff.2 h]; rfl

theorem WritesYear.unique {year year' : Int} (h : WritesYear year cs) (h' : WritesYear year' cs) :
    year = year' :=
  Option.some.inj ((year?_eq_some_iff.2 h).symm.trans (year?_eq_some_iff.2 h'))

theorem ofParts?_eq_some_iff {year : Int} {month day : Nat} {d : Date} :
    Date.ofParts? year month day = some d ↔
      d.year = year ∧ d.month = month ∧ d.day = day ∧ d.Valid := by
  obtain ⟨y, m, n⟩ := d
  simp only [Date.ofParts?, Option.ite_none_right_eq_some, Option.some.injEq, Date.mk.injEq]
  constructor
  · rintro ⟨hvalid, rfl, rfl, rfl⟩
    exact ⟨rfl, rfl, rfl, hvalid⟩
  · rintro ⟨rfl, rfl, rfl, hvalid⟩
    exact ⟨hvalid, rfl, rfl, rfl⟩

/-- A date is written as a year, a two digit month and a two digit day with hyphens between. -/
def WritesDate (d : Date) (cs : List Char) : Prop :=
  ∃ year month day, WritesYear d.year year ∧ Digits 2 d.month month ∧ Digits 2 d.day day ∧
    cs = year ++ '-' :: month ++ '-' :: day

theorem isoDate?_eq_some_iff {d : Date} : isoDate? cs = some d ↔ WritesDate d cs ∧ d.Valid := by
  constructor
  · intro h
    unfold isoDate? at h
    split at h
    · rename_i d₂ d₁ m₂ m₁ reversed hcs
      simp only [Option.bind_eq_bind, Option.bind_eq_some_iff] at h
      obtain ⟨year, hyear, month, hmonth, day, hday, hparts⟩ := h
      obtain ⟨rfl, rfl, rfl, hvalid⟩ := ofParts?_eq_some_iff.1 hparts
      refine ⟨⟨_, _, _, year?_eq_some_iff.1 hyear, number?_eq_some_iff.1 hmonth,
        number?_eq_some_iff.1 hday, ?_⟩, hvalid⟩
      rw [← List.reverse_reverse cs, hcs]
      simp
    · exact absurd h (by simp)
  · rintro ⟨⟨year, month, day, hyear, hmonth, hday, rfl⟩, hvalid⟩
    obtain ⟨m₁, m₂, rfl⟩ := hmonth.exists_pair
    obtain ⟨d₁, d₂, rfl⟩ := hday.exists_pair
    have hreverse : (year ++ '-' :: [m₁, m₂] ++ '-' :: [d₁, d₂]).reverse =
        d₂ :: d₁ :: '-' :: m₂ :: m₁ :: '-' :: year.reverse := by simp
    rw [isoDate?, hreverse]
    simp only [Option.bind_eq_bind, List.reverse_reverse, year?_eq_some_iff.2 hyear,
      number?_eq_some_iff.2 hmonth, number?_eq_some_iff.2 hday, Option.bind_some]
    exact ofParts?_eq_some_iff.2 ⟨rfl, rfl, rfl, hvalid⟩

theorem WritesDate.unique {d d' : Date} (h : WritesDate d cs) (hd : d.Valid)
    (h' : WritesDate d' cs) (hd' : d'.Valid) : d = d' :=
  Option.some.inj ((isoDate?_eq_some_iff.2 ⟨h, hd⟩).symm.trans (isoDate?_eq_some_iff.2 ⟨h', hd'⟩))

theorem eq_of_fields {d d' : Date} (hyear : d.year = d'.year) (hmonth : d.month = d'.month)
    (hday : d.day = d'.day) : d = d' := by
  cases d
  cases d'
  simp only [Date.mk.injEq]
  exact ⟨hyear, hmonth, hday⟩

/-! ## Times of day -/

/-- A time of day is written as two digits each of the hour, the minute and the second with colons
between. -/
def WritesClock (t : TimeOfDay) (cs : List Char) : Prop :=
  ∃ hour minute second, Digits 2 t.hour hour ∧ Digits 2 t.minute minute ∧
    Digits 2 t.second second ∧ cs = hour ++ ':' :: minute ++ ':' :: second

theorem WritesClock.length_eq {t : TimeOfDay} (h : WritesClock t cs) : cs.length = 8 := by
  obtain ⟨hour, minute, second, hhour, hminute, hsecond, rfl⟩ := h
  simp [hhour.length, hminute.length, hsecond.length]

theorem clock?_eq_some_iff {nanosecond : Nat} {t : TimeOfDay} :
    clock? cs nanosecond = some t ↔ WritesClock t cs ∧ t.nanosecond = nanosecond ∧ t.Valid := by
  constructor
  · intro h
    unfold clock? at h
    split at h
    · simp only [Option.bind_eq_bind, Option.bind_eq_some_iff, Option.ite_none_right_eq_some,
        Option.some.injEq] at h
      obtain ⟨hour, hhour, minute, hminute, second, hsecond, hvalid, rfl⟩ := h
      exact ⟨⟨_, _, _, number?_eq_some_iff.1 hhour, number?_eq_some_iff.1 hminute,
        number?_eq_some_iff.1 hsecond, rfl⟩, rfl, hvalid⟩
    · exact absurd h (by simp)
  · rintro ⟨⟨hour, minute, second, hhour, hminute, hsecond, rfl⟩, rfl, hvalid⟩
    obtain ⟨h₁, h₂, rfl⟩ := hhour.exists_pair
    obtain ⟨m₁, m₂, rfl⟩ := hminute.exists_pair
    obtain ⟨s₁, s₂, rfl⟩ := hsecond.exists_pair
    simp only [List.cons_append, List.nil_append, clock?, Option.bind_eq_bind,
      number?_eq_some_iff.2 hhour, number?_eq_some_iff.2 hminute, number?_eq_some_iff.2 hsecond,
      Option.bind_some]
    exact if_pos hvalid

theorem WritesClock.unique {t t' : TimeOfDay} (h : WritesClock t cs) (ht : t.Valid)
    (h' : WritesClock t' cs) (ht' : t'.Valid) (hsame : t.nanosecond = t'.nanosecond) : t = t' :=
  Option.some.inj ((clock?_eq_some_iff.2 ⟨h, hsame, ht⟩).symm.trans
    (clock?_eq_some_iff.2 ⟨h', rfl, ht'⟩))

/-! ## Fractions of a second -/

/-- The nanoseconds of a fraction of a second, rounded down. -/
def fractionValue (digits : List Char) : Nat :=
  decimalValue digits * 10 ^ 9 / 10 ^ digits.length

/-- Digits after the ninth are dropped. -/
theorem nanoseconds_eq {digits : List Char} (h : ∀ c ∈ digits, isDigit c = true) :
    nanoseconds digits = fractionValue digits := by
  have hzero (c : Char) (hc : c ∈ List.replicate 9 '0') : isDigit c = true := by
    rw [List.eq_of_mem_replicate hc]
    decide
  -- With nine zeros behind them the digits are nine that count and as many as before that do not.
  have hrest : ((digits ++ List.replicate 9 '0').drop 9).length = digits.length := by
    simp
  have hlt : decimalValue ((digits ++ List.replicate 9 '0').drop 9) < 10 ^ digits.length := by
    rw [← hrest]
    refine decimalValue_lt fun c hc => ?_
    rcases List.mem_append.1 (List.mem_of_mem_drop hc) with hc | hc
    · exact h c hc
    · exact hzero c hc
  have hvalue : nanoseconds digits * 10 ^ digits.length +
      decimalValue ((digits ++ List.replicate 9 '0').drop 9) = decimalValue digits * 10 ^ 9 := by
    calc nanoseconds digits * 10 ^ digits.length +
          decimalValue ((digits ++ List.replicate 9 '0').drop 9)
      _ = decimalValue ((digits ++ List.replicate 9 '0').take 9 ++
          (digits ++ List.replicate 9 '0').drop 9) := by
        rw [decimalValue_append, hrest, nanoseconds]
      _ = decimalValue digits * 10 ^ 9 := by
        rw [List.take_append_drop, decimalValue_append, decimalValue_zeros,
          List.length_replicate, Nat.add_zero]
  rw [fractionValue, ← hvalue, Nat.add_comm, Nat.add_mul_div_right _ _ (by positivity),
    Nat.div_eq_of_lt hlt, Nat.zero_add]

/-- Zeros at its end do not change a fraction. -/
theorem nanoseconds_append_zeros (digits : List Char) (k : Nat) :
    nanoseconds (digits ++ List.replicate k '0') = nanoseconds digits := by
  rw [nanoseconds, nanoseconds, List.append_assoc, List.replicate_append_replicate,
    List.take_append, List.take_append, List.take_replicate, List.take_replicate,
    Nat.min_eq_left (by omega), Nat.min_eq_left (by omega)]

/-! ## Months, days and zones -/

/-- A month is written as its name. -/
def WritesMonth (month : Nat) (cs : List Char) : Prop :=
  1 ≤ month ∧ months[month - 1]? = some (String.ofList cs)

theorem nodup_months : months.Nodup := by decide

theorem month?_eq_some_iff {month : Nat} : month? cs = some month ↔ WritesMonth month cs := by
  rw [month?, Option.map_eq_some_iff]
  constructor
  · rintro ⟨i, hi, rfl⟩
    obtain ⟨hlt, hname, -⟩ := List.findIdx?_eq_some_iff_getElem.1 hi
    refine ⟨Nat.le_add_left 1 i, ?_⟩
    rw [Nat.add_sub_cancel, List.getElem?_eq_getElem hlt, beq_iff_eq.1 hname]
  · rintro ⟨hfirst, hname⟩
    obtain ⟨hlt, hname⟩ := List.getElem?_eq_some_iff.1 hname
    refine ⟨month - 1, List.findIdx?_eq_some_iff_getElem.2 ⟨hlt, beq_iff_eq.2 hname, ?_⟩, by omega⟩
    intro j hj hsame
    have hindex : j = month - 1 :=
      (List.Nodup.getElem_inj_iff nodup_months).1 ((beq_iff_eq.1 hsame).trans hname.symm)
    omega

theorem WritesMonth.unique {month month' : Nat} (h : WritesMonth month cs)
    (h' : WritesMonth month' cs) : month = month' :=
  Option.some.inj ((month?_eq_some_iff.2 h).symm.trans (month?_eq_some_iff.2 h'))

/-- A day of the month is written with one or two digits. -/
def WritesDay (day : Nat) (cs : List Char) : Prop := Digits 1 day cs ∨ Digits 2 day cs

theorem day?_eq_some_iff {day : Nat} : day? cs = some day ↔ WritesDay day cs := by
  rw [day?, WritesDay]
  split
  · rename_i hlength
    rw [number?_eq_some_iff, or_iff_left]
    intro h
    exact absurd (hlength.symm.trans h.length) (by decide)
  · rename_i hlength
    rw [number?_eq_some_iff, or_iff_right]
    intro h
    exact hlength h.length

theorem WritesDay.unique {day day' : Nat} (h : WritesDay day cs) (h' : WritesDay day' cs) :
    day = day' :=
  Option.some.inj ((day?_eq_some_iff.2 h).symm.trans (day?_eq_some_iff.2 h'))

/-- A zone is a word of three to five ASCII letters. -/
def ZoneWord (cs : List Char) : Prop :=
  3 ≤ cs.length ∧ cs.length ≤ 5 ∧ ∀ c ∈ cs, c.isAlpha = true

theorem isZone_iff : isZone cs = true ↔ ZoneWord cs := by
  simp only [isZone, ZoneWord, Bool.and_eq_true, decide_eq_true_eq, List.all_eq_true, and_assoc]

end WorkloadAuth.SigningTime
