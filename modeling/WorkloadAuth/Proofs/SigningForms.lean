import WorkloadAuth.Engine.Login
import WorkloadAuth.Proofs.Blanks
import WorkloadAuth.Proofs.CalendarDays
import WorkloadAuth.Proofs.SigningTimeText

/-!
# The forms of a signing time

A text is a signing time if it has one of three forms, and then it names one moment.

* `Form`, `Reads`: the forms, and what a text says that is written in one of them.
* `Reads.unique`: no text has two readings.
* `parse?_eq_some_iff`: a text is read as its reading tells, unless it has too many digits.
* `screen_eq_unreadable_iff`: a request with any other text is refused with this text.
* `parse?_render`: a moment is read back from each form that it is written in.
-/

namespace WorkloadAuth.SigningTime

open Calendar Text

/-! ## The forms -/

/-- The forms that a signing time is written in. -/
inductive Form where
  /-- A date and a time of day to the second, `2006-01-02T15:04:05Z`. -/
  | seconds
  /-- The same with the digits of a fraction of a second, `2006-01-02T15:04:05.5Z`. -/
  | fraction (digits : List Char)
  /-- What a shell prints, `Mon Jan 2 15:04:05 MST 2006`. -/
  | shell (weekday zone : List Char)
  deriving DecidableEq, Repr

/-- The digits of a fraction. -/
def Form.digits : Form → List Char
  | .fraction digits => digits
  | _ => []

/-- The parts of a form that are not fields of a date or a time of day: the nanoseconds come from
the digits of a fraction, and the names of the weekday and the zone do not matter. -/
def Form.Suits : Form → Nat → Prop
  | .seconds, nanosecond => nanosecond = 0
  | .fraction digits, nanosecond =>
    digits ≠ [] ∧ (∀ c ∈ digits, isDigit c = true) ∧ nanosecond = fractionValue digits
  | .shell weekday zone, nanosecond =>
    String.ofList weekday ∈ weekdays ∧ ZoneWord zone ∧ nanosecond = 0

/-- What follows the seconds in the first two forms. -/
inductive Ending : Form → List Char → Prop where
  | seconds : Ending .seconds ['Z']
  | fraction (digits : List Char) : Ending (.fraction digits) ('.' :: (digits ++ ['Z']))

/-- A text writes a date and a time of day in a form. -/
inductive Spelled : Form → Date → TimeOfDay → List Char → Prop where
  | iso {form : Form} {d : Date} {t : TimeOfDay} {date clock ending : List Char}
      (hdate : WritesDate d date) (hclock : WritesClock t clock) (hend : Ending form ending) :
      Spelled form d t (date ++ 'T' :: (clock ++ ending))
  | shell {d : Date} {t : TimeOfDay} {weekday month day clock zone year cs : List Char}
      (hmonth : WritesMonth d.month month) (hday : WritesDay d.day day)
      (hclock : WritesClock t clock) (hyear : WritesYear d.year year)
      (hspaced : Spaced [weekday, month, day, clock, zone, year] cs) :
      Spelled (.shell weekday zone) d t cs

/-- A text says in a form that it is a time of a day, and the day and the time exist. -/
structure Reads (form : Form) (d : Date) (t : TimeOfDay) (cs : List Char) : Prop where
  spelled : Spelled form d t cs
  suits : form.Suits t.nanosecond
  date : d.Valid
  time : t.Valid

variable {form form' : Form} {d d' : Date} {t t' : TimeOfDay} {cs date clock ending : List Char}

theorem Form.Suits.unique {n n' : Nat} (h : form.Suits n) (h' : form.Suits n') : n = n' := by
  cases form with
  | seconds => exact h.trans h'.symm
  | fraction digits => exact h.2.2.trans h'.2.2.symm
  | shell weekday zone => exact h.2.2.trans h'.2.2.symm

theorem Ending.unique (h : Ending form ending) (h' : Ending form' ending) : form = form' := by
  cases h with
  | seconds => cases h'; rfl
  | fraction digits =>
    generalize hdigits : '.' :: (digits ++ ['Z']) = cs at h'
    cases h' with
    | seconds => exact absurd hdigits (by simp)
    | fraction digits' =>
      rw [List.append_cancel_right (List.cons.inj hdigits).2]

/-! ## The characters of the first two forms -/

/-- The characters of dates and times of day. -/
def fieldChars : List Char := '+' :: '-' :: ':' :: Text.digits

theorem Digits.fieldChars {width n : Nat} (h : Digits width n cs) :
    ∀ c ∈ cs, c ∈ fieldChars := fun c hc => by
  simp [SigningTime.fieldChars, mem_digits (h.all c hc)]

theorem WritesYear.fieldChars {year : Int} (h : WritesYear year cs) :
    ∀ c ∈ cs, c ∈ fieldChars := by
  cases h with
  | unsigned h => exact h.fieldChars
  | plus h => exact List.forall_mem_cons.2 ⟨by decide, h.fieldChars⟩
  | minus h => exact List.forall_mem_cons.2 ⟨by decide, h.fieldChars⟩

theorem WritesDate.fieldChars (h : WritesDate d cs) : ∀ c ∈ cs, c ∈ fieldChars := by
  obtain ⟨year, month, day, hyear, hmonth, hday, rfl⟩ := h
  simp only [List.forall_mem_append, List.forall_mem_cons]
  exact ⟨⟨hyear.fieldChars, by decide, hmonth.fieldChars⟩, by decide, hday.fieldChars⟩

theorem WritesClock.fieldChars (h : WritesClock t cs) : ∀ c ∈ cs, c ∈ fieldChars := by
  obtain ⟨hour, minute, second, hhour, hminute, hsecond, rfl⟩ := h
  simp only [List.forall_mem_append, List.forall_mem_cons]
  exact ⟨⟨hhour.fieldChars, by decide, hminute.fieldChars⟩, by decide, hsecond.fieldChars⟩

/-- What all those characters have, each of them has. -/
theorem forall_fieldChars {p : Char → Bool} (hp : fieldChars.all p = true)
    (h : ∀ c ∈ cs, c ∈ fieldChars) : ∀ c ∈ cs, p c = true :=
  fun c hc => List.all_eq_true.1 hp c (h c hc)

theorem unblank_of_fieldChars (h : ∀ c ∈ cs, c ∈ fieldChars) : Unblank cs := fun c hc => by
  have hblank := forall_fieldChars (p := fun c => !isBlank c) (by decide) h c hc
  rwa [Bool.not_eq_true'] at hblank

theorem Ending.unblank {n : Nat} (h : Ending form ending) (hsuits : form.Suits n) :
    Unblank ending := by
  have hmark : Unblank ['Z'] := List.forall_mem_singleton.2 (by decide)
  cases h with
  | seconds => exact hmark
  | fraction digits =>
    have hdigits : Unblank digits :=
      unblank_of_fieldChars fun c hc => by simp [fieldChars, mem_digits (hsuits.2.1 c hc)]
    exact List.forall_mem_cons.2 ⟨by decide, List.forall_mem_append.2 ⟨hdigits, hmark⟩⟩

/-- A text in one of the first two forms is one word. -/
theorem words_iso {n : Nat} (hdate : WritesDate d date) (hclock : WritesClock t clock)
    (hend : Ending form ending) (hsuits : form.Suits n) :
    words (date ++ 'T' :: (clock ++ ending)) = [date ++ 'T' :: (clock ++ ending)] := by
  have hunblank : Unblank (date ++ 'T' :: (clock ++ ending)) := by
    simp only [Unblank, List.forall_mem_append, List.forall_mem_cons]
    exact ⟨unblank_of_fieldChars hdate.fieldChars, by decide,
      unblank_of_fieldChars hclock.fieldChars, hend.unblank hsuits⟩
  rw [words_eq_iff]
  simpa using Spaced.word (by simp) hunblank (by simp) .nil

/-- The first two forms are cut in front of the first `T`. -/
theorem takeWhile_iso (hdate : WritesDate d date) (rest : List Char) :
    (date ++ 'T' :: rest).takeWhile (· != 'T') = date := by
  have hmark : ∀ c ∈ date, (c != 'T') = true :=
    forall_fieldChars (p := (· != 'T')) (by decide) hdate.fieldChars
  rw [takeWhile_append_cons (by decide), List.takeWhile_eq_self_iff.2 hmark]

theorem dropWhile_iso (hdate : WritesDate d date) (rest : List Char) :
    (date ++ 'T' :: rest).dropWhile (· != 'T') = 'T' :: rest := by
  have hmark : ∀ c ∈ date, (c != 'T') = true :=
    forall_fieldChars (p := (· != 'T')) (by decide) hdate.fieldChars
  rw [List.dropWhile_append_of_pos hmark, List.dropWhile_cons_of_neg (by decide)]

/-! ## One reading -/

/-- A text that spaces out words is in one of the first two forms only if it is the one word. -/
theorem length_eq_one_of_spaced {n : Nat} {ws : List (List Char)} (hdate : WritesDate d date)
    (hclock : WritesClock t clock) (hend : Ending form ending) (hsuits : form.Suits n)
    (hspaced : Spaced ws (date ++ 'T' :: (clock ++ ending))) : ws.length = 1 := by
  rw [← words_eq_iff.2 hspaced, words_iso hdate hclock hend hsuits, List.length_singleton]

/-- The first two forms tell their parts. -/
theorem iso_injective {date' clock' ending' : List Char} (hdate : WritesDate d date)
    (hdate' : WritesDate d' date') (hclock : WritesClock t clock) (hclock' : WritesClock t' clock')
    (h : date ++ 'T' :: (clock ++ ending) = date' ++ 'T' :: (clock' ++ ending')) :
    date = date' ∧ clock = clock' ∧ ending = ending' := by
  have hdates : date = date' := by
    rw [← takeWhile_iso hdate (clock ++ ending), h, takeWhile_iso hdate']
  subst hdates
  have hrest : clock ++ ending = clock' ++ ending' :=
    (List.cons.inj (List.append_cancel_left h)).2
  exact ⟨rfl, List.append_inj hrest (hclock.length_eq.trans hclock'.length_eq.symm)⟩

/-- No text has two readings. -/
theorem Reads.unique (h : Reads form d t cs) (h' : Reads form' d' t' cs) :
    form = form' ∧ d = d' ∧ t = t' := by
  obtain ⟨hspelled, hsuits, hd, ht⟩ := h
  obtain ⟨hspelled', hsuits', hd', ht'⟩ := h'
  cases hspelled with
  | @iso _ _ _ date clock ending hdate hclock hend =>
    generalize hcs : date ++ 'T' :: (clock ++ ending) = cs at hspelled'
    cases hspelled' with
    | iso hdate' hclock' hend' =>
      obtain ⟨rfl, rfl, rfl⟩ := iso_injective hdate hdate' hclock hclock' hcs
      obtain rfl := hend.unique hend'
      exact ⟨rfl, hdate.unique hd hdate' hd', hclock.unique ht hclock' ht' (hsuits.unique hsuits')⟩
    | shell _ _ _ _ hspaced =>
      rw [← hcs] at hspaced
      exact absurd (length_eq_one_of_spaced hdate hclock hend hsuits hspaced) (by simp)
  | shell hmonth hday hclock hyear hspaced =>
    cases hspelled' with
    | iso hdate' hclock' hend' =>
      exact absurd (length_eq_one_of_spaced hdate' hclock' hend' hsuits' hspaced) (by simp)
    | shell hmonth' hday' hclock' hyear' hspaced' =>
      have hwords := (words_eq_iff.2 hspaced).symm.trans (words_eq_iff.2 hspaced')
      simp only [List.cons.injEq, and_true] at hwords
      obtain ⟨rfl, rfl, rfl, rfl, rfl, rfl⟩ := hwords
      have hdates : d = d' :=
        eq_of_fields (hyear.unique hyear') (hmonth.unique hmonth') (hday.unique hday')
      exact ⟨rfl, hdates, hclock.unique ht hclock' ht' (hsuits.unique hsuits')⟩

/-! ## What is read -/

theorem fraction?_eq_some_iff {nanosecond : Nat} :
    fraction? ending = some nanosecond ↔
      ∃ form, Ending form ending ∧ form.Suits nanosecond ∧ form.digits.length ≤ maxDigits := by
  constructor
  · intro h
    unfold fraction? at h
    split at h
    · obtain rfl := Option.some.inj h
      exact ⟨.seconds, .seconds, rfl, by decide⟩
    · rename_i rest
      simp only [Option.ite_none_right_eq_some, Bool.and_eq_true, decide_eq_true_eq, beq_iff_eq,
        Option.some.injEq] at h
      obtain ⟨⟨⟨hpos, hshort⟩, hrest⟩, rfl⟩ := h
      have hdigits : ∀ c ∈ rest.takeWhile isDigit, isDigit c = true :=
        fun c hc => List.mem_takeWhile_imp hc
      have hcut : rest.takeWhile isDigit ++ ['Z'] = rest := by
        rw [← hrest, List.takeWhile_append_dropWhile]
      refine ⟨.fraction (rest.takeWhile isDigit), ?_, ⟨List.length_pos_iff.1 hpos, hdigits,
        nanoseconds_eq hdigits⟩, hshort⟩
      have hending := Ending.fraction (rest.takeWhile isDigit)
      rwa [hcut] at hending
    · exact absurd h (by simp)
  · rintro ⟨form, hend, hsuits, hshort⟩
    cases hend with
    | seconds =>
      obtain rfl : nanosecond = 0 := hsuits
      rfl
    | fraction digits =>
      obtain ⟨hne, hdigits, rfl⟩ := hsuits
      have htake : (digits ++ ['Z']).takeWhile isDigit = digits := by
        rw [takeWhile_append_cons (by decide), List.takeWhile_eq_self_iff.2 hdigits]
      have hdrop : (digits ++ ['Z']).dropWhile isDigit = ['Z'] := by
        rw [List.dropWhile_append_of_pos hdigits, List.dropWhile_cons_of_neg (by decide)]
      have hpos : 1 ≤ digits.length := List.length_pos_iff.2 hne
      have hshort : digits.length ≤ maxDigits := hshort
      simp [fraction?, htake, hdrop, hpos, hshort, nanoseconds_eq hdigits]

/-- The first two forms are read as they are written. -/
theorem iso?_of_writes (hdate : WritesDate d date) (hclock : WritesClock t clock)
    (hend : fraction? ending = some t.nanosecond) (hd : d.Valid) (ht : t.Valid) :
    iso? (date ++ 'T' :: (clock ++ ending)) = some (Moment.ofUtc d t) := by
  have hlength : clock.length = 8 := hclock.length_eq
  rw [iso?, takeWhile_iso hdate, dropWhile_iso hdate, isoDate?_eq_some_iff.2 ⟨hdate, hd⟩]
  simp only [Option.bind_eq_bind, Option.bind_some, List.drop_left' hlength,
    List.take_left' hlength, hend, clock?_eq_some_iff.2 ⟨hclock, rfl, ht⟩]

theorem reads_of_iso?_eq_some {m : Moment} (h : iso? cs = some m) :
    ∃ form d t, Reads form d t cs ∧ form.digits.length ≤ maxDigits ∧ m = Moment.ofUtc d t := by
  simp only [iso?, Option.bind_eq_bind, Option.bind_eq_some_iff] at h
  obtain ⟨d, hd, h⟩ := h
  split at h
  · rename_i mark rest hmark
    simp only [Option.bind_eq_some_iff, Option.some.injEq] at h
    obtain ⟨nanosecond, hnanosecond, t, ht, rfl⟩ := h
    obtain ⟨hdate, hvalid⟩ := isoDate?_eq_some_iff.1 hd
    obtain ⟨form, hend, hsuits, hshort⟩ := fraction?_eq_some_iff.1 hnanosecond
    obtain ⟨hclock, rfl, htime⟩ := clock?_eq_some_iff.1 ht
    have hT : mark = 'T' := by
      have := List.head?_dropWhile_not (· != 'T') cs
      simpa [hmark] using this
    subst hT
    have hspelled := Spelled.iso hdate hclock hend
    rw [List.take_append_drop, ← hmark, List.takeWhile_append_dropWhile] at hspelled
    exact ⟨form, d, t, ⟨hspelled, hsuits, hvalid, htime⟩, hshort, rfl⟩
  · exact absurd h (by simp)

theorem shell?_eq_some_iff {m : Moment} :
    shell? cs = some m ↔ ∃ weekday zone d t, Reads (.shell weekday zone) d t cs ∧
      m = Moment.ofUtc d t := by
  constructor
  · intro h
    unfold shell? at h
    split at h
    · rename_i weekday month day clock zone year hwords
      simp only [Option.ite_none_right_eq_some, Bool.and_eq_true, Option.bind_eq_bind,
        Option.bind_eq_some_iff, Option.some.injEq] at h
      obtain ⟨⟨hweekday, hzone⟩, y, hyear, n, hmonth, k, hday, d, hparts, t, hclock, rfl⟩ := h
      obtain ⟨rfl, rfl, rfl, hvalid⟩ := ofParts?_eq_some_iff.1 hparts
      obtain ⟨hclock, hwhole, htime⟩ := clock?_eq_some_iff.1 hclock
      have hspelled : Spelled (.shell weekday zone) d t cs :=
        .shell (month?_eq_some_iff.1 hmonth) (day?_eq_some_iff.1 hday) hclock
          (year?_eq_some_iff.1 hyear) (words_eq_iff.1 hwords)
      exact ⟨weekday, zone, d, t, ⟨hspelled, ⟨List.contains_iff_mem.1 hweekday, isZone_iff.1 hzone,
        hwhole⟩, hvalid, htime⟩, rfl⟩
    · exact absurd h (by simp)
  · rintro ⟨weekday, zone, d, t, ⟨hspelled, ⟨hweekday, hzone, hwhole⟩, hvalid, htime⟩, rfl⟩
    cases hspelled with
    | iso _ _ hend => cases hend
    | shell hmonth hday hclock hyear hspaced =>
      rw [shell?, words_eq_iff.2 hspaced]
      have hnames : (weekdays.contains (String.ofList weekday) && isZone zone) = true := by
        rw [Bool.and_eq_true]
        exact ⟨List.contains_iff_mem.2 hweekday, isZone_iff.2 hzone⟩
      simp only [hnames, if_true, Option.bind_eq_bind, year?_eq_some_iff.2 hyear,
        month?_eq_some_iff.2 hmonth, day?_eq_some_iff.2 hday,
        ofParts?_eq_some_iff.2 ⟨rfl, rfl, rfl, hvalid⟩,
        clock?_eq_some_iff.2 ⟨hclock, hwhole, htime⟩, Option.bind_some]

theorem Reads.iso?_or_shell? (h : Reads form d t cs) (hshort : form.digits.length ≤ maxDigits) :
    iso? cs = some (Moment.ofUtc d t) ∨
      iso? cs = none ∧ shell? cs = some (Moment.ofUtc d t) := by
  have hspelled := h.spelled
  cases hspelled with
  | iso hdate hclock hend =>
    exact .inl (iso?_of_writes hdate hclock
      (fraction?_eq_some_iff.2 ⟨form, hend, h.suits, hshort⟩) h.date h.time)
  | shell _ _ _ _ _ =>
    cases hiso : iso? cs with
    | none => exact .inr ⟨rfl, shell?_eq_some_iff.2 ⟨_, _, d, t, h, rfl⟩⟩
    | some m =>
      obtain ⟨form', d', t', hreads', -, rfl⟩ := reads_of_iso?_eq_some hiso
      obtain ⟨-, rfl, rfl⟩ := h.unique hreads'
      exact .inl rfl

/-- A text is read as its reading tells, unless it has too many digits. -/
theorem parse?_eq_some_iff {raw : String} {m : Moment} :
    parse? raw = some m ↔ ∃ form d t, Reads form d t raw.toList ∧
      form.digits.length ≤ maxDigits ∧ m = Moment.ofUtc d t := by
  rw [parse?, Option.or_eq_some_iff]
  constructor
  · rintro (h | ⟨-, h⟩)
    · exact reads_of_iso?_eq_some h
    · obtain ⟨weekday, zone, d, t, hreads, rfl⟩ := shell?_eq_some_iff.1 h
      exact ⟨_, d, t, hreads, Nat.zero_le maxDigits, rfl⟩
  · rintro ⟨form, d, t, hreads, hshort, rfl⟩
    exact hreads.iso?_or_shell? hshort

/-! ## What is refused -/

theorem parse?_eq_none_iff {raw : String} :
    parse? raw = none ↔
      ∀ form d t, Reads form d t raw.toList → maxDigits < form.digits.length := by
  rw [Option.eq_none_iff_forall_ne_some]
  constructor
  · intro h form d t hreads
    by_contra hshort
    exact h _ (parse?_eq_some_iff.2 ⟨form, d, t, hreads, by omega, rfl⟩)
  · intro h m hm
    obtain ⟨form, d, t, hreads, hshort, -⟩ := parse?_eq_some_iff.1 hm
    have := h form d t hreads
    omega

/-- A request is refused for its signing time, which is told unchanged, if this is not read. -/
theorem screen_eq_unreadable_iff {request : LoginRequest} {received : Moment} {raw : String} :
    Engine.screen request received = .error (.failed (.of (.unreadableSigningTime raw))) ↔
      request.emptyField? = none ∧ raw = request.signingTime ∧
        parse? request.signingTime = none := by
  rw [Engine.screen]
  cases hempty : request.emptyField? with
  | some field => simp [Failure.of]
  | none =>
    cases hparsed : parse? request.signingTime with
    | none => simp [Failure.of, eq_comm]
    | some signed =>
      have hother (fault : Window.Fault) :
          fault.halt ≠ .failed (.of (.unreadableSigningTime raw)) := by
        cases fault <;> simp [Window.Fault.halt, Failure.of]
      cases hcheck : Window.check signed received request.signingTime with
      | ok => simp [Except.mapError, hcheck]
      | error fault => simpa [Except.mapError, hcheck] using hother fault

/-! ## What is written -/

/-- The digits of a year, with a minus in front if it is before 0. -/
def renderYear (year : Int) : List Char :=
  (if year < 0 then ['-'] else []) ++ decimalPadded 4 year.natAbs

theorem writesYear_renderYear {year : Int} (h : year.natAbs < 10000) :
    WritesYear year (renderYear year) := by
  have hdigits : Digits 4 year.natAbs (decimalPadded 4 year.natAbs) :=
    digits_decimalPadded (by decide) h
  rw [renderYear]
  split
  · have hyear := WritesYear.minus hdigits
    rwa [show -(year.natAbs : Int) = year by omega] at hyear
  · have hyear := WritesYear.unsigned hdigits
    rwa [show (year.natAbs : Int) = year by omega] at hyear

theorem writesDate_renderDate (hyear : d.year.natAbs < 10000) (h : d.Valid) :
    WritesDate d (Moment.renderDate d) := by
  obtain ⟨hfirst, hlast, hday⟩ := month_of_valid h
  exact ⟨renderYear d.year, decimalPadded 2 d.month, decimalPadded 2 d.day,
    writesYear_renderYear hyear, digits_decimalPadded (by decide) (by omega),
    digits_decimalPadded (by decide) (by omega), by simp [Moment.renderDate, renderYear]⟩

/-- The hour, the minute and the second with colons between. -/
def renderClock (t : TimeOfDay) : List Char :=
  decimalPadded 2 t.hour ++ ':' :: decimalPadded 2 t.minute ++ ':' :: decimalPadded 2 t.second

theorem writesClock_renderClock (h : t.Valid) : WritesClock t (renderClock t) := by
  obtain ⟨hhour, hminute, hsecond, -⟩ := h
  exact ⟨_, _, _, digits_decimalPadded (by decide) (by omega),
    digits_decimalPadded (by decide) (by omega), digits_decimalPadded (by decide) (by omega), rfl⟩

/-- The name of a month; no text for a number that is none. -/
def monthName (month : Nat) : List Char := (months.getD (month - 1) "").toList

theorem writesMonth_monthName {month : Nat} (hfirst : 1 ≤ month) (hlast : month ≤ 12) :
    WritesMonth month (monthName month) := by
  refine ⟨hfirst, ?_⟩
  have hlt : month - 1 < months.length := show month - 1 < 12 by omega
  rw [monthName, String.ofList_toList, List.getElem?_eq_getElem hlt]
  simp [hlt]

theorem writesDay_decimal {day : Nat} (h : day ≤ 31) : WritesDay day (decimal day) := by
  have hdigits : ∀ c ∈ decimal day, isDigit c = true := fun _ => isDigit_of_mem_decimal
  have hpos : 0 < (decimal day).length := length_decimal_pos day
  have hlength : (decimal day).length ≤ 2 := (Nat.length_toDigits_le_iff (by decide) (by decide)).2
    (show day < 10 ^ 2 by omega)
  obtain hone | htwo : (decimal day).length = 1 ∨ (decimal day).length = 2 := by omega
  · exact .inl ⟨hone, hdigits, decimalValue_decimal day⟩
  · exact .inr ⟨htwo, hdigits, decimalValue_decimal day⟩

theorem word_names :
    (weekdays ++ months).all (fun name =>
      name.toList != [] && name.toList.all (!isBlank ·)) = true := by
  decide +kernel

theorem word_of_name (h : String.ofList cs ∈ weekdays ++ months) : cs ≠ [] ∧ Unblank cs := by
  have hname := List.all_eq_true.1 word_names (String.ofList cs) h
  simpa [String.toList_ofList, Unblank] using hname

theorem ZoneWord.word (h : ZoneWord cs) : cs ≠ [] ∧ Unblank cs := by
  obtain ⟨hlength, -, hletters⟩ := h
  refine ⟨List.length_pos_iff.1 (by omega), fun c hc => ?_⟩
  have hrange := isAlpha_iff.1 (hletters c hc)
  rw [Bool.eq_false_iff]
  intro hblank
  simp only [isBlank, Bool.or_eq_true, Bool.and_eq_true, decide_eq_true_eq, beq_iff_eq] at hblank
  omega

theorem WritesMonth.word {month : Nat} (h : WritesMonth month cs) : cs ≠ [] ∧ Unblank cs :=
  word_of_name (List.mem_append_right _ (List.mem_of_getElem? h.2))

theorem Digits.word {width n : Nat} (hwidth : 0 < width) (h : Digits width n cs) :
    cs ≠ [] ∧ Unblank cs :=
  ⟨List.length_pos_iff.1 (h.length ▸ hwidth), unblank_of_fieldChars h.fieldChars⟩

theorem WritesDay.word {day : Nat} (h : WritesDay day cs) : cs ≠ [] ∧ Unblank cs :=
  h.elim (Digits.word (by decide)) (Digits.word (by decide))

theorem WritesYear.word {year : Int} (h : WritesYear year cs) : cs ≠ [] ∧ Unblank cs := by
  refine ⟨?_, unblank_of_fieldChars h.fieldChars⟩
  cases h with
  | unsigned h => exact (h.word (by decide)).1
  | plus h => exact List.cons_ne_nil _ _
  | minus h => exact List.cons_ne_nil _ _

theorem WritesClock.word (h : WritesClock t cs) : cs ≠ [] ∧ Unblank cs :=
  ⟨List.length_pos_iff.1 (by rw [h.length_eq]; decide), unblank_of_fieldChars h.fieldChars⟩

/-- A date and a time of day in a form. -/
def Form.render (form : Form) (d : Date) (t : TimeOfDay) : List Char :=
  match form with
  | .seconds => Moment.renderDate d ++ 'T' :: (renderClock t ++ ['Z'])
  | .fraction digits =>
    Moment.renderDate d ++ 'T' :: (renderClock t ++ '.' :: (digits ++ ['Z']))
  | .shell weekday zone =>
    List.intercalate [' ']
      [weekday, monthName d.month, decimal d.day, renderClock t, zone, renderYear d.year]

theorem spelled_render (hsuits : form.Suits t.nanosecond) (hyear : d.year.natAbs < 10000)
    (hd : d.Valid) (ht : t.Valid) : Spelled form d t (form.render d t) := by
  have hdate : WritesDate d (Moment.renderDate d) := writesDate_renderDate hyear hd
  have hclock : WritesClock t (renderClock t) := writesClock_renderClock ht
  cases form with
  | seconds => exact .iso hdate hclock .seconds
  | fraction digits => exact .iso hdate hclock (.fraction digits)
  | shell weekday zone =>
    obtain ⟨hfirst, hlast, hday⟩ := month_of_valid hd
    have hmonth : WritesMonth d.month (monthName d.month) := writesMonth_monthName hfirst hlast
    have hnumber : WritesDay d.day (decimal d.day) := writesDay_decimal hday
    have hyears : WritesYear d.year (renderYear d.year) := writesYear_renderYear hyear
    refine .shell hmonth hnumber hclock hyears (spaced_intercalate ?_)
    simp only [List.forall_mem_cons]
    exact ⟨word_of_name (List.mem_append_left _ hsuits.1), hmonth.word, hnumber.word, hclock.word,
      hsuits.2.1.word, hyears.word, by simp⟩

/-- A moment is read back from each form that it is written in. -/
theorem parse?_render {m : Moment} (hoffset : m.offset = 0) (hyear : m.date.year.natAbs < 10000)
    (hsuits : form.Suits m.subsecond) (hshort : form.digits.length ≤ maxDigits) :
    parse? (String.ofList (form.render m.date m.time)) = some m := by
  have hd : m.date.Valid := Date.valid_ofDayNumber _
  have hreads : Reads form m.date m.time (form.render m.date m.time) :=
    ⟨spelled_render hsuits hyear hd m.valid_time, hsuits, hd, m.valid_time⟩
  rw [parse?_eq_some_iff, String.toList_ofList]
  exact ⟨form, m.date, m.time, hreads, hshort, (Moment.ofUtc_date_time hoffset).symm⟩

/-- Zeros at the end of a text can be put back. -/
theorem exists_append_zeros (cs : List Char) :
    ∃ k, (cs.reverse.dropWhile (· == '0')).reverse ++ List.replicate k '0' = cs := by
  have hzeros : ∀ c ∈ cs.reverse.takeWhile (· == '0'), c = '0' :=
    fun c hc => beq_iff_eq.1 (List.mem_takeWhile_imp (p := (· == '0')) hc)
  refine ⟨(cs.reverse.takeWhile (· == '0')).length, ?_⟩
  rw [← List.reverse_replicate, ← List.eq_replicate_of_mem hzeros, ← List.reverse_append,
    List.takeWhile_append_dropWhile, List.reverse_reverse]

theorem nanoseconds_decimalPadded {n : Nat} (h : n < 1000000000) :
    nanoseconds (decimalPadded 9 n) = n := by
  rw [nanoseconds, List.take_left' (length_decimalPadded (by decide) h),
    decimalValue_decimalPadded]

/-- The digits of a fraction without zeros at its end. -/
theorem suits_fraction {n : Nat} (h : n < 1000000000) :
    (Form.fraction (Moment.fraction n)).Suits n ∧ (Moment.fraction n).length ≤ maxDigits := by
  obtain ⟨k, hk⟩ := exists_append_zeros (decimalPadded 9 n)
  rw [Moment.fraction]
  generalize ((decimalPadded 9 n).reverse.dropWhile (· == '0')).reverse = digits at hk ⊢
  have hvalue : nanoseconds digits = n := by
    rw [← nanoseconds_append_zeros digits k, hk, nanoseconds_decimalPadded h]
  have hlength : digits.length ≤ 9 := by
    rw [← length_decimalPadded (show 0 < 9 by decide) h, ← hk, List.length_append]
    omega
  have hdigits : ∀ c ∈ digits, isDigit c = true := by
    intro c hc
    have hmem : c ∈ decimalPadded 9 n := hk ▸ List.mem_append_left _ hc
    exact isDigit_of_mem_decimalPadded hmem
  cases digits with
  | nil =>
    obtain rfl : n = 0 := hvalue.symm
    exact ⟨⟨by decide, List.forall_mem_singleton.2 (by decide), by decide⟩, by decide⟩
  | cons c digits =>
    exact ⟨⟨List.cons_ne_nil _ _, hdigits, hvalue.symm.trans (nanoseconds_eq hdigits)⟩,
      hlength.trans (by decide)⟩

/-- **Signing times, exactly.** A text is read if it has one of the three forms, with at most
`maxDigits` digits of a fraction, and then as the moment in UTC that its fields name, of which there
is one choice only. A request with any other text is refused with this text. A moment of the years
up to 9999 is read back from its text in the second form, and one without nanoseconds from its text
in each form. Days are counted one by one from the first of January 1970. -/
theorem grammar_exact :
    (∀ (raw : String) (m : Moment), parse? raw = some m ↔
      ∃ form d t, Reads form d t raw.toList ∧ form.digits.length ≤ maxDigits ∧
        m = Moment.ofUtc d t) ∧
    (∀ (cs : List Char) (form form' : Form) (d d' : Date) (t t' : TimeOfDay),
      Reads form d t cs → Reads form' d' t' cs → form = form' ∧ d = d' ∧ t = t') ∧
    (∀ (request : LoginRequest) (received : Moment) (raw : String),
      Engine.screen request received = .error (.failed (.of (.unreadableSigningTime raw))) ↔
        request.emptyField? = none ∧ raw = request.signingTime ∧
          ∀ form d t, Reads form d t raw.toList → maxDigits < form.digits.length) ∧
    (∀ m : Moment, m.offset = 0 → m.date.year.natAbs < 10000 →
      parse? (String.ofList ((Form.fraction (Moment.fraction m.subsecond)).render m.date m.time)) =
        some m ∧
      (m.subsecond = 0 →
        parse? (String.ofList (Form.seconds.render m.date m.time)) = some m ∧
        ∀ weekday zone, String.ofList weekday ∈ weekdays → ZoneWord zone →
          parse? (String.ofList ((Form.shell weekday zone).render m.date m.time)) = some m)) ∧
    (Date.mk 1970 1 1).dayNumber = 0 ∧
      ∀ d : Date, d.Valid → d.next.dayNumber = d.dayNumber + 1 := by
  refine ⟨fun raw m => parse?_eq_some_iff, fun cs form form' d d' t t' h h' => h.unique h',
    fun request received raw => ?_, fun m hoffset hyear => ⟨?_, fun hwhole => ⟨?_, ?_⟩⟩, rfl,
    fun d h => Date.dayNumber_next h⟩
  · rw [screen_eq_unreadable_iff]
    refine and_congr_right fun _ => and_congr_right fun hraw => ?_
    rw [hraw, parse?_eq_none_iff]
  · obtain ⟨hsuits, hshort⟩ := suits_fraction (m.valid_time.2.2.2)
    exact parse?_render hoffset hyear hsuits hshort
  · exact parse?_render hoffset hyear hwhole (Nat.zero_le maxDigits)
  · intro weekday zone hweekday hzone
    exact parse?_render hoffset hyear ⟨hweekday, hzone, hwhole⟩ (Nat.zero_le maxDigits)

namespace Sample

/-- A time on a leap day, as a shell may write it. -/
def leapDayText : String := " Thu  Feb 29\t23:59:59 CEST 2024\n"

def leapDay : Date := ⟨2024, 2, 29⟩

def lastSecond : TimeOfDay := ⟨23, 59, 59, 0⟩

/-- A moment on that day with a fraction of a second. -/
def later : Moment := Moment.ofUtc leapDay { lastSecond with nanosecond := 120000000 }

theorem reads_leapDayText :
    Reads (.shell "Thu".toList "CEST".toList) leapDay lastSecond leapDayText.toList := by
  have hwords : words leapDayText.toList =
      ["Thu".toList, "Feb".toList, "29".toList, "23:59:59".toList, "CEST".toList,
        "2024".toList] := by decide +kernel
  have hclock : clock? "23:59:59".toList 0 = some lastSecond := by decide +kernel
  exact ⟨.shell (month?_eq_some_iff.1 (by decide +kernel)) (day?_eq_some_iff.1 (by decide +kernel))
      (clock?_eq_some_iff.1 hclock).1 (year?_eq_some_iff.1 (by decide +kernel))
      (words_eq_iff.1 hwords),
    ⟨by decide +kernel, isZone_iff.1 (by decide +kernel), rfl⟩, by decide, by decide⟩

/-- A leap day is read from a text with blanks of all kinds, and written in each form. -/
theorem leap_day_read :
    leapDay.Valid ∧ leapDay.next = ⟨2024, 3, 1⟩ ∧
      leapDay.next.dayNumber = leapDay.dayNumber + 1 ∧
      parse? leapDayText = some (Moment.ofUtc leapDay lastSecond) ∧
      (∀ form d t, Reads form d t leapDayText.toList →
        form = .shell "Thu".toList "CEST".toList ∧ d = leapDay ∧ t = lastSecond) ∧
      parse? (String.ofList ((Form.fraction "12".toList).render later.date later.time)) =
        some later ∧
      parse? (String.ofList ((Form.shell "Thu".toList "CEST".toList).render leapDay lastSecond)) =
        some (Moment.ofUtc leapDay lastSecond) := by
  obtain ⟨hparse, hunique, -, hrender, -, hnext⟩ := grammar_exact
  have hvalid : leapDay.Valid := by decide
  have hfraction : Moment.fraction later.subsecond = "12".toList := by decide +kernel
  have hdate : (Moment.ofUtc leapDay lastSecond).date = leapDay := by decide +kernel
  have htime : (Moment.ofUtc leapDay lastSecond).time = lastSecond := by decide +kernel
  have hlater := (hrender later rfl (by decide +kernel)).1
  have hshell := ((hrender (Moment.ofUtc leapDay lastSecond) rfl (by decide +kernel)).2
    (by decide +kernel)).2 "Thu".toList "CEST".toList (by decide +kernel)
    (isZone_iff.1 (by decide +kernel))
  rw [hfraction] at hlater
  rw [hdate, htime] at hshell
  exact ⟨hvalid, rfl, hnext leapDay hvalid,
    (hparse leapDayText _).2 ⟨_, _, _, reads_leapDayText, Nat.zero_le maxDigits, rfl⟩,
    fun form d t h => hunique _ _ _ _ _ _ _ h reads_leapDayText, hlater, hshell⟩

/-- The digits of a fraction that is written out too long. -/
def manyDigits : List Char := "1234567891234567891234567891234567".toList

/-- A text in the second form is not read if its fraction has too many digits. -/
theorem long_fraction_refused :
    Reads (.fraction manyDigits) ⟨2006, 1, 2⟩ ⟨15, 4, 5, 123456789⟩
        "2006-01-02T15:04:05.1234567891234567891234567891234567Z".toList ∧
      parse? "2006-01-02T15:04:05.1234567891234567891234567891234567Z" = none := by
  have htext : "2006-01-02T15:04:05.1234567891234567891234567891234567Z".toList =
      "2006-01-02".toList ++ 'T' :: ("15:04:05".toList ++ '.' :: (manyDigits ++ ['Z'])) := by
    decide +kernel
  have hdate : isoDate? "2006-01-02".toList = some ⟨2006, 1, 2⟩ := by decide +kernel
  have hclock : clock? "15:04:05".toList 123456789 = some ⟨15, 4, 5, 123456789⟩ := by
    decide +kernel
  refine ⟨?_, by decide +kernel⟩
  rw [htext]
  exact ⟨.iso (isoDate?_eq_some_iff.1 hdate).1 (clock?_eq_some_iff.1 hclock).1 (.fraction _),
    ⟨by decide +kernel, List.all_eq_true.1 (by decide +kernel), by decide +kernel⟩, by decide,
    by decide⟩

end Sample

end WorkloadAuth.SigningTime
