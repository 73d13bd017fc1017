import WorkloadAuth.Chain.Path
import WorkloadAuth.Proofs.CertificateTime
import WorkloadAuth.Proofs.Encoding

/-!
# Times of chains

The strict reader of times knows fewer forms than the lenient one, and no years before 1970. What
it reads is the same time to the lenient one.

* `Certificate.Element.next?_of_expect`, `Certificate.Element.expect?_of_expect`: the two readers
  on an element with a tag.
* `Certificate.instant?_of_timeContent`: a time of the strict reader, as pairs of digits.
* `Certificate.timeAt?_of_time`: the two readers on a time.
-/

namespace WorkloadAuth

open Calendar Chain

namespace Certificate

/-! ## Elements -/

section Elements

variable {bytes content rest : List UInt8}

theorem Element.next?_of_expect {tag : Chain.Tag}
    (h : Reader.expect tag bytes = .ok (content, rest)) :
    Element.next? bytes = some (.ofOctet tag.octet content, rest) :=
  next?_of_element? (Reader.element?_of_expect h)

theorem Element.header?_of_expect {tag : Chain.Tag}
    (h : Reader.expect tag bytes = .ok (content, rest)) :
    Element.header? bytes = some (⟨tag.octet.toNat / 64, tag.octet.toNat / 32 % 2 = 1,
      tag.octet.toNat % 32, content.length⟩, content ++ rest) :=
  (header?_of_element? (Reader.element?_of_expect h)).2.2

/-- The lenient reader minds the number of a tag only. -/
theorem Element.expect?_of_expect {tag : Chain.Tag}
    (h : Reader.expect tag bytes = .ok (content, rest)) :
    Element.expect? (tag.octet.toNat % 32) bytes = some (.ofOctet tag.octet content, rest) := by
  rw [expect?, next?_of_expect h]
  exact if_pos rfl

theorem Element.objectId?_of_expect (h : Reader.expect .objectId bytes = .ok (content, rest)) :
    Element.objectId? bytes = some (content, rest) := by
  rw [objectId?, next?_of_expect h]
  rfl

end Elements

/-! ## Times -/

section Times

variable {bytes rest : List UInt8}

/-- The number that two digits at a place write. -/
def pairAt (digits : List UInt8) (i : Nat) : Nat :=
  (digits.map fun b => b.toNat - 0x30).getD i 0 * 10 +
    (digits.map fun b => b.toNat - 0x30).getD (i + 1) 0

theorem pair?_of_isDigit {a b : UInt8} (ha : Dns.isDigit a = true) (hb : Dns.isDigit b = true) :
    pair? a b = some ((a.toNat - 0x30) * 10 + (b.toNat - 0x30)) := by
  unfold Dns.isDigit at ha hb
  simp [pair?, ha, hb]

/-- Digits are read as pairs. -/
theorem pairs?_of_isDigit {count : Nat} {digits : List UInt8} (hlength : digits.length = 2 * count)
    (hdigits : ∀ b ∈ digits, Dns.isDigit b = true) :
    pairs? count (digits ++ rest) =
      some ((List.range count).map fun k => pairAt digits (2 * k), rest) := by
  induction count generalizing digits with
  | zero =>
    obtain rfl := List.eq_nil_of_length_eq_zero hlength
    rfl
  | succ count ih =>
    obtain _ | ⟨a, _ | ⟨b, more⟩⟩ := digits
    · rw [List.length_nil] at hlength
      omega
    · rw [List.length_singleton] at hlength
      omega
    · simp only [List.mem_cons, forall_eq_or_imp] at hdigits
      obtain ⟨ha, hb, hmore⟩ := hdigits
      have hlength : more.length = 2 * count := by
        rw [List.length_cons, List.length_cons] at hlength
        omega
      rw [List.cons_append, List.cons_append, pairs?, pair?_of_isDigit ha hb, ih hlength hmore,
        List.range_succ_eq_map]
      simp only [Option.bind_eq_bind, Option.bind_some, List.map_cons, List.map_map]
      rfl

theorem pairs?_succ_eq_some_iff {count : Nat} {n : Nat} {ns : List Nat} :
    pairs? (count + 1) bytes = some (n :: ns, rest) ↔
      ∃ a b more, bytes = a :: b :: more ∧ pair? a b = some n ∧
        pairs? count more = some (ns, rest) := by
  match bytes with
  | [] => simp [pairs?]
  | [a] => simp [pairs?]
  | a :: b :: more =>
    simp only [pairs?, Option.bind_eq_bind, Option.bind_eq_some_iff, Option.some.injEq,
      Prod.mk.injEq, List.cons.injEq, Prod.exists]
    constructor
    · rintro ⟨_, hn, _, _, hns, ⟨rfl, rfl⟩, rfl⟩
      exact ⟨a, b, more, ⟨rfl, rfl, rfl⟩, hn, hns⟩
    · rintro ⟨_, _, _, ⟨rfl, rfl, rfl⟩, hn, hns⟩
      exact ⟨n, hn, ns, rest, hns, ⟨rfl, rfl⟩, rfl⟩

/-- The year that the first digits write. -/
def yearOf (width : Nat) (digits : List UInt8) : Nat :=
  if width = 2 then (if 50 ≤ pairAt digits 0 then 1900 else 2000) + pairAt digits 0
  else pairAt digits 0 * 100 + pairAt digits 2

/-- The parts of a time are the pairs of its digits. -/
theorem timeParts?_eq_some {width count : Nat} (hcount : width + 10 = 2 * count) {date : Date}
    {time : TimeOfDay} (h : timeParts? width bytes = some (date, time)) :
    ∃ digits,
      pairs? count bytes =
        some ((List.range count).map fun k => pairAt digits (2 * k), bytes.drop (width + 10)) ∧
      date = ⟨yearOf width digits, pairAt digits width, pairAt digits (width + 2)⟩ ∧
      time = ⟨pairAt digits (width + 4), pairAt digits (width + 6), pairAt digits (width + 8), 0⟩ ∧
      date.Valid ∧ time.Valid := by
  simp only [timeParts?, Option.ite_none_right_eq_some] at h
  obtain ⟨⟨hdigits, hlength⟩, hvalid, h⟩ := h
  obtain ⟨rfl, rfl⟩ := Prod.mk.inj (Option.some.inj h)
  rw [List.length_map] at hlength
  refine ⟨bytes.take (width + 10), ?_, rfl, rfl, hvalid⟩
  have hpairs : pairs? count (bytes.take (width + 10) ++ bytes.drop (width + 10)) = _ :=
    pairs?_of_isDigit (hlength.trans hcount) (List.all_eq_true.1 hdigits)
  rwa [List.take_append_drop] at hpairs

/-- Six pairs of digits are a time with a year of two digits. -/
theorem utcTime?_of_pairs {year month day hour minute second : Nat}
    (h : pairs? 6 bytes = some ([year, month, day, hour, minute, second], [0x5a])) :
    utcTime? bytes =
      instant? (year + if 50 ≤ year then 1900 else 2000) month day hour minute second 0 0 := by
  obtain ⟨_, _, _, rfl, hyear, h⟩ := pairs?_succ_eq_some_iff.1 h
  obtain ⟨_, _, _, rfl, hmonth, h⟩ := pairs?_succ_eq_some_iff.1 h
  obtain ⟨_, _, _, rfl, hday, h⟩ := pairs?_succ_eq_some_iff.1 h
  obtain ⟨_, _, _, rfl, hhour, h⟩ := pairs?_succ_eq_some_iff.1 h
  obtain ⟨_, _, _, rfl, hminute, h⟩ := pairs?_succ_eq_some_iff.1 h
  obtain ⟨_, _, _, rfl, hsecond, h⟩ := pairs?_succ_eq_some_iff.1 h
  cases h
  simp [utcTime?, pairs?, hyear, hmonth, hday, hhour, hminute, seconds?, hsecond, zone?]

/-- Seven pairs of digits are a time with a year of four digits. -/
theorem generalizedTime?_of_pairs {century year month day hour minute second : Nat}
    (h : pairs? 7 bytes = some ([century, year, month, day, hour, minute, second], [0x5a])) :
    generalizedTime? bytes = instant? (century * 100 + year) month day hour minute second 0 0 := by
  obtain ⟨_, _, _, rfl, hcentury, h⟩ := pairs?_succ_eq_some_iff.1 h
  obtain ⟨_, _, _, rfl, hyear, h⟩ := pairs?_succ_eq_some_iff.1 h
  obtain ⟨_, _, _, rfl, hmonth, h⟩ := pairs?_succ_eq_some_iff.1 h
  obtain ⟨_, _, _, rfl, hday, h⟩ := pairs?_succ_eq_some_iff.1 h
  obtain ⟨_, _, _, rfl, hhour, h⟩ := pairs?_succ_eq_some_iff.1 h
  obtain ⟨_, _, _, rfl, hminute, h⟩ := pairs?_succ_eq_some_iff.1 h
  obtain ⟨_, _, _, rfl, hsecond, h⟩ := pairs?_succ_eq_some_iff.1 h
  cases h
  simp [generalizedTime?, pairs?, hcentury, hyear, hmonth, hday, hhour, hminute, seconds?, hsecond,
    fraction?]

theorem timeContent_eq_ok {width seconds : Nat} (h : timeContent width bytes = .ok (seconds, [])) :
    ∃ date time, timeParts? width bytes = some (date, time) ∧ bytes.drop (width + 10) = [0x5a] ∧
      1970 ≤ date.year ∧ seconds = (Moment.ofUtc date time).unixSeconds.toNat := by
  unfold timeContent at h
  split at h
  · rename_i date time rest hparts hzone
    split at h
    · rename_i hyear
      cases h
      exact ⟨date, time, hparts, hzone, hyear, rfl⟩
    · cases h
  · cases h

/-- A time to the second in the years from 1970 on is its number of seconds since then. -/
theorem nanos_ofUtc {date : Date} {time : TimeOfDay} (hdate : date.Valid) (hyear : 1970 ≤ date.year)
    (hsecond : time.nanosecond = 0) :
    (Moment.ofUtc date time).nanos =
      ((Moment.ofUtc date time).unixSeconds.toNat : Int) * nanosPerSecond := by
  have hday := dayNumber_nonneg hdate hyear
  have htime : 0 ≤ time.seconds := Int.natCast_nonneg _
  simp only [Moment.unixSeconds, Moment.ofUtc, hsecond, nanosPerSecond, secondsPerDay]
  omega

theorem instant?_of_valid {year month day hour minute second : Nat}
    (hdate : Date.Valid ⟨year, month, day⟩) (htime : TimeOfDay.Valid ⟨hour, minute, second, 0⟩) :
    instant? year month day hour minute second 0 0 =
      some (Moment.ofUtc ⟨year, month, day⟩ ⟨hour, minute, second, 0⟩) := by
  rw [instant?, if_pos ⟨hdate, htime⟩, Int.zero_mul, Int.sub_zero]
  rfl

/-- What the strict reader reads as a time are pairs of digits and the sign of UTC, and these stand
for an instant that is as many seconds after 1970. -/
theorem instant?_of_timeContent {width count seconds : Nat} (hcount : width + 10 = 2 * count)
    (h : timeContent width bytes = .ok (seconds, [])) :
    ∃ digits m,
      pairs? count bytes =
        some ((List.range count).map fun k => pairAt digits (2 * k), [0x5a]) ∧
      instant? (yearOf width digits) (pairAt digits width) (pairAt digits (width + 2))
        (pairAt digits (width + 4)) (pairAt digits (width + 6)) (pairAt digits (width + 8)) 0 0 =
          some m ∧
      m.nanos = seconds * nanosPerSecond := by
  obtain ⟨date, time, hparts, hzone, hyear, rfl⟩ := timeContent_eq_ok h
  obtain ⟨digits, hpairs, rfl, rfl, hdate, htime⟩ := timeParts?_eq_some hcount hparts
  rw [hzone] at hpairs
  exact ⟨digits, _, hpairs, instant?_of_valid hdate htime, nanos_ofUtc hdate hyear rfl⟩

/-- A time with a year of two digits. -/
theorem utcTime?_of_timeContent {seconds : Nat} (h : timeContent 2 bytes = .ok (seconds, [])) :
    ∃ m, utcTime? bytes = some m ∧ m.nanos = seconds * nanosPerSecond := by
  obtain ⟨digits, m, hpairs, hinstant, hnanos⟩ :=
    instant?_of_timeContent (show 2 + 10 = 2 * 6 from rfl) h
  rw [yearOf, if_pos rfl, Nat.add_comm] at hinstant
  exact ⟨m, (utcTime?_of_pairs hpairs).trans hinstant, hnanos⟩

/-- A time with a year of four digits. -/
theorem generalizedTime?_of_timeContent {seconds : Nat}
    (h : timeContent 4 bytes = .ok (seconds, [])) :
    ∃ m, generalizedTime? bytes = some m ∧ m.nanos = seconds * nanosPerSecond := by
  obtain ⟨digits, m, hpairs, hinstant, hnanos⟩ :=
    instant?_of_timeContent (show 4 + 10 = 2 * 7 from rfl) h
  rw [yearOf, if_neg (by decide)] at hinstant
  exact ⟨m, (generalizedTime?_of_pairs hpairs).trans hinstant, hnanos⟩

/-- Both readers read the same time. -/
theorem timeAt?_of_time {seconds : Nat} (h : Chain.time bytes = .ok (seconds, rest)) :
    ∃ m, timeAt? bytes = some (m, rest) ∧ m.nanos = seconds * nanosPerSecond := by
  obtain ⟨isShort, bytes', hstarts, h⟩ := Reader.bind_eq_ok_iff.1 h
  obtain rfl : bytes = bytes' := congrArg Prod.snd (Except.ok.inj hstarts)
  split at h
  · obtain ⟨content, hexpect, hcontent⟩ := Reader.nested_eq_ok_iff.1 h
    obtain ⟨m, hm, hnanos⟩ := utcTime?_of_timeContent hcontent
    refine ⟨m, ?_, hnanos⟩
    rw [timeAt?, Element.next?_of_expect hexpect]
    show (utcTime? content).map _ = _
    rw [hm]
    rfl
  · obtain ⟨content, hexpect, hcontent⟩ := Reader.nested_eq_ok_iff.1 h
    obtain ⟨m, hm, hnanos⟩ := generalizedTime?_of_timeContent hcontent
    refine ⟨m, ?_, hnanos⟩
    rw [timeAt?, Element.next?_of_expect hexpect]
    show (generalizedTime? content).map _ = _
    rw [hm]
    rfl

end Times

end Certificate

end WorkloadAuth
