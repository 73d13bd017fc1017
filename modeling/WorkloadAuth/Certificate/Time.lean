import WorkloadAuth.Calendar.Moment
import WorkloadAuth.Certificate.Element

/-!
# Times of a certificate

The ends of a certificate's validity as they are read where it is inspected.

* `timeAt?`: the time at the start of some octets. Seconds may be missing. Times with a year of two
  digits may be in another zone than UTC, and times with a year of four digits may have a fraction.
-/

namespace WorkloadAuth.Certificate

open Calendar

/-- The value of two decimal digits. -/
def pair? (a b : UInt8) : Option Nat :=
  let digit? (c : UInt8) : Option Nat :=
    if 0x30 ≤ c && c ≤ 0x39 then some (c.toNat - 0x30) else none
  do
    let x ← digit? a
    let y ← digit? b
    some (x * 10 + y)

/-- The values of pairs of digits at the start of some octets, and what follows them. -/
def pairs? : Nat → List UInt8 → Option (List Nat × List UInt8)
  | 0, bytes => some ([], bytes)
  | count + 1, a :: b :: rest => do
    let n ← pair? a b
    let (ns, rest) ← pairs? count rest
    some (n :: ns, rest)
  | _ + 1, _ => none

/-- An offset from UTC in seconds. -/
def zone? : List UInt8 → Option Int
  | [0x5a] => some 0
  | [sign, h₁, h₂, m₁, m₂] => do
    let hours ← pair? h₁ h₂
    let minutes ← pair? m₁ m₂
    if hours ≤ 25 ∧ minutes ≤ 59 then
      let offset : Int := hours * 3600 + minutes * 60
      if sign = 0x2b then some offset
      else if sign = 0x2d then some (if hours = 0 then offset else -offset)
      else none
    else none
  | _ => none

/-- The seconds of a time, if they are given, and what follows them. -/
def seconds? (bytes : List UInt8) : Option (Nat × List UInt8) :=
  match bytes with
  | a :: b :: rest => do
    let n ← pair? a b
    some (n, rest)
  | _ => some (0, bytes)

/-- The nanoseconds of a fraction of up to three digits, and what follows it. -/
def fraction? (bytes : List UInt8) : Option (Nat × List UInt8) :=
  match bytes with
  | 0x2e :: rest =>
    let isDigit (b : UInt8) : Bool := 0x30 ≤ b && b ≤ 0x39
    let digits := rest.takeWhile isDigit
    let value := digits.foldl (fun v b => v * 10 + (b.toNat - 0x30)) 0
    if digits.length ≤ 3 then
      some (value * Nat.pow 10 (9 - digits.length), rest.drop digits.length)
    else none
  | _ => some (0, bytes)

/-- The instant of a date and a time of day on a clock with an offset from UTC. -/
def instant? (year month day hour minute second nanosecond : Nat) (offset : Int) : Option Moment :=
  let date : Date := ⟨year, month, day⟩
  let time : TimeOfDay := ⟨hour, minute, second, nanosecond⟩
  if date.Valid ∧ time.Valid then
    some ⟨(Moment.ofUtc date time).nanos - offset * nanosPerSecond, offset⟩
  else none

/-- The content of a time with a year of two digits, which lies between 1950 and 2049. -/
def utcTime? (bytes : List UInt8) : Option Moment :=
  match pairs? 5 bytes with
  | some ([year, month, day, hour, minute], rest) => do
    let (second, rest) ← seconds? rest
    let offset ← zone? rest
    instant? (year + if 50 ≤ year then 1900 else 2000) month day hour minute second 0 offset
  | _ => none

/-- The content of a time with a year of four digits. -/
def generalizedTime? (bytes : List UInt8) : Option Moment :=
  match pairs? 6 bytes with
  | some ([century, year, month, day, hour, minute], rest) => do
    let (second, rest) ← seconds? rest
    let (nanosecond, rest) ← fraction? rest
    if rest = [0x5a] then instant? (century * 100 + year) month day hour minute second nanosecond 0
    else none
  | _ => none

/-- The time at the start of some octets. -/
def timeAt? (bytes : List UInt8) : Option (Moment × List UInt8) :=
  match Element.next? bytes with
  | some (e, rest) =>
    if e.tag = Tag.utcTime then (utcTime? e.content).map (·, rest)
    else if e.tag = Tag.generalizedTime then (generalizedTime? e.content).map (·, rest)
    else none
  | none => none

end WorkloadAuth.Certificate
