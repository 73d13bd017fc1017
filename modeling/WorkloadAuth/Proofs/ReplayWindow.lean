import WorkloadAuth.Proofs.CalendarDays
import WorkloadAuth.Proofs.Refusals

/-!
# Replays

A request is accepted in a window around the time at which it was signed. The window compares
instants; only its ends have to be in the calendar, which depends on the offset that the time of
receipt is written in.

* `Calendar.yearStart`, `Moment.inCalendar_iff`: where the calendar starts and ends.
* `Window.check_eq`: the check of the window without the calendar.
* `Window.check_exact`: which requests pass, and what becomes of replays.
-/

namespace WorkloadAuth

open Calendar

/-! ## The ends of the calendar -/

namespace Calendar

/-- The instant at which a year starts on a clock that is ahead of UTC by some seconds. -/
def yearStart (year offset : Int) : Int :=
  ((Date.mk year 1 1).dayNumber * secondsPerDay - offset) * nanosPerSecond

/-- The calendar has the local years from -9999 to 9999. -/
theorem Moment.inCalendar_iff {m : Moment} :
    m.InCalendar ↔ yearStart (-9999) m.offset ≤ m.nanos ∧ m.nanos < yearStart 10000 m.offset := by
  have hfirst : (Date.mk (-9999) 1 1).dayNumber = -4371587 := by decide
  have hlast : (Date.mk 10000 1 1).dayNumber = 2932897 := by decide
  simp only [Moment.InCalendar, Moment.localSeconds, Moment.unixSeconds, Moment.firstSecond,
    Moment.lastSecond, yearStart, hfirst, hlast, secondsPerDay, nanosPerSecond]
  omega

end Calendar

/-! ## The check -/

namespace Window

/-- The calendar has both ends of the window of a time of receipt. -/
structure Inside (received : Moment) : Prop where
  earliest : yearStart (-9999) received.offset ≤ received.nanos - maxAge
  latest : received.nanos + maxSkew < yearStart 10000 received.offset

theorem Inside.inCalendar {received : Moment} (h : Inside received) : received.InCalendar := by
  have hearliest := h.earliest
  have hlatest := h.latest
  simp only [maxAge, maxSkew, nanosPerSecond] at hearliest hlatest
  exact Moment.inCalendar_iff.2 ⟨by omega, by omega⟩

/-- For a time of receipt in the calendar, each end of the window can miss the calendar on its own
side only. -/
theorem check_eq {signed received : Moment} {raw : String} (h : received.InCalendar) :
    check signed received raw =
      if received.nanos - maxAge < yearStart (-9999) received.offset then .error .beyondCalendar
      else if signed.nanos < received.nanos - maxAge then .error (.tooOld raw received signed)
      else if yearStart 10000 received.offset ≤ received.nanos + maxSkew then
        .error .beyondCalendar
      else if received.nanos + maxSkew < signed.nanos then
        .error (.tooFarInFuture raw received signed)
      else .ok () := by
  obtain ⟨hfirst, hlast⟩ := Moment.inCalendar_iff.1 h
  have hage : 0 < maxAge := by decide
  have hskew : 0 < maxSkew := by decide
  have hearlier : Moment.InCalendar { received with nanos := received.nanos + -maxAge } ↔
      ¬ received.nanos - maxAge < yearStart (-9999) received.offset := by
    rw [Moment.inCalendar_iff]
    simp only
    omega
  have hlater : Moment.InCalendar { received with nanos := received.nanos + maxSkew } ↔
      ¬ yearStart 10000 received.offset ≤ received.nanos + maxSkew := by
    rw [Moment.inCalendar_iff]
    simp only
    omega
  simp only [check, Moment.add?, hearlier, hlater]
  by_cases hbefore : received.nanos - maxAge < yearStart (-9999) received.offset
  · simp only [hbefore, not_true, if_true, if_false]
  · simp only [hbefore, not_false_iff, if_true, if_false, ← Int.sub_eq_add_neg]
    by_cases hold : signed.nanos < received.nanos - maxAge
    · simp only [hold, if_true]
    · simp only [hold, if_false]
      by_cases hafter : yearStart 10000 received.offset ≤ received.nanos + maxSkew
      · simp only [hafter, not_true, if_true, if_false]
      · simp only [hafter, not_false_iff, if_true, if_false]

/-- What a check finds, without the times. -/
inductive Verdict where
  | passes
  | tooOld
  | tooFarInFuture
  | aborts
  deriving DecidableEq, Repr

/-- What a check finds, without the times. -/
def verdict : Except Fault Unit → Verdict
  | .ok () => .passes
  | .error (.tooOld ..) => .tooOld
  | .error (.tooFarInFuture ..) => .tooFarInFuture
  | .error .beyondCalendar => .aborts

section Check

variable {signed received signed' received' : Moment} {raw raw' : String}

/-- A check aborts if the calendar does not have an end of the window that is looked at. -/
theorem check_eq_beyondCalendar_iff (h : received.InCalendar) :
    check signed received raw = .error .beyondCalendar ↔
      received.nanos - maxAge < yearStart (-9999) received.offset ∨
        received.nanos - maxAge ≤ signed.nanos ∧
          yearStart 10000 received.offset ≤ received.nanos + maxSkew := by
  have hage : 0 < maxAge := by decide
  rw [check_eq h]
  split
  · simp only [true_iff]
    omega
  · split
    · simp only [reduceCtorEq, Except.error.injEq, false_iff]
      omega
    · split
      · simp only [true_iff]
        omega
      · split
        · simp only [reduceCtorEq, Except.error.injEq, false_iff]
          omega
        · simp only [reduceCtorEq, false_iff]
          omega

/-- A check that does not abort compares instants. -/
theorem check_of_ne (h : received.InCalendar)
    (hne : check signed received raw ≠ .error .beyondCalendar) :
    check signed received raw =
      if signed.nanos < received.nanos - maxAge then .error (.tooOld raw received signed)
      else if received.nanos + maxSkew < signed.nanos then
        .error (.tooFarInFuture raw received signed)
      else .ok () := by
  rw [Ne, check_eq_beyondCalendar_iff h] at hne
  rw [check_eq h, if_neg (by omega)]
  split
  · rfl
  · rw [if_neg (by omega)]

theorem check_eq_tooOld_iff (h : received.InCalendar)
    (hne : check signed received raw ≠ .error .beyondCalendar) :
    check signed received raw = .error (.tooOld raw received signed) ↔
      signed.nanos < received.nanos - maxAge := by
  rw [check_of_ne h hne]
  split
  · simp only [true_iff]
    assumption
  · split <;> simp only [reduceCtorEq, Except.error.injEq, false_iff] <;> assumption

theorem check_eq_tooFarInFuture_iff (h : received.InCalendar)
    (hne : check signed received raw ≠ .error .beyondCalendar) :
    check signed received raw = .error (.tooFarInFuture raw received signed) ↔
      received.nanos + maxSkew < signed.nanos := by
  have hage : 0 < maxAge := by decide
  have hskew : 0 < maxSkew := by decide
  rw [check_of_ne h hne]
  split
  · simp only [reduceCtorEq, Except.error.injEq, false_iff]
    omega
  · split
    · simp only [true_iff]
      assumption
    · simp only [reduceCtorEq, false_iff]
      assumption

theorem check_eq_passes_iff (h : received.InCalendar)
    (hne : check signed received raw ≠ .error .beyondCalendar) :
    check signed received raw = .ok () ↔
      received.nanos - maxAge ≤ signed.nanos ∧ signed.nanos ≤ received.nanos + maxSkew := by
  rw [check_of_ne h hne]
  split
  · simp only [reduceCtorEq, false_iff]
    omega
  · split
    · simp only [reduceCtorEq, false_iff]
      omega
    · simp only [true_iff]
      omega

/-- The offsets in which two times are written do not matter to a check that does not abort. -/
theorem verdict_congr (h : received.InCalendar) (h' : received'.InCalendar)
    (hsigned : signed'.nanos = signed.nanos) (hreceived : received'.nanos = received.nanos)
    (hne : check signed received raw ≠ .error .beyondCalendar)
    (hne' : check signed' received' raw' ≠ .error .beyondCalendar) :
    verdict (check signed' received' raw') = verdict (check signed received raw) := by
  rw [check_of_ne h hne, check_of_ne h' hne', hsigned, hreceived]
  split
  · rfl
  · split <;> rfl

theorem Inside.check_ne (h : Inside received) :
    check signed received raw ≠ .error .beyondCalendar := by
  have hearliest := h.earliest
  have hlatest := h.latest
  rw [Ne, check_eq_beyondCalendar_iff h.inCalendar]
  omega

end Check

/-! ## Replays -/

/-- A login passes the window at the times of receipt from thirty seconds before the signature to
five minutes after it. -/
theorem halt?_window_eq_none_iff {Client σ : Type} {l : Login Client σ} {signed : Moment}
    (hparsed : SigningTime.parse? l.request.signingTime = some signed)
    (hinside : Inside (l.world.receivedAt l.state)) :
    l.attempt.halt? .window = none ↔
      signed.nanos - maxSkew ≤ (l.world.receivedAt l.state).nanos ∧
        (l.world.receivedAt l.state).nanos ≤ signed.nanos + maxAge := by
  have hpasses : l.attempt.halt? .window = none ↔
      check signed (l.world.receivedAt l.state) l.request.signingTime = .ok () := by
    simp only [LoginAttempt.halt?, Login.attempt, hparsed, Option.bind_some]
    cases check signed (l.world.receivedAt l.state) l.request.signingTime <;> simp
  rw [hpasses, check_eq_passes_iff hinside.inCalendar hinside.check_ne]
  omega

/-- A login whose request was signed too long ago is refused at the window, whatever the state of
its world is, and so however often the request was received before. -/
theorem refusedAt_of_old {Client σ : Type} {l : Login Client σ} {signed : Moment}
    (hfields : ∀ f, l.request.value f ≠ "")
    (hparsed : SigningTime.parse? l.request.signingTime = some signed)
    (hinside : Inside (l.world.receivedAt l.state))
    (hold : signed.nanos + maxAge < (l.world.receivedAt l.state).nanos) :
    l.RefusedAt .window (.of (.outsideWindow
      (.tooOld l.request.signingTime (l.world.receivedAt l.state) signed))) := by
  have hcheck : check signed (l.world.receivedAt l.state) l.request.signingTime =
      .error (.tooOld l.request.signingTime (l.world.receivedAt l.state) signed) :=
    (check_eq_tooOld_iff hinside.inCalendar hinside.check_ne).2 (by omega)
  have hreached : l.attempt.Reaches .window :=
    (LoginAttempt.reaches_signingTime hfields).next
      (by simp only [LoginAttempt.halt?, Login.attempt, hparsed]) rfl
  refine Login.refusedAt_of_haltsAt ⟨hreached, ?_⟩
  simp only [LoginAttempt.halt?, Login.attempt, hparsed, hcheck, Option.bind_some,
    Except.error?_error, Option.map_some]
  rfl

/-- **The replay window, exactly.** The check aborts if the start of the window lies before the
calendar, or if its end lies behind it and is looked at. Otherwise the instants decide, and the
offsets in which they are written do not matter. Inside the calendar a signature passes at the times
of receipt from thirty seconds before it to five minutes after it, and every later login with it is
refused as too old. -/
theorem check_exact :
    (∀ (signed received : Moment) (raw : String), received.InCalendar →
      (check signed received raw = .error .beyondCalendar ↔
        received.nanos - maxAge < yearStart (-9999) received.offset ∨
          received.nanos - maxAge ≤ signed.nanos ∧
            yearStart 10000 received.offset ≤ received.nanos + maxSkew) ∧
      (check signed received raw ≠ .error .beyondCalendar →
        (check signed received raw = .error (.tooOld raw received signed) ↔
          signed.nanos < received.nanos - maxAge) ∧
        (check signed received raw = .error (.tooFarInFuture raw received signed) ↔
          received.nanos + maxSkew < signed.nanos) ∧
        (check signed received raw = .ok () ↔
          received.nanos - maxAge ≤ signed.nanos ∧ signed.nanos ≤ received.nanos + maxSkew))) ∧
    (∀ (signed received signed' received' : Moment) (raw raw' : String),
      received.InCalendar → received'.InCalendar →
      signed'.nanos = signed.nanos → received'.nanos = received.nanos →
      check signed received raw ≠ .error .beyondCalendar →
      check signed' received' raw' ≠ .error .beyondCalendar →
      verdict (check signed' received' raw') = verdict (check signed received raw)) ∧
    (∀ (Client σ : Type) (l : Login Client σ) (signed : Moment),
      SigningTime.parse? l.request.signingTime = some signed →
      Inside (l.world.receivedAt l.state) →
      (l.attempt.halt? .window = none ↔
        signed.nanos - maxSkew ≤ (l.world.receivedAt l.state).nanos ∧
          (l.world.receivedAt l.state).nanos ≤ signed.nanos + maxAge)) ∧
    (∀ (Client σ : Type) (l : Login Client σ) (signed : Moment),
      (∀ f, l.request.value f ≠ "") →
      SigningTime.parse? l.request.signingTime = some signed →
      Inside (l.world.receivedAt l.state) →
      signed.nanos + maxAge < (l.world.receivedAt l.state).nanos →
      l.RefusedAt .window (.of (.outsideWindow
        (.tooOld l.request.signingTime (l.world.receivedAt l.state) signed)))) := by
  refine ⟨fun signed received raw h => ⟨check_eq_beyondCalendar_iff h, fun hne => ?_⟩,
    fun signed received signed' received' raw raw' h h' hsigned hreceived hne hne' =>
      verdict_congr h h' hsigned hreceived hne hne',
    fun Client σ l signed hparsed hinside => halt?_window_eq_none_iff hparsed hinside,
    fun Client σ l signed hfields hparsed hinside hold =>
      refusedAt_of_old hfields hparsed hinside hold⟩
  exact ⟨check_eq_tooOld_iff h hne, check_eq_tooFarInFuture_iff h hne, check_eq_passes_iff h hne⟩

namespace Sample

open World.Sample (login request)
open Certificate.Sample (leaf moment)

/-- Fifteen seconds before the calendar ends, on a clock in UTC. -/
def newYearsEve : Moment := ⟨253402300785 * nanosPerSecond, 0⟩

/-- The same instant on a clock that is behind UTC by an hour. -/
def hourBehind : Moment := { newYearsEve with offset := -3600 }

/-- A login with a request that was signed just in time. -/
def timely : Login Unit Unit :=
  { login with request := { request with signingTime := "2001-09-09T01:41:40Z" } }

def timelySigned : Moment := ⟨999999700 * nanosPerSecond, 0⟩

/-- A login with a request that was signed a second before. -/
def replay : Login Unit Unit :=
  { login with request := { request with signingTime := "2001-09-09T01:41:39Z" } }

def replaySigned : Moment := ⟨999999699 * nanosPerSecond, 0⟩

/-- The end of the calendar depends on the offset, and a replay on nothing but the time of its
receipt. -/
theorem replay_refused :
    newYearsEve.InCalendar ∧ hourBehind.InCalendar ∧
      check newYearsEve newYearsEve "" = .error .beyondCalendar ∧
      check newYearsEve hourBehind "" ≠ .error .beyondCalendar ∧
      check newYearsEve hourBehind "" = .ok () ∧
      check hourBehind hourBehind "" ≠ .error .beyondCalendar ∧
      verdict (check hourBehind hourBehind "") = verdict (check newYearsEve hourBehind "") ∧
      SigningTime.parse? timely.request.signingTime = some timelySigned ∧
      Inside (timely.world.receivedAt timely.state) ∧ timely.attempt.halt? .window = none ∧
      SigningTime.parse? replay.request.signingTime = some replaySigned ∧
      (∀ f, replay.request.value f ≠ "") ∧ Inside (replay.world.receivedAt replay.state) ∧
      replaySigned.nanos + maxAge < (replay.world.receivedAt replay.state).nanos ∧
      replay.RefusedAt .window (.of (.outsideWindow
        (.tooOld replay.request.signingTime (replay.world.receivedAt replay.state)
          replaySigned))) := by
  obtain ⟨hexact, hoffsets, hpasses, hreplays⟩ := check_exact
  have heve : newYearsEve.InCalendar := by decide +kernel
  have hbehind : hourBehind.InCalendar := by decide +kernel
  have hne : check newYearsEve hourBehind "" ≠ .error .beyondCalendar := by decide +kernel
  have hne' : check hourBehind hourBehind "" ≠ .error .beyondCalendar := by decide +kernel
  have htimely : SigningTime.parse? timely.request.signingTime = some timelySigned := by
    decide +kernel
  have hinside : Inside (timely.world.receivedAt timely.state) :=
    ⟨by decide +kernel, by decide +kernel⟩
  have hparsed : SigningTime.parse? replay.request.signingTime = some replaySigned := by
    decide +kernel
  have hfields : ∀ f, replay.request.value f ≠ "" := by
    intro f
    cases f with
    | role => decide
    | signature => decide
    | certificate => exact leaf.toPem_ne_empty
    | signingTime => decide
  have hreceived : Inside (replay.world.receivedAt replay.state) :=
    ⟨by decide +kernel, by decide +kernel⟩
  have hold : replaySigned.nanos + maxAge < (replay.world.receivedAt replay.state).nanos := by
    decide +kernel
  exact ⟨heve, hbehind, (hexact newYearsEve newYearsEve "" heve).1.2 (by decide +kernel), hne,
    ((hexact newYearsEve hourBehind "" hbehind).2 hne).2.2.2 (by decide +kernel), hne',
    hoffsets newYearsEve hourBehind hourBehind hourBehind "" "" hbehind hbehind rfl rfl hne hne',
    htimely, hinside,
    (hpasses Unit Unit timely timelySigned htimely hinside).2 (by decide +kernel), hparsed,
    hfields, hreceived, hold, hreplays Unit Unit replay replaySigned hfields hparsed hreceived hold⟩

end Sample

end Window

end WorkloadAuth
