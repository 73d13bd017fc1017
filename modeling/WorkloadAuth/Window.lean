import WorkloadAuth.Calendar.Moment

/-!
# The replay window

Signed requests are accepted for a short time after they were signed. The window is asymmetric:
signatures up to five minutes old pass, but only thirty seconds of clock skew are tolerated for
signatures from the future. Both ends belong to the window.

* `Window.Fault`: why a request falls outside of it.
* `Window.check`: whether a request signed at one moment may be received at another.
-/

namespace WorkloadAuth.Window

open Calendar

/-- The age up to which a signature is accepted, in nanoseconds. -/
def maxAge : Int := 5 * 60 * nanosPerSecond

/-- How far in the future a signature may claim to be made, in nanoseconds. -/
def maxSkew : Int := 30 * nanosPerSecond

/-- Why a request is not inside the window. -/
inductive Fault where
  /-- It was signed too long ago. -/
  | tooOld (raw : String) (received signed : Moment)
  /-- It claims to be signed too far in the future. -/
  | tooFarInFuture (raw : String) (received signed : Moment)
  /-- An end of the window lies beyond the years of the calendar. -/
  | beyondCalendar
  deriving DecidableEq, Repr

/-- The words for a request outside of the window. The signing time is shown as it was read and as
it was written. -/
def Fault.message : Fault → String
  | .tooOld raw received signed =>
    s!"request is too old; signed at {signed.render} but received request at {received.render}" ++
      s!"; raw signing time is {raw}"
  | .tooFarInFuture raw received signed =>
    s!"request is too far in the future; signed at {signed.render} but received request at " ++
      s!"{received.render}; raw signing time is {raw}"
  | .beyondCalendar => "the window reaches beyond the calendar"

/-- Checks that a request signed at `signed`, which its client wrote as `raw`, may be received at
`received` (`check_window`). The later end of the window is only looked at when the earlier one is
passed. -/
def check (signed received : Moment) (raw : String) : Except Fault Unit :=
  match received.add? (-maxAge) with
  | none => .error .beyondCalendar
  | some earliest =>
    if signed.nanos < earliest.nanos then .error (.tooOld raw received signed)
    else
      match received.add? maxSkew with
      | none => .error .beyondCalendar
      | some latest =>
        if latest.nanos < signed.nanos then .error (.tooFarInFuture raw received signed)
        else .ok ()

end WorkloadAuth.Window
