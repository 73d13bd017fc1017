/-!
# Metrics

Logins and renewals are counted, and the counters are registered where they are collected from.

* `Counter`: the counters, with their names and what they tell.
* `Counts`: the values of the counters.
* `Registry`: what is collected. No two collectors have one name.
* `Registration`: whether the counters have been registered, which happens only once.
* `Registration.register`: registers the counters, unless that has been tried before.
-/

namespace WorkloadAuth

/-- What is counted. -/
inductive Counter where
  | loginCount
  | loginFailed
  | renewCount
  | renewFailed
  deriving DecidableEq, Repr

namespace Counter

/-- The name of a counter. -/
def name : Counter → String
  | loginCount => "cf_auth_login_count"
  | loginFailed => "cf_auth_login_failed"
  | renewCount => "cf_auth_renew_count"
  | renewFailed => "cf_auth_renew_failed"

/-- What a counter tells. -/
def help : Counter → String
  | loginCount => "Total number of login attempts"
  | loginFailed => "Number of login attempts that were denied"
  | renewCount => "Total number of credential renewal attempts"
  | renewFailed => "Number of credential renewal attempts that were denied"

/-- All counters, in the order in which they are registered. -/
def all : List Counter := [loginCount, loginFailed, renewCount, renewFailed]

end Counter

/-- The values of the counters. -/
structure Counts where
  loginCount : Nat := 0
  loginFailed : Nat := 0
  renewCount : Nat := 0
  renewFailed : Nat := 0
  deriving DecidableEq, Repr

namespace Counts

/-- The value of a counter. -/
def get (c : Counts) : Counter → Nat
  | .loginCount => c.loginCount
  | .loginFailed => c.loginFailed
  | .renewCount => c.renewCount
  | .renewFailed => c.renewFailed

/-- Counts one more. -/
def increment (c : Counts) : Counter → Counts
  | .loginCount => { c with loginCount := c.loginCount + 1 }
  | .loginFailed => { c with loginFailed := c.loginFailed + 1 }
  | .renewCount => { c with renewCount := c.renewCount + 1 }
  | .renewFailed => { c with renewFailed := c.renewFailed + 1 }

end Counts

/-- Something that is collected, by its name, and what it tells. -/
structure Collector where
  name : String
  help : String
  deriving DecidableEq, Repr

/-- The collector of a counter. -/
def Counter.collector (c : Counter) : Collector := ⟨c.name, c.help⟩

/-- What is collected. -/
structure Registry where
  collectors : List Collector := []
  deriving DecidableEq, Repr

namespace Registry

/-- Whether something is collected under a name. -/
def has (r : Registry) (name : String) : Bool := r.collectors.any fun c => c.name == name

/-- Registers a collector, unless its name is taken. -/
def add? (r : Registry) (c : Collector) : Option Registry :=
  if r.has c.name then none else some ⟨r.collectors ++ [c]⟩

/-- Registers collectors one after the other, up to the first whose name is taken. Tells whether all
are registered. -/
def addAll (r : Registry) : List Collector → Bool × Registry
  | [] => (true, r)
  | c :: rest =>
    match r.add? c with
    | none => (false, r)
    | some r => r.addAll rest

/-- What is collected, in the order of the names. -/
def gather (r : Registry) : List Collector :=
  r.collectors.mergeSort fun a b => a.name ≤ b.name

end Registry

/-- Whether the counters have been registered. -/
structure Registration where
  done : Bool := false
  deriving DecidableEq, Repr

namespace Registration

/-- Registers the counters, and tells whether that went well (`register_metrics`). They count as
registered from the start of the first attempt on, and nothing is registered after that. -/
def register (state : Registration) (r : Registry) : Bool × Registration × Registry :=
  if state.done then (true, state, r)
  else
    let (succeeded, r) := r.addAll (Counter.all.map Counter.collector)
    (succeeded, ⟨true⟩, r)

end Registration

end WorkloadAuth
