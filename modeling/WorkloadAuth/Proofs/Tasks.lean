import WorkloadAuth.Engine.Login
import WorkloadAuth.Engine.Renewal

/-!
# Tasks of engines

A login and a renewal are checks with a frame around them that counts and logs.

* `Task`, `Task.Ending`, `Task.dialogue`: what an engine decides on, and how it does.
* `Task.credential?`: the credential that a task may end with.
* `Engine.login_eq`, `Engine.renew_eq`: the checks in their frame.
-/

namespace WorkloadAuth

variable {I : Interface.{0}}

/-- What an engine decides on. -/
inductive Task where
  | login (context : Log.Context) (request : LoginRequest) (remote : String)
  | renew (context : Log.Context) (credential : Credential) (remote : String)

namespace Task

/-- How a task ends. -/
@[reducible] def Ending : Task → Type
  | login .. => LoginOutcome
  | renew .. => Except Failure Credential

/-- The dialogue of a task. -/
def dialogue (e : Engine I) : (t : Task) → Dialogue I t.Ending
  | login context request remote => e.login context request remote
  | renew context credential remote => e.renew context credential remote

/-- The credential that a task has ended with, if it has. -/
def credential? : (t : Task) → t.Ending → Option Credential
  | login .., .issued credential => some credential
  | login .., _ => none
  | renew .., .ok credential => some credential
  | renew .., .error _ => none

/-- Whether a task is a login. -/
def isLogin : Task → Bool
  | login .. => true
  | renew .. => false

/-- Whether a task is a renewal. -/
def isRenewal : Task → Bool
  | login .. => false
  | renew .. => true

end Task

namespace Engine

variable (e : Engine I)

/-- How a login goes on after its checks. -/
def concludeLogin (context : Log.Context) :
    Except Halt Credential → Dialogue I LoginOutcome
  | .ok credential => do
    e.surroundings.log (context.record .info "Workload authenticated"
      [[("instance_id", credential.displayName)], [("app_id", credential.aliasName)]])
    pure (.issued credential)
  | .error .aborted => pure .aborted
  | .error (.failed failure) => do
    e.surroundings.count .loginFailed
    LoginOutcome.refused <$> e.redact context failure

theorem login_eq (context : Log.Context) (request : LoginRequest) (remote : String) :
    e.login context request remote = (do
      e.surroundings.count .loginCount
      let checked ← e.attemptLogin (loginContext context request remote) request remote
      e.concludeLogin (loginContext context request remote) checked) := by
  unfold login concludeLogin
  rfl

/-- How a renewal goes on after its checks. -/
def concludeRenewal (context : Log.Context) :
    Except Failure Credential → Dialogue I (Except Failure Credential)
  | .ok renewed => pure (.ok renewed)
  | .error failure => do
    e.surroundings.count .renewFailed
    e.surroundings.log (context.record .warning "Credential renewal denied"
      [failure.entry e.scheme.reader])
    pure (.error failure)

theorem renew_eq (context : Log.Context) (credential : Credential) (remote : String) :
    e.renew context credential remote = (do
      e.surroundings.count .renewCount
      let checked ←
        (e.attemptRenewal (renewalContext context credential remote) credential remote).run
      e.concludeRenewal (renewalContext context credential remote) checked) := by
  unfold renew concludeRenewal
  rfl

end Engine

end WorkloadAuth
