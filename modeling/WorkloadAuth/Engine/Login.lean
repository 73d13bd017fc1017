import WorkloadAuth.Engine
import WorkloadAuth.SigningTime

/-!
# Logins

A workload shows its certificate, the role that it asks for, and a signature that is not too old. If
all checks pass it gets a credential. If one fails it learns an identifier only; the log tells the
failure under this identifier.

* `LoginOutcome`: how a login ends.
* `Engine.attemptLogin`: the checks, of which the first that fails tells the failure.
* `Engine.login`: a login, which is counted and logged.
-/

namespace WorkloadAuth

open Calendar

/-- How a login ends. -/
inductive LoginOutcome where
  | issued (credential : Credential)
  | refused (id : FailureId)
  /-- The window of the request reaches beyond the calendar. -/
  | aborted
  deriving DecidableEq, Repr

/-- Why a login does not go on. -/
inductive Halt where
  | failed (failure : Failure)
  | aborted
  deriving DecidableEq, Repr

/-- Why a login does not go on after a look at the window. -/
def Window.Fault.halt : Window.Fault → Halt
  | .beyondCalendar => .aborted
  | fault => .failed (.of (.outsideWindow fault))

namespace Engine

variable {I : Interface.{0}}

/-- The step that ends with a cause, or goes on with a value. -/
def settled {α : Type} (result : Except Failure α) : ExceptT Failure (Dialogue I) α :=
  ExceptT.mk (pure result)

/-- Checks the fields of a request and the time it was signed at, without asking for anything: what
`Engine::attempt_login` does before it asks the matcher. -/
def screen (request : LoginRequest) (received : Moment) : Except Halt Unit :=
  match request.emptyField? with
  | some field => .error (.failed (.of (.missingField field)))
  | none =>
    match SigningTime.parse? request.signingTime with
    | none => .error (.failed (.of (.unreadableSigningTime request.signingTime)))
    | some signed =>
      (Window.check signed received request.signingTime).mapError Window.Fault.halt

/-- The certificates that are presented in a request. -/
def presented (request : LoginRequest) : Except Failure (List Certificate) :=
  (Certificate.chainOfPem request.certificate).mapError fun fault =>
    .of (.undecodableCertificate fault)

/-- The identity of the owner of a certificate that came with a request. -/
def authenticate (scheme : IdentityScheme) (c : Configuration) (certificate : Certificate)
    (request : LoginRequest) (received : Moment) : Except Failure Identity := do
  let settings ← c.trustSettings.mapError fun fault => .of fault.cause
  let others ← presented request
  scheme.verify certificate others settings received
  scheme.identify certificate

/-- The checks of a screened request: the rest of `Engine::attempt_login`. -/
def examine (e : Engine I) (context : Log.Context) (request : LoginRequest) (received : Moment)
    (remote : String) : ExceptT Failure (Dialogue I) Credential := do
  let certificate ← attempt (e.certificateFor request.signature request.signedData)
  match ← attempt e.configuration with
  | none => throw (.of .noRoots)
  | some c =>
    let identity ← settled (authenticate e.scheme c certificate request received)
    let role ← e.findRole request.role
    e.validate context c.directory role identity remote
    pure (Credential.issue request.role role identity)

/-- The checks of a request (`Engine::attempt_login`). -/
def attemptLogin (e : Engine I) (context : Log.Context) (request : LoginRequest) (remote : String) :
    Dialogue I (Except Halt Credential) := do
  let received ← e.clock
  match screen request received with
  | .error halt => pure (.error halt)
  | .ok () =>
    let result ← (e.examine context request received remote).run
    pure (result.mapError .failed)

/-- The context of the log records of a login. -/
def loginContext (context : Log.Context) (request : LoginRequest) (remote : String) : Log.Context :=
  context.attach [("role", request.role), ("remote_addr", remote)]

/-- Writes a failure into the log under a new identifier (`redact`). -/
def redact (e : Engine I) (context : Log.Context) (failure : Failure) : Dialogue I FailureId := do
  let id ← e.surroundings.failureId
  e.surroundings.log (context.record .error id.notice
    [[("failure_id", id.render)], failure.entry e.scheme.reader])
  pure id

/-- Logs a workload in that sends a request from a remote address (`Engine::login`). -/
def login (e : Engine I) (context : Log.Context) (request : LoginRequest) (remote : String) :
    Dialogue I LoginOutcome := do
  e.surroundings.count .loginCount
  let context := loginContext context request remote
  match ← e.attemptLogin context request remote with
  | .ok credential =>
    e.surroundings.log (context.record .info "Workload authenticated"
      [[("instance_id", credential.displayName)], [("app_id", credential.aliasName)]])
    pure (.issued credential)
  | .error .aborted => pure .aborted
  | .error (.failed failure) =>
    e.surroundings.count .loginFailed
    let id ← e.redact context failure
    pure (.refused id)

end Engine

end WorkloadAuth
