import WorkloadAuth.Engine

/-!
# Renewals

A credential is renewed if the identity in its snapshot still passes the checks of its role and the
directory. No certificate is needed for that. The lifetimes follow the role as it is now.

* `Engine.attemptRenewal`: the checks, of which the first that fails tells the failure.
* `Engine.renew`: a renewal, which is counted and logged.
-/

namespace WorkloadAuth.Engine

variable {I : Interface.{0}}

/-- The name of the role that a credential was issued for. -/
def roleName (credential : Credential) : Except Failure String :=
  (Metadata.find credential.metadata .role).mapError fun fault => .of fault.cause

/-- The identity that a credential was issued for. -/
def snapshot (credential : Credential) : Except Failure Metadata :=
  (Metadata.decode credential.metadata).mapError fun fault => .of fault.cause

/-- The checks of a renewal (`Engine::attempt_renew`). -/
def attemptRenewal (e : Engine I) (context : Log.Context) (credential : Credential)
    (remote : String) : ExceptT Failure (Dialogue I) Credential := do
  match ← attempt e.configuration with
  | none => throw (.of .noDirectory)
  | some c =>
    let name ← ExceptT.mk (pure (roleName credential))
    let role ← e.findRole name
    let metadata ← ExceptT.mk (pure (snapshot credential))
    e.validate context c.directory role metadata.identity remote
    let renewed := credential.refresh role
    ExceptT.lift (e.surroundings.log (context.record .debug "Credential renewed"
      [[("ttl_sec", toString renewed.lease.ttl.toNat)],
        [("max_ttl_sec", toString renewed.lease.maxTtl.toNat)]]))
    pure renewed

/-- The context of the log records of a renewal. -/
def renewalContext (context : Log.Context) (credential : Credential) (remote : String) :
    Log.Context :=
  context.attach [("instance_id", credential.displayName), ("remote_addr", remote)]

/-- Renews a credential for a workload at a remote address (`Engine::renew`). -/
def renew (e : Engine I) (context : Log.Context) (credential : Credential) (remote : String) :
    Dialogue I (Except Failure Credential) := do
  e.surroundings.count .renewCount
  let context := renewalContext context credential remote
  match ← (e.attemptRenewal context credential remote).run with
  | .ok renewed => pure (.ok renewed)
  | .error failure =>
    e.surroundings.count .renewFailed
    e.surroundings.log (context.record .warning "Credential renewal denied"
      [failure.entry e.scheme.reader])
    pure (.error failure)

end WorkloadAuth.Engine
