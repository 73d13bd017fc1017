import WorkloadAuth.Failure
import WorkloadAuth.Log
import WorkloadAuth.Dialogue

/-!
# Reconciliation

Certificates outlive what they describe, so every claim of an identity is checked against the
current records of the directory. Records are looked up one after the other, and the first
disagreement ends the checks: the service instance is in the space, the app is in the space and
runs, the organization exists, the space is in the organization.

* `Directory.Access`: how a dialogue looks up records and writes log records.
* `Directory.find`: a look-up; its failure tells the record.
* `Directory.reconcile`: the checks.
-/

namespace WorkloadAuth.Directory

/-- The answer to a look-up. -/
abbrev Found (kind : RecordKind) := Except Failure kind.Record

/-- What a dialogue over an interface asks for when it looks up a record by its identifier, and when
it writes a log record. -/
structure Access (I : Interface) where
  lookUp : (kind : RecordKind) → (id : String) → Dialogue I (Found kind)
  log : Log.Record → Dialogue I Unit

variable {I : Interface}

/-- A record; if there is none, the failure tells which one was looked for. -/
def find (access : Access I) (kind : RecordKind) (id : String) :
    ExceptT Failure (Dialogue I) kind.Record := ExceptT.mk do
  match ← access.lookUp kind id with
  | .ok record => pure (.ok record)
  | .error failure => pure (.error (failure.within (.aboutRecord kind id)))

/-- Checks that an identifier in a record is the claimed one (`expect`). -/
def agree (record : RecordKind) (field claimed actual : String) :
    ExceptT Failure (Dialogue I) Unit :=
  if actual = claimed then pure ()
  else throw (.of (.directoryMismatch ⟨field, claimed, actual, record⟩))

/-- Checks an identity against the records of the directory (`reconcile`). -/
def reconcile (access : Access I) (context : Log.Context) (identity : Identity) :
    ExceptT Failure (Dialogue I) Unit := do
  let inst ← find access .serviceInstance identity.instanceId
  agree .serviceInstance "instance" identity.instanceId inst.guid
  agree .serviceInstance "space" identity.spaceId inst.spaceGuid
  let app ← find access .app identity.appId
  agree .app "app" identity.appId app.guid
  agree .app "space" identity.spaceId app.spaceGuid
  if app.instances = 0 then throw (.of (.appNotRunning app.guid))
  let org ← find access .org identity.orgId
  agree .org "org" identity.orgId org.guid
  let space ← find access .space identity.spaceId
  agree .space "space" identity.spaceId space.guid
  agree .space "org" identity.orgId space.orgGuid
  ExceptT.lift (access.log (context.record .debug "Identity matches the Cloud Controller records"
    [[("instance_id", identity.instanceId)], [("app_id", identity.appId)],
      [("app_instances", toString app.instances.toNat)]]))

end WorkloadAuth.Directory
