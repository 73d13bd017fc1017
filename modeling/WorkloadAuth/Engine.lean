import WorkloadAuth.Directory.Reconcile
import WorkloadAuth.FailureId
import WorkloadAuth.Metrics
import WorkloadAuth.Dialogue
import WorkloadAuth.Scheme
import WorkloadAuth.Signature

/-!
# Engines

An engine decides on logins and renewals. It keeps nothing itself: what it has to know it asks for,
anew for each decision.

* `Surroundings`: what any engine may ask for.
* `Engine`: the parts of an engine.
* `Engine.Parts`, `Engine.Parts.build`: an engine of given parts; some have a default.
* `Engine.findRole`, `Engine.validate`: the checks that logins and renewals share.
-/

namespace WorkloadAuth

open Calendar Directory

/-- How records of a directory are looked up by their identifiers. -/
abbrev LookUp (I : Interface) := (kind : RecordKind) → String → Dialogue I (Found kind)

/-- What any engine may ask for. -/
structure Surroundings (I : Interface.{0}) where
  /-- The time of the system. -/
  systemClock : Dialogue I Moment
  /-- A new identifier. -/
  failureId : Dialogue I FailureId
  /-- Writes a log record. -/
  log : Log.Record → Dialogue I Unit
  /-- Counts one more. -/
  count : Counter → Dialogue I Unit

/-- The parts of an engine. -/
structure Engine (I : Interface.{0}) where
  surroundings : Surroundings I
  /-- The time at which requests are received. -/
  clock : Dialogue I Moment
  scheme : IdentityScheme
  /-- The stored configuration, if there is one; the store may fail. -/
  configuration : Dialogue I (Except Failure (Option Configuration))
  /-- The stored role with a name, if there is one; the store may fail. -/
  role : String → Dialogue I (Except Failure (Option Role))
  /-- The certificate with whose key a signature was made. -/
  certificateFor : String → SignedData → Dialogue I (Except Failure Certificate)
  /-- A new client of the directory. -/
  connect : Log.Context → DirectorySettings → Dialogue I (Except Failure (LookUp I))

namespace Engine

variable {I : Interface.{0}}

/-! ## Building -/

/-- The parts that an engine may be built of. -/
structure Parts (I : Interface.{0}) where
  clock : Option (Dialogue I Moment) := none
  scheme : Option IdentityScheme := none
  configuration : Option (Dialogue I (Except Failure (Option Configuration))) := none
  role : Option (String → Dialogue I (Except Failure (Option Role))) := none
  certificateFor : Option (String → SignedData → Dialogue I (Except Failure Certificate)) := none
  connect :
    Option (Log.Context → DirectorySettings → Dialogue I (Except Failure (LookUp I))) := none

/-- A part that an engine cannot do without. -/
def require {α : Type} (dependency : Dependency) : Option α → Except Cause α
  | some a => .ok a
  | none => .error (.missingDependency dependency)

/-- The engine of some parts (`EngineBuilder::build`). Without others, the time of the system and
the usual scheme are taken. -/
def Parts.build (p : Parts I) (s : Surroundings I) (reader : CertificateFault → String) :
    Except Cause (Engine I) := do
  let configuration ← require .configurationStore p.configuration
  let connect ← require .directoryFactory p.connect
  let role ← require .roleStore p.role
  let certificateFor ← require .signatureMatcher p.certificateFor
  .ok
    { surroundings := s
      clock := p.clock.getD s.systemClock
      scheme := p.scheme.getD (.standard reader)
      configuration, role, certificateFor, connect }

/-! ## Shared checks -/

/-- What a part of an engine asks for, as a step that may fail. -/
def attempt {α : Type} (p : Dialogue I (Except Failure α)) : ExceptT Failure (Dialogue I) α :=
  ExceptT.mk p

/-- The role with a name, for `Engine::attempt_login` and `Engine::attempt_renew`. -/
def findRole (e : Engine I) (name : String) : ExceptT Failure (Dialogue I) Role := do
  match ← attempt (e.role name) with
  | none => throw (.of (.noMatchingRole name))
  | some role => pure role

/-- Checks that a role allows an identity and that the directory agrees with it
(`Engine::validate`). -/
def validate (e : Engine I) (context : Log.Context) (settings : DirectorySettings) (role : Role)
    (identity : Identity) (remote : String) : ExceptT Failure (Dialogue I) Unit := do
  match role.check identity remote with
  | .error mismatch => throw (.of (.roleMismatch mismatch))
  | .ok () =>
    let lookUp ← attempt (e.connect context settings)
    reconcile ⟨lookUp, e.surroundings.log⟩ context identity

end Engine

end WorkloadAuth
