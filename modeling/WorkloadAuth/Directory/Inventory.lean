import WorkloadAuth.Dictionary
import WorkloadAuth.Failure

/-!
# Inventories

A directory in memory, which keeps account of the look-ups in it.

* `Inventory`: the records, and the look-ups so far.
* `Inventory.forIdentity`: the records that agree with an identity, with one running app instance.
* `Inventory.lookUp`: a look-up.
-/

namespace WorkloadAuth

/-- The records of a directory by their identifiers, with what was asked of it. -/
structure Inventory where
  apps : Dictionary App := Dictionary.empty
  orgs : Dictionary Org := Dictionary.empty
  serviceInstances : Dictionary ServiceInstance := Dictionary.empty
  spaces : Dictionary Space := Dictionary.empty
  /-- The look-ups, in order. -/
  calls : List (RecordKind × String) := []
  /-- How many clients were made. -/
  clients : Nat := 0

namespace Inventory

/-- The inventory without records. -/
def empty : Inventory := {}

/-- The inventory with one more app, which is found under a given identifier. -/
def insertApp (i : Inventory) (id : String) (app : App) : Inventory :=
  { i with apps := i.apps.insert id app }

/-- The inventory with one more organization. -/
def insertOrg (i : Inventory) (org : Org) : Inventory :=
  { i with orgs := i.orgs.insert org.guid org }

/-- The inventory with one more service instance. -/
def insertServiceInstance (i : Inventory) (inst : ServiceInstance) : Inventory :=
  { i with serviceInstances := i.serviceInstances.insert inst.guid inst }

/-- The inventory with one more space. -/
def insertSpace (i : Inventory) (space : Space) : Inventory :=
  { i with spaces := i.spaces.insert space.guid space }

/-- The records that agree with an identity (`DirectoryFixture::for_identity`). -/
def forIdentity (identity : Identity) : Inventory :=
  (((empty.insertServiceInstance ⟨identity.instanceId, identity.spaceId⟩).insertApp identity.appId
    ⟨identity.appId, 1, identity.spaceId⟩).insertOrg ⟨identity.orgId⟩).insertSpace
    ⟨identity.spaceId, identity.orgId⟩

/-- The record of a kind with an identifier. -/
def get? (i : Inventory) (kind : RecordKind) (id : String) : Option kind.Record :=
  match kind with
  | .app => i.apps.get? id
  | .org => i.orgs.get? id
  | .serviceInstance => i.serviceInstances.get? id
  | .space => i.spaces.get? id

/-- Looks up a record. -/
def lookUp (i : Inventory) (kind : RecordKind) (id : String) :
    Except Failure kind.Record × Inventory :=
  let answer : Except Failure kind.Record :=
    match i.get? kind id with
    | some record => .ok record
    | none => .error (.of .recordNotFound)
  (answer, { i with calls := i.calls ++ [(kind, id)] })

/-- Makes a client. -/
def connect (i : Inventory) : Inventory := { i with clients := i.clients + 1 }

end Inventory

end WorkloadAuth
