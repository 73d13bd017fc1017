import WorkloadAuth.Net.Address

/-!
# Identities

Who a workload is: an instance of an app, in a space of an organization, at an address.

* `Identity`: the four identifiers and the address.
* `IdentityField`: the names of its parts.
* `Identity.make`: an identity whose identifiers are not empty.
-/

namespace WorkloadAuth

open Net

/-- A part of an identity. -/
inductive IdentityField where
  | serviceInstance
  | org
  | space
  | app
  | address
  deriving DecidableEq, Repr

/-- The name of a part in messages. -/
def IdentityField.label : IdentityField → String
  | .serviceInstance => "instance ID"
  | .org => "org ID"
  | .space => "space ID"
  | .app => "app ID"
  | .address => "IP address"

/-- The identity of an app instance. -/
structure Identity where
  instanceId : String
  orgId : String
  spaceId : String
  appId : String
  address : IpAddress
  deriving DecidableEq, Repr

namespace Identity

/-- The first identifier that is empty, in the order instance, organization, space, app. -/
def emptyField? (i : Identity) : Option IdentityField :=
  if i.instanceId = "" then some .serviceInstance
  else if i.orgId = "" then some .org
  else if i.spaceId = "" then some .space
  else if i.appId = "" then some .app
  else none

/-- The identity with given parts, unless an identifier is empty; then the first empty one
(`VerifiedIdentity::new`). -/
def make (instanceId orgId spaceId appId : String) (address : IpAddress) :
    Except IdentityField Identity :=
  let identity : Identity := ⟨instanceId, orgId, spaceId, appId, address⟩
  match identity.emptyField? with
  | some field => .error field
  | none => .ok identity

/-- No identifier is empty. -/
def Complete (i : Identity) : Prop :=
  i.instanceId ≠ "" ∧ i.orgId ≠ "" ∧ i.spaceId ≠ "" ∧ i.appId ≠ ""

theorem emptyField?_eq_none_iff (i : Identity) : i.emptyField? = none ↔ i.Complete := by
  unfold emptyField? Complete
  repeat' split
  all_goals simp_all

end Identity

end WorkloadAuth
