import WorkloadAuth.Identity
import WorkloadAuth.Role

/-!
# Credentials

What a workload gets when it logs in, and the snapshot of its identity inside the credential from
which the credential is renewed.

* `Metadata`: a role name and an identity, with `Metadata.encode` and `Metadata.decode`.
* `MetadataFault`: why a snapshot cannot be decoded.
* `Credential`: an issued credential and its schema.
* `Credential.issue`: the credential for an identity that passed all checks of a role;
  `Credential.issuedFor_iff`: all that it holds.
* `Credential.refresh`: a credential with the lifetimes of a role; `Credential.refreshedFrom_iff`:
  what is changed, and what is not.
-/

namespace WorkloadAuth

open Net

/-! ## Snapshots -/

/-- The keys of a snapshot. -/
inductive MetadataKey where
  | role
  | instanceId
  | orgId
  | appId
  | spaceId
  | ipAddress
  deriving DecidableEq, Repr

/-- The text of a key. -/
def MetadataKey.text : MetadataKey → String
  | .role => "role"
  | .instanceId => "instance_id"
  | .orgId => "org_id"
  | .appId => "app_id"
  | .spaceId => "space_id"
  | .ipAddress => "ip_address"

/-- Why a snapshot cannot be decoded. -/
inductive MetadataFault where
  /-- A value is missing or empty. -/
  | missing (key : MetadataKey)
  /-- A value is not of the form its key asks for. -/
  | invalid (key : MetadataKey) (value : String)
  /-- The snapshot lacks a part of the identity. -/
  | incomplete (field : IdentityField)
  deriving DecidableEq, Repr

/-- The role and the identity that a credential was issued for. -/
structure Metadata where
  role : String
  identity : Identity
  deriving DecidableEq, Repr

namespace Metadata

/-- The value of a key, if it is not empty. -/
def find (entries : Dictionary String) (key : MetadataKey) : Except MetadataFault String :=
  match entries.get? key.text with
  | none => .error (.missing key)
  | some value => if value = "" then .error (.missing key) else .ok value

/-- The snapshot in the metadata of a credential (`AuthMetadata::from_metadata`). The role is looked
for first, then the address, then the identifiers. -/
def decode (entries : Dictionary String) : Except MetadataFault Metadata := do
  let role ← find entries .role
  let text ← find entries .ipAddress
  let address ← match IpAddress.parse? text with
    | some address => .ok address
    | none => .error (.invalid .ipAddress text)
  let instanceId ← find entries .instanceId
  let orgId ← find entries .orgId
  let spaceId ← find entries .spaceId
  let appId ← find entries .appId
  match Identity.make instanceId orgId spaceId appId address with
  | .ok identity => .ok ⟨role, identity⟩
  | .error field => .error (.incomplete field)

/-- The metadata in which a snapshot is kept (`AuthMetadata::to_metadata`). -/
def encode (m : Metadata) : Dictionary String :=
  Dictionary.ofList
    [(MetadataKey.role.text, m.role),
      (MetadataKey.instanceId.text, m.identity.instanceId),
      (MetadataKey.orgId.text, m.identity.orgId),
      (MetadataKey.appId.text, m.identity.appId),
      (MetadataKey.spaceId.text, m.identity.spaceId),
      (MetadataKey.ipAddress.text, m.identity.address.render)]

end Metadata

/-! ## Credentials -/

/-- The lifetimes of a credential, in seconds. -/
structure Lease where
  maxTtl : UInt64
  renewable : Bool
  ttl : UInt64
  deriving DecidableEq, Repr

/-- A credential issued to a workload. -/
structure Credential where
  /-- What groups the logins of one app. -/
  aliasName : String
  boundNetworks : List Network
  displayName : String
  lease : Lease
  /-- The snapshot of the identity, see `Metadata`. -/
  metadata : Dictionary String
  /-- The renewal period in seconds; zero means none. -/
  period : UInt64
  policies : List String
  deriving DecidableEq, Repr

/-- The schema of a lease. -/
def Lease.shape : Shape Lease :=
  .record
    (.required "max_ttl_sec" .natural <|
      .required "renewable" .flag <|
      .required "ttl_sec" .natural .nil)
    (fun (maxTtl, renewable, ttl, ()) => ⟨maxTtl, renewable, ttl⟩)
    (fun l => (l.maxTtl, l.renewable, l.ttl, ()))

namespace Credential

/-- The schema of an alias: a record of its name. -/
def aliasShape : Shape String :=
  .record (.required "name" .text .nil) (fun (name, ()) => name) (fun name => (name, ()))

/-- The schema of a credential. -/
def shape : Shape Credential :=
  .record
    (.required "alias" aliasShape <|
      .required "bound_cidrs" (.list Network.shape) <|
      .required "display_name" .text <|
      .required "lease" Lease.shape <|
      .required "metadata" .dictionary <|
      .required "period_sec" .natural <|
      .required "policies" (.list .text) .nil)
    (fun (aliasName, networks, displayName, lease, metadata, period, policies, ()) =>
      ⟨aliasName, networks, displayName, lease, metadata, period, policies⟩)
    (fun c =>
      (c.aliasName, c.boundNetworks, c.displayName, c.lease, c.metadata, c.period, c.policies, ()))

/-- The credential for an identity that passed all checks of a role, which was asked for under
`roleName` (`assemble`). -/
def issue (roleName : String) (role : Role) (identity : Identity) : Credential where
  aliasName := identity.appId
  boundNetworks := role.boundNetworks
  displayName := identity.instanceId
  lease := ⟨role.maxTtl, true, role.ttl⟩
  metadata := Metadata.encode ⟨roleName, identity⟩
  period := role.period
  policies := role.policies

/-- The credential with the lifetimes and the period of a role, and nothing else changed: what
`Engine::attempt_renew` gives back. -/
def refresh (c : Credential) (role : Role) : Credential :=
  { c with
    lease := { c.lease with maxTtl := role.maxTtl, ttl := role.ttl }
    period := role.period }

/-- A credential has its terms from a role that was asked for under a name, and tells an
identity. -/
structure IssuedFor (c : Credential) (roleName : String) (role : Role) (identity : Identity) :
    Prop where
  aliasName : c.aliasName = identity.appId
  displayName : c.displayName = identity.instanceId
  metadata : c.metadata = Metadata.encode ⟨roleName, identity⟩
  policies : c.policies = role.policies
  boundNetworks : c.boundNetworks = role.boundNetworks
  ttl : c.lease.ttl = role.ttl
  maxTtl : c.lease.maxTtl = role.maxTtl
  renewable : c.lease.renewable = true
  period : c.period = role.period

/-- A credential has its lifetimes and its period from a role, and the rest from an old one. -/
structure RefreshedFrom (c old : Credential) (role : Role) : Prop where
  ttl : c.lease.ttl = role.ttl
  maxTtl : c.lease.maxTtl = role.maxTtl
  period : c.period = role.period
  renewable : c.lease.renewable = old.lease.renewable
  aliasName : c.aliasName = old.aliasName
  displayName : c.displayName = old.displayName
  metadata : c.metadata = old.metadata
  policies : c.policies = old.policies
  boundNetworks : c.boundNetworks = old.boundNetworks

/-- The issued credential is the only one that has its terms from the role and tells the
identity. -/
theorem issuedFor_iff {c : Credential} {roleName : String} {role : Role} {identity : Identity} :
    c.IssuedFor roleName role identity ↔ c = issue roleName role identity := by
  constructor
  · obtain ⟨aliasName, networks, displayName, ⟨maxTtl, renewable, ttl⟩, metadata, period,
      policies⟩ := c
    rintro ⟨rfl, rfl, rfl, rfl, rfl, rfl, rfl, rfl, rfl⟩
    rfl
  · rintro rfl
    constructor <;> rfl

/-- The refreshed credential is the only one that has its lifetimes from the role. -/
theorem refreshedFrom_iff {c old : Credential} {role : Role} :
    c.RefreshedFrom old role ↔ c = old.refresh role := by
  constructor
  · obtain ⟨aliasName, networks, displayName, ⟨maxTtl, renewable, ttl⟩, metadata, period,
      policies⟩ := c
    rintro ⟨rfl, rfl, rfl, rfl, rfl, rfl, rfl, rfl, rfl⟩
    rfl
  · rintro rfl
    constructor <;> rfl

end Credential

end WorkloadAuth
