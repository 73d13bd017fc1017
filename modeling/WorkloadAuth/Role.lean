import WorkloadAuth.Net.Network
import WorkloadAuth.Schema

/-!
# Roles

What a workload has to be to log in with a role, and what the credentials issued for it allow.

* `Role`: the constraints and the credential options.
* `Role.shape`: its schema; everything but the name may be left out.
* `Role.Defect`, `Role.validate`: when a role cannot be stored.
-/

namespace WorkloadAuth

open Net

/-- Constraints and credential options of workloads that log in with a role. An empty list of
allowed values allows every value. -/
structure Role where
  name : String
  boundAppIds : List String := []
  boundNetworks : List Network := []
  boundInstanceIds : List String := []
  boundOrgIds : List String := []
  boundSpaceIds : List String := []
  /-- Requests may come from another address than the identity's. -/
  disableIpMatching : Bool := false
  /-- The longest lifetime of a credential in seconds; zero leaves it to the system. -/
  maxTtl : UInt64 := 0
  /-- The renewal period of a credential in seconds; zero means none. -/
  period : UInt64 := 0
  policies : List String := []
  /-- The first lifetime of a credential in seconds; zero leaves it to the system. -/
  ttl : UInt64 := 0
  deriving DecidableEq, Repr

/-- The schema of a network: its text. -/
def Net.Network.shape : Shape Network := .parsed Network.parse? Network.render

namespace Role

/-- The schema of a role. -/
def shape : Shape Role :=
  .record
    (.required "name" .text <|
      .optional "bound_app_ids" [] (.list .text) <|
      .optional "bound_cidrs" [] (.list Network.shape) <|
      .optional "bound_instance_ids" [] (.list .text) <|
      .optional "bound_org_ids" [] (.list .text) <|
      .optional "bound_space_ids" [] (.list .text) <|
      .optional "disable_ip_matching" false .flag <|
      .optional "max_ttl_sec" 0 .natural <|
      .optional "period_sec" 0 .natural <|
      .optional "policies" [] (.list .text) <|
      .optional "ttl_sec" 0 .natural .nil)
    (fun (name, apps, networks, instances, orgs, spaces, disable, maxTtl, period, policies, ttl,
        ()) =>
      ⟨name, apps, networks, instances, orgs, spaces, disable, maxTtl, period, policies, ttl⟩)
    (fun r => (r.name, r.boundAppIds, r.boundNetworks, r.boundInstanceIds, r.boundOrgIds,
      r.boundSpaceIds, r.disableIpMatching, r.maxTtl, r.period, r.policies, r.ttl, ()))

/-- Why a role cannot be stored. -/
inductive Defect where
  | nameless
  | ttlExceedsMax (ttl maxTtl : UInt64)
  deriving DecidableEq, Repr

/-- The words for a defect. -/
def Defect.reason : Defect → String
  | .nameless => "the role name is required"
  | .ttlExceedsMax ttl maxTtl => s!"ttl of {ttl.toNat}s exceeds max ttl of {maxTtl.toNat}s"

/-- Checks that a role can be stored: it has a name, and its first lifetime is within the longest
one if there is a longest one (`validate_role`). -/
def validate (r : Role) : Except Defect Unit :=
  if r.name = "" then .error .nameless
  else if 0 < r.maxTtl ∧ r.maxTtl < r.ttl then .error (.ttlExceedsMax r.ttl r.maxTtl)
  else .ok ()

end Role

end WorkloadAuth
