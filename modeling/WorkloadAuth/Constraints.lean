import WorkloadAuth.Identity
import WorkloadAuth.Role
import WorkloadAuth.Text.Blank
import WorkloadAuth.Text.Quoted

/-!
# Role constraints

Whether an identity and the address its request came from satisfy a role. The checks run in a
fixed order and the first that fails is reported: the address is the identity's own unless the role
waives that, then the instance, the app, the organization and the space are allowed, then the
address lies in an allowed network. Networks play no part in the first check, and the last one is
never waived.

* `remoteAddress?`: the address in the text that names the origin of a request.
* `meetsBound`, `matchesAddress`, `inNetworks`: the checks.
* `Role.check`: all of them, and `RoleMismatch`, the one that fails.
-/

namespace WorkloadAuth

open Net

/-- The attributes of an identity that a role may bind. -/
inductive Attribute where
  | serviceInstance
  | app
  | org
  | space
  deriving DecidableEq, Repr

/-- The name of an attribute in messages. -/
def Attribute.label : Attribute → String
  | .serviceInstance => "instance"
  | .app => "app"
  | .org => "org"
  | .space => "space"

/-- The identifier of an attribute. -/
def Attribute.of (i : Identity) : Attribute → String
  | .serviceInstance => i.instanceId
  | .app => i.appId
  | .org => i.orgId
  | .space => i.spaceId

/-- The identifiers that a role allows for an attribute. -/
def Attribute.bound (r : Role) : Attribute → List String
  | .serviceInstance => r.boundInstanceIds
  | .app => r.boundAppIds
  | .org => r.boundOrgIds
  | .space => r.boundSpaceIds

/-- The attributes, in the order in which they are checked. -/
def Attribute.all : List Attribute := [.serviceInstance, .app, .org, .space]

/-- The check of a role that fails. -/
inductive RoleMismatch where
  /-- The request comes from another address than the identity's. -/
  | address (remote : String) (identity : IpAddress)
  /-- An identifier is not among the allowed ones. -/
  | attribute (kind : Attribute) (value : String) (allowed : List String)
  /-- The request comes from outside the allowed networks. -/
  | network (remote : String) (allowed : List Network)
  deriving DecidableEq, Repr

/-- The words for a failed check. -/
def RoleMismatch.message : RoleMismatch → String
  | .address remote identity =>
    s!"no matching IP address: request from {remote} but certificate is for {identity.render}"
  | .attribute kind value allowed =>
    s!"{kind.label} ID {value} doesn't match role constraints of {Text.quotedList allowed}"
  | .network remote allowed =>
    s!"remote address {remote} doesn't match role constraints of " ++
      Text.quotedList (allowed.map Network.render)

/-- The address in the text that names the origin of a request: what stands before the first slash,
without blanks around it (`parse_remote`). -/
def remoteAddress? (remote : String) : Option IpAddress :=
  IpAddress.ofChars? .strict (Text.trim (remote.toList.takeWhile (· != '/')))

/-- A value is allowed by a list that holds it, and by the empty list
(`meets_bound_constraints`). -/
def meetsBound (value : String) (allowed : List String) : Bool :=
  allowed.isEmpty || allowed.contains value

/-- The origin of a request is an address, and the same as another one when IPv4-mapped addresses
are read as IPv4 (`matches_ip_address`). -/
def matchesAddress (remote : String) (address : IpAddress) : Bool :=
  match remoteAddress? remote with
  | some origin => origin.canonical == address.canonical
  | none => false

/-- The origin of a request, read as IPv4 if it is mapped, lies in one of some networks; every
origin is accepted if there are none (`remote_addr_is_ok`). -/
def inNetworks (remote : String) (networks : List Network) : Bool :=
  networks.isEmpty ||
    match remoteAddress? remote with
    | some origin => networks.any (fun n => n.contains origin.canonical)
    | none => false

/-- The first attribute whose identifier a role does not allow. -/
def Role.unmetAttribute? (r : Role) (i : Identity) : Option Attribute :=
  Attribute.all.find? fun a => !meetsBound (a.of i) (a.bound r)

/-- Checks an identity and the origin of its request against a role (`check_role`). -/
def Role.check (r : Role) (i : Identity) (remote : String) : Except RoleMismatch Unit :=
  if !r.disableIpMatching && !matchesAddress remote i.address then
    .error (.address remote i.address)
  else
    match r.unmetAttribute? i with
    | some a => .error (.attribute a (a.of i) (a.bound r))
    | none =>
      if inNetworks remote r.boundNetworks then .ok ()
      else .error (.network remote r.boundNetworks)

end WorkloadAuth
