import WorkloadAuth.Certificate.Workload
import WorkloadAuth.Credential
import WorkloadAuth.Proofs.AddressText
import WorkloadAuth.Proofs.Result

/-!
# Snapshots of identities

* `Metadata.find_encode`, `Metadata.decode_encode`: what is kept of a role name and an identity is
  read back.
* `Identity.make_eq_ok_iff`, `Certificate.identity_complete`: identities are made with all their
  identifiers.
-/

namespace WorkloadAuth

open Net

/-! ## Keeping and reading -/

namespace Metadata

/-- The text that is kept under a key. -/
def value (m : Metadata) : MetadataKey → String
  | .role => m.role
  | .instanceId => m.identity.instanceId
  | .orgId => m.identity.orgId
  | .appId => m.identity.appId
  | .spaceId => m.identity.spaceId
  | .ipAddress => m.identity.address.render

theorem get?_encode (m : Metadata) (key : MetadataKey) :
    m.encode.get? key.text = some (m.value key) := by
  cases key <;> simp [encode, Dictionary.ofList, MetadataKey.text, value]

theorem find_encode (m : Metadata) {key : MetadataKey} (h : m.value key ≠ "") :
    find m.encode key = .ok (m.value key) := by
  rw [find, get?_encode]
  exact if_neg h

end Metadata

theorem Net.IpAddress.render_ne_empty (a : IpAddress) : a.render ≠ "" := by
  intro h
  have hread := a.parse?_render
  rw [h, show IpAddress.parse? "" = none by decide] at hread
  cases hread

theorem Identity.make_eq_ok_iff {instanceId orgId spaceId appId : String} {address : IpAddress}
    {i : Identity} :
    make instanceId orgId spaceId appId address = .ok i ↔
      i = ⟨instanceId, orgId, spaceId, appId, address⟩ ∧ i.Complete := by
  simp only [make, ← emptyField?_eq_none_iff]
  constructor
  · intro h
    split at h
    · cases h
    · rename_i hnone
      cases h
      exact ⟨rfl, hnone⟩
  · rintro ⟨rfl, hnone⟩
    simp only [hnone]

/-- **Round trip of snapshots.** A role name and an identity, none of whose texts is empty, are read
back from the metadata in which they are kept. -/
theorem Metadata.decode_encode {m : Metadata} (hrole : m.role ≠ "") (h : m.identity.Complete) :
    decode m.encode = .ok m := by
  obtain ⟨hinstance, horg, hspace, happ⟩ := h
  have hmake : Identity.make m.identity.instanceId m.identity.orgId m.identity.spaceId
      m.identity.appId m.identity.address = .ok m.identity :=
    Identity.make_eq_ok_iff.2 ⟨rfl, hinstance, horg, hspace, happ⟩
  have hfind (key : MetadataKey) (hkey : m.value key ≠ "") := m.find_encode hkey
  have haddress : IpAddress.parse? (m.value .ipAddress) = some m.identity.address :=
    m.identity.address.parse?_render
  simp only [decode, Except.bind_eq_ok_iff]
  refine ⟨_, hfind .role hrole, _, hfind .ipAddress m.identity.address.render_ne_empty, ?_⟩
  simp only [haddress, Except.bind_eq_ok_iff]
  refine ⟨_, rfl, _, hfind .instanceId hinstance, _, hfind .orgId horg, _, hfind .spaceId hspace,
    _, hfind .appId happ, ?_⟩
  simp only [value, hmake]

/-! ## Identities of certificates -/

/-- The identity that a certificate carries has all its identifiers. -/
theorem Certificate.identity_complete {c : Certificate} {i : Identity}
    (h : c.identity = .ok i) : i.Complete := by
  simp only [identity, Inspected.identity, Except.bind_eq_ok_iff] at h
  obtain ⟨inspected, -, instanceId, -, units, -, names, -, address, -, h⟩ := h
  cases address with
  | none => cases h
  | some address =>
    rw [Except.mapError_eq_ok_iff, Identity.make_eq_ok_iff] at h
    exact h.2

end WorkloadAuth
