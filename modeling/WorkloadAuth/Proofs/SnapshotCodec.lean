import Mathlib.Tactic.ByContra
import Mathlib.Tactic.Choose
import WorkloadAuth.Proofs.Keys
import WorkloadAuth.Proofs.Snapshot

/-!
# Exactness of snapshots

* `Metadata.RecordedIn`: what metadata has to hold so that a snapshot is read from it.
* `Metadata.decode_eq_ok_iff`: a snapshot is read if and only if it is recorded.
* `Metadata.mem_keys_encode_iff`: the keys under which a snapshot is kept.
* `Metadata.lossless`: nothing is lost between a snapshot and the metadata in which it is kept.
-/

namespace WorkloadAuth

open Net

namespace Metadata

/-! ## What is read -/

/-- Metadata hold a snapshot: the texts of its role and its identifiers, none of them empty, and
some text of its address. -/
structure RecordedIn (m : Metadata) (entries : Dictionary String) : Prop where
  kept : ∀ key, key ≠ .ipAddress → entries.get? key.text = some (m.value key)
  filled : ∀ key, m.value key ≠ ""
  addressed : ∃ text, entries.get? MetadataKey.ipAddress.text = some text ∧
    IpAddress.parse? text = some m.identity.address

theorem ne_empty_of_parse? {text : String} {address : IpAddress}
    (h : IpAddress.parse? text = some address) : text ≠ "" := by
  rintro rfl
  rw [show IpAddress.parse? "" = none by decide] at h
  cases h

theorem find_eq_ok_iff {entries : Dictionary String} {key : MetadataKey} {text : String} :
    find entries key = .ok text ↔ entries.get? key.text = some text ∧ text ≠ "" := by
  rw [find]
  cases entries.get? key.text with
  | none => simp
  | some found =>
    show (if found = "" then _ else _) = _ ↔ _
    by_cases hempty : found = ""
    · rw [if_pos hempty]
      constructor
      · rintro ⟨⟩
      · rintro ⟨⟨⟩, hne⟩
        exact absurd hempty hne
    · rw [if_neg hempty]
      constructor
      · rintro ⟨⟩
        exact ⟨rfl, hempty⟩
      · rintro ⟨⟨⟩, -⟩
        rfl

/-- A snapshot is read if and only if the metadata hold it. -/
theorem decode_eq_ok_iff {entries : Dictionary String} {m : Metadata} :
    decode entries = .ok m ↔ m.RecordedIn entries := by
  simp only [decode, Except.bind_eq_ok_iff]
  constructor
  · rintro ⟨role, hrole, text, htext, h⟩
    cases hparse : IpAddress.parse? text with
    | none =>
      rw [hparse] at h
      cases h
    | some address =>
      simp only [hparse, Except.ok_bind, Except.bind_eq_ok_iff, find_eq_ok_iff] at hrole htext h
      obtain ⟨instanceId, hinstance, orgId, horg, spaceId, hspace, appId, happ, h⟩ := h
      split at h
      · rename_i identity hmake
        cases h
        obtain ⟨rfl, -⟩ := Identity.make_eq_ok_iff.1 hmake
        constructor
        case kept =>
          intro key hkey
          cases key
          case ipAddress => exact absurd rfl hkey
          all_goals exact And.left ‹_›
        case filled =>
          intro key
          cases key
          case ipAddress => exact address.render_ne_empty
          all_goals exact And.right ‹_›
        case addressed => exact ⟨text, htext.1, hparse⟩
      · cases h
  · rintro ⟨hkept, hfilled, text, htext, hparse⟩
    have hfound (key : MetadataKey) (hkey : key ≠ .ipAddress) :
        find entries key = .ok (m.value key) :=
      find_eq_ok_iff.2 ⟨hkept key hkey, hfilled key⟩
    have hmake : Identity.make m.identity.instanceId m.identity.orgId m.identity.spaceId
        m.identity.appId m.identity.address = .ok m.identity :=
      Identity.make_eq_ok_iff.2
        ⟨rfl, hfilled .instanceId, hfilled .orgId, hfilled .spaceId, hfilled .appId⟩
    refine ⟨_, hfound .role (by decide), text,
      find_eq_ok_iff.2 ⟨htext, ne_empty_of_parse? hparse⟩, ?_⟩
    simp only [hparse, Except.ok_bind, Except.bind_eq_ok_iff]
    refine ⟨_, hfound .instanceId (by decide), _, hfound .orgId (by decide), _,
      hfound .spaceId (by decide), _, hfound .appId (by decide), ?_⟩
    simp only [value, hmake]

/-- Some snapshot is read if and only if all its texts are there and the address can be read. -/
theorem exists_decode_eq_ok_iff {entries : Dictionary String} :
    (∃ m, decode entries = .ok m) ↔
      (∀ key : MetadataKey, ∃ text, entries.get? key.text = some text ∧ text ≠ "") ∧
        ∃ text address, entries.get? MetadataKey.ipAddress.text = some text ∧
          IpAddress.parse? text = some address := by
  simp only [decode_eq_ok_iff]
  constructor
  · rintro ⟨m, hkept, hfilled, text, htext, hparse⟩
    refine ⟨fun key => ?_, text, _, htext, hparse⟩
    by_cases hkey : key = .ipAddress
    · exact ⟨text, hkey ▸ htext, ne_empty_of_parse? hparse⟩
    · exact ⟨_, hkept key hkey, hfilled key⟩
  · rintro ⟨htexts, text, address, htext, hparse⟩
    choose found hfound hfilled using htexts
    refine ⟨⟨found .role, found .instanceId, found .orgId, found .spaceId, found .appId, address⟩,
      ?_, ?_, text, htext, hparse⟩
    · intro key hkey
      cases key <;> first | exact hfound _ | exact absurd rfl hkey
    · intro key
      cases key <;> first | exact hfilled _ | exact IpAddress.render_ne_empty _

/-! ## What is kept -/

/-- A snapshot is kept under the six keys and under no others. -/
theorem mem_keys_encode_iff (m : Metadata) (k : String) :
    k ∈ m.encode.keys ↔ ∃ key : MetadataKey, k = key.text := by
  rw [Dictionary.mem_keys_iff]
  constructor
  · rintro ⟨text, htext⟩
    by_contra hother
    have hne (key : MetadataKey) : k ≠ key.text := fun h => hother ⟨key, h⟩
    simp [encode, Dictionary.ofList, hne] at htext
  · rintro ⟨key, rfl⟩
    exact ⟨_, m.get?_encode key⟩

theorem RecordedIn.encode {m : Metadata} (h : ∀ key, m.value key ≠ "") : m.RecordedIn m.encode where
  kept key _ := m.get?_encode key
  filled := h
  addressed := ⟨_, m.get?_encode .ipAddress, m.identity.address.parse?_render⟩

/-- **Snapshots are lossless.** A role name and an identity, none of whose texts is empty, are read
back as they are. Metadata are read if and only if the six texts are there and the one for the
address is an address; what is kept of them then are the six texts alone, where the address has its
usual text, and they are read as the same snapshot. -/
theorem lossless :
    (∀ m : Metadata, m.role ≠ "" → m.identity.Complete → decode m.encode = .ok m) ∧
    ∀ entries : Dictionary String,
      ((∃ m, decode entries = .ok m) ↔
        (∀ key : MetadataKey, ∃ text, entries.get? key.text = some text ∧ text ≠ "") ∧
          ∃ text address, entries.get? MetadataKey.ipAddress.text = some text ∧
            IpAddress.parse? text = some address) ∧
      ∀ m, decode entries = .ok m →
        (∀ k, k ∈ m.encode.keys ↔ ∃ key : MetadataKey, k = key.text) ∧
        (∀ key : MetadataKey, key ≠ .ipAddress →
          m.encode.get? key.text = entries.get? key.text) ∧
        (∃ text, entries.get? MetadataKey.ipAddress.text = some text ∧
          IpAddress.parse? text = some m.identity.address) ∧
        m.encode.get? MetadataKey.ipAddress.text = some m.identity.address.render ∧
        IpAddress.parse? m.identity.address.render = some m.identity.address ∧
        decode m.encode = .ok m := by
  refine ⟨fun m hrole hcomplete => decode_encode hrole hcomplete, fun entries =>
    ⟨exists_decode_eq_ok_iff, ?_⟩⟩
  intro m hdecode
  have hrecorded := decode_eq_ok_iff.1 hdecode
  refine ⟨m.mem_keys_encode_iff, ?_, hrecorded.addressed, m.get?_encode .ipAddress,
    m.identity.address.parse?_render, decode_eq_ok_iff.2 (.encode hrecorded.filled)⟩
  intro key hkey
  rw [m.get?_encode key, hrecorded.kept key hkey]

namespace Sample

/-- A snapshot whose address is an IPv4 address inside IPv6. -/
def mapped : Metadata := ⟨"r", ⟨"i", "o", "s", "a", .v6 (0xffff0a000005)⟩⟩

/-- Metadata that hold the snapshot with another text of its address, and more. -/
def entries : Dictionary String :=
  .ofList [("app_id", "a"), ("instance_id", "i"), ("ip_address", "0:0::FFFF:10.0.0.5"),
    ("note", ""), ("org_id", "o"), ("role", "r"), ("space_id", "s")]

theorem mapped_recordedIn : mapped.RecordedIn entries where
  kept key hkey := by
    cases key
    case ipAddress => exact absurd rfl hkey
    all_goals decide +kernel
  filled key := by cases key <;> decide +kernel
  addressed := ⟨"0:0::FFFF:10.0.0.5", by decide +kernel, by decide +kernel⟩

/-- The address of the snapshot stays an IPv6 address and gets its usual text, and the other key is
dropped. -/
theorem mapped_kept :
    decode mapped.encode = .ok mapped ∧ decode entries = .ok mapped ∧
      (∀ key : MetadataKey, ∃ text, entries.get? key.text = some text ∧ text ≠ "") ∧
      mapped.encode.get? "app_id" = entries.get? "app_id" ∧
      mapped.encode.get? "ip_address" = some "::ffff:10.0.0.5" ∧ "note" ∉ mapped.encode.keys := by
  obtain ⟨hback, hread⟩ := lossless
  have hentries : decode entries = .ok mapped := decode_eq_ok_iff.2 mapped_recordedIn
  obtain ⟨hsome, hkept⟩ := hread entries
  obtain ⟨-, htexts, -⟩ := hkept mapped hentries
  have haddress : mapped.identity.address.render = "::ffff:10.0.0.5" := by decide +kernel
  refine ⟨hback mapped (by decide) (mapped.identity.emptyField?_eq_none_iff.1 (by decide)),
    hentries, (hsome.1 ⟨mapped, hentries⟩).1, htexts .appId nofun, ?_, by decide +kernel⟩
  rw [← haddress]
  exact (hkept mapped hentries).2.2.2.1

end Sample

end Metadata

end WorkloadAuth
