import Mathlib.Algebra.Group.Nat.Defs
import WorkloadAuth.Constraints

/-!
# Networks and mapped addresses

An IPv4 address can also be written as an IPv6 address, which is called mapped. The origin of a
request is read as IPv4 if it is mapped, but networks are not.

* `Network.Covers`: a network contains an address or the same address in the other family.
* `Network.covers_iff_contains_canonical`: for a network of the family of the canonical address,
  that is what `Network.contains` decides.
* `Network.meetsMapped_iff`: which networks contain a mapped address.
* `inNetworks_iff_covers`: an origin lies in some networks if and only if it is covered by one of
  the family that it is read as.
* `mapped_origin_outside`: a mapped origin does not lie in the network of all mapped addresses.
-/

namespace WorkloadAuth.Net

/-! ## Families -/

/-- The families of addresses. -/
inductive Family where
  | v4
  | v6
  deriving DecidableEq, Repr

/-- The family of an address. -/
def IpAddress.family : IpAddress → Family
  | .v4 _ => .v4
  | .v6 _ => .v6

/-- The family of the addresses in a network. -/
def Network.family : Network → Family
  | .v4 .. => .v4
  | .v6 .. => .v6

/-- A network contains addresses of its family only. -/
theorem Network.family_eq_of_contains {n : Network} {a : IpAddress} (h : n.contains a = true) :
    n.family = a.family := by
  cases n <;> cases a <;> first | rfl | cases h

/-! ## Mapped addresses -/

/-- The mapped IPv6 address of an IPv4 address. -/
def mapped (inner : BitVec 32) : BitVec 128 :=
  BitVec.ofNat 128 (mappedPrefix * 2 ^ 32 + inner.toNat)

theorem toNat_mapped (inner : BitVec 32) :
    (mapped inner).toNat = mappedPrefix * 2 ^ 32 + inner.toNat := by
  have hprefix : mappedPrefix = 0xffff := rfl
  have hlt := inner.isLt
  rw [mapped, BitVec.toNat_ofNat, Nat.mod_eq_of_lt]
  omega

/-- An address is mapped if and only if its leading bits are those of mapped addresses. -/
theorem mapped?_eq_some_iff {bits : BitVec 128} {inner : BitVec 32} :
    mapped? bits = some inner ↔ bits = mapped inner := by
  have hlt := inner.isLt
  rw [← BitVec.toNat_inj, toNat_mapped, mapped?, Nat.shiftRight_eq_div_pow]
  by_cases hmapped : bits.toNat / 2 ^ 32 = mappedPrefix
  · rw [if_pos hmapped, Option.some.injEq, ← BitVec.toNat_inj, BitVec.toNat_ofNat]
    omega
  · rw [if_neg hmapped]
    constructor
    · exact fun h => nomatch h
    · intro h
      omega

@[simp] theorem mapped?_mapped (inner : BitVec 32) : mapped? (mapped inner) = some inner :=
  mapped?_eq_some_iff.2 rfl

namespace IpAddress

@[simp] theorem canonical_canonical (a : IpAddress) : a.canonical.canonical = a.canonical := by
  cases a with
  | v4 bits => rfl
  | v6 bits =>
    cases h : mapped? bits with
    | some inner => simp only [canonical, h]
    | none => simp only [canonical, h]

@[simp] theorem canonical_mapped (inner : BitVec 32) :
    (v6 (mapped inner)).canonical = .v4 inner := by
  simp only [canonical, mapped?_mapped]

/-- An address that is read in its own family is not mapped. -/
theorem canonical_of_family {a : IpAddress} (h : a.family = a.canonical.family) :
    a.canonical = a := by
  cases a with
  | v4 bits => rfl
  | v6 bits =>
    revert h
    simp only [canonical]
    cases mapped? bits with
    | some inner => exact fun h => nomatch h
    | none => exact fun _ => rfl

end IpAddress

/-! ## Networks -/

namespace Network

/-- A network contains an address, or the same address in the other family. -/
def Covers (n : Network) (a : IpAddress) : Prop := ∃ b, b.canonical = a.canonical ∧ n.contains b

/-- A network contains a mapped address. -/
def MeetsMapped (n : Network) : Prop := ∃ inner, n.contains (.v6 (mapped inner)) = true

/-- An address is covered by a network of the family that it is read as if that contains it, as it
is read. -/
theorem covers_iff_contains_canonical {n : Network} {a : IpAddress}
    (h : n.family = a.canonical.family) : n.Covers a ↔ n.contains a.canonical = true := by
  constructor
  · rintro ⟨b, hsame, hcontains⟩
    have hfamily : b.family = b.canonical.family := by
      rw [hsame, ← h, family_eq_of_contains hcontains]
    rw [← hsame, IpAddress.canonical_of_family hfamily]
    exact hcontains
  · intro hcontains
    exact ⟨a.canonical, a.canonical_canonical, hcontains⟩

/-- A network of the other family covers an address if it contains the mapped address of it. -/
theorem covers_iff_of_family_ne {n : Network} {a : IpAddress} (h : n.family ≠ a.canonical.family) :
    n.Covers a ↔ ∃ inner, a.canonical = .v4 inner ∧ n.contains (.v6 (mapped inner)) = true := by
  constructor
  · rintro ⟨b, hsame, hcontains⟩
    have hfamily : b.family ≠ b.canonical.family := by
      rw [hsame, ← family_eq_of_contains hcontains]
      exact h
    cases b with
    | v4 bits => exact absurd rfl hfamily
    | v6 bits =>
      cases hmapped : mapped? bits with
      | none => simp [IpAddress.canonical, hmapped] at hfamily
      | some inner =>
        obtain rfl := mapped?_eq_some_iff.1 hmapped
        exact ⟨inner, hsame.symm.trans (IpAddress.canonical_mapped inner), hcontains⟩
  · rintro ⟨inner, hinner, hcontains⟩
    exact ⟨.v6 (mapped inner), (IpAddress.canonical_mapped inner).trans hinner.symm, hcontains⟩

/-- Without mapped addresses, a network that covers an address is of the family that it is read
as. -/
theorem family_eq_of_covers {n : Network} {a : IpAddress} (hmapped : ¬ n.MeetsMapped)
    (h : n.Covers a) : n.family = a.canonical.family := by
  by_cases hfamily : n.family = a.canonical.family
  · exact hfamily
  · obtain ⟨inner, -, hcontains⟩ := (covers_iff_of_family_ne hfamily).1 h
    exact absurd ⟨inner, hcontains⟩ hmapped

/-! ## Networks of mapped addresses -/

theorem sharePrefix_iff {w length : Nat} {a b : BitVec w} :
    sharePrefix length a b = true ↔ a.toNat / 2 ^ (w - length) = b.toNat / 2 ^ (w - length) := by
  rw [sharePrefix, beq_iff_eq, BitVec.ushiftRight_xor_distrib]
  refine BitVec.xor_eq_zero_iff.trans ?_
  rw [← BitVec.toNat_inj, BitVec.toNat_ushiftRight, BitVec.toNat_ushiftRight,
    Nat.shiftRight_eq_div_pow, Nat.shiftRight_eq_div_pow]

/-- The leading bits of all mapped addresses are the same. -/
theorem toNat_mapped_div (inner : BitVec 32) (k : Nat) :
    (mapped inner).toNat / 2 ^ (32 + k) = mappedPrefix / 2 ^ k := by
  have hlt := inner.isLt
  rw [toNat_mapped, Nat.pow_add, ← Nat.div_div_eq_div_mul]
  refine congrArg (· / 2 ^ k) ?_
  omega

/-- A prefix of some mapped address is one of all of them, as far as it does not reach into the
IPv4 address. -/
theorem exists_sharePrefix_mapped_iff {bits : BitVec 128} {length : Nat} (hle : length ≤ 128) :
    (∃ inner, sharePrefix length bits (mapped inner) = true) ↔
      sharePrefix (min length 96) bits (mapped 0) = true := by
  rcases Nat.le_total length 96 with hshort | hlong
  · have hwidth : 128 - length = 32 + (96 - length) := by omega
    simp only [Nat.min_eq_left hshort, sharePrefix_iff, hwidth, toNat_mapped_div, exists_const]
  · rw [Nat.min_eq_right hlong, sharePrefix_iff, show 128 - 96 = 32 + 0 from rfl,
      toNat_mapped_div, Nat.pow_zero, Nat.div_one]
    constructor
    · rintro ⟨inner, hshared⟩
      have hwidth : 32 + 0 = (128 - length) + (length - 96) := by omega
      rw [sharePrefix_iff] at hshared
      rw [hwidth, Nat.pow_add, ← Nat.div_div_eq_div_mul, hshared, Nat.div_div_eq_div_mul,
        ← Nat.pow_add, ← hwidth, toNat_mapped_div, Nat.pow_zero, Nat.div_one]
    · intro hprefix
      have hmapped : mapped? bits = some (BitVec.ofNat 32 bits.toNat) :=
        if_pos ((Nat.shiftRight_eq_div_pow ..).trans hprefix)
      refine ⟨BitVec.ofNat 32 bits.toNat, ?_⟩
      rw [← mapped?_eq_some_iff.1 hmapped, sharePrefix_iff]

/-- The networks that contain a mapped address are the IPv6 networks that overlap the network of all
mapped addresses. -/
theorem meetsMapped_iff {n : Network} :
    n.MeetsMapped ↔ ∃ bits length, n = .v6 bits length ∧
      sharePrefix (min length 96) bits (mapped 0) = true := by
  cases n with
  | v4 bits length => simp [MeetsMapped, contains]
  | v6 bits length =>
    rw [MeetsMapped]
    simp only [contains, exists_sharePrefix_mapped_iff (Nat.le_of_lt_succ length.isLt)]
    constructor
    · exact fun h => ⟨bits, length, rfl, h⟩
    · rintro ⟨bits', length', heq, h⟩
      cases heq
      exact h

instance (n : Network) : Decidable n.MeetsMapped :=
  match n with
  | .v4 .. => .isFalse fun h => by simp [MeetsMapped, contains] at h
  | .v6 bits length =>
    decidable_of_iff (sharePrefix (min length 96) bits (mapped 0) = true)
      (exists_sharePrefix_mapped_iff (Nat.le_of_lt_succ length.isLt)).symm

end Network

end WorkloadAuth.Net

namespace WorkloadAuth

open Net

/-! ## The origin of a request -/

/-- An origin lies in some networks if and only if there are none, or it is an address that one of
them contains as it is read. -/
theorem inNetworks_eq_true_iff {remote : String} {networks : List Network} :
    inNetworks remote networks = true ↔
      networks = [] ∨ ∃ a, remoteAddress? remote = some a ∧
        ∃ n ∈ networks, n.contains a.canonical = true := by
  unfold inNetworks
  cases remoteAddress? remote with
  | none => simp
  | some a => simp

theorem matchesAddress_eq_true_iff {remote : String} {address : IpAddress} :
    matchesAddress remote address = true ↔
      ∃ a, remoteAddress? remote = some a ∧ a.canonical = address.canonical := by
  unfold matchesAddress
  cases remoteAddress? remote with
  | none => simp
  | some a => simp

/-- **Origins in networks.** An origin lies in some networks if and only if it is covered by one of
the family that it is read as. The other family makes a difference only through networks of mapped
addresses. An origin that matches an address which is not mapped lies in every list where a network
contains this address. -/
theorem inNetworks_iff_covers (remote : String) {networks : List Network} (hne : networks ≠ []) :
    (inNetworks remote networks = true ↔
      ∃ a, remoteAddress? remote = some a ∧
        ∃ n ∈ networks, n.Covers a ∧ n.family = a.canonical.family) ∧
    ((∀ n ∈ networks, ¬ n.MeetsMapped) →
      (inNetworks remote networks = true ↔
        ∃ a, remoteAddress? remote = some a ∧ ∃ n ∈ networks, n.Covers a)) ∧
    (∀ ip, matchesAddress remote ip = true → ip.canonical = ip →
      (∃ n ∈ networks, n.contains ip = true) → inNetworks remote networks = true) := by
  have hcounts : inNetworks remote networks = true ↔
      ∃ a, remoteAddress? remote = some a ∧
        ∃ n ∈ networks, n.Covers a ∧ n.family = a.canonical.family := by
    rw [inNetworks_eq_true_iff, or_iff_right hne]
    refine exists_congr fun a => and_congr_right fun _ => exists_congr fun n =>
      and_congr_right fun _ => ?_
    constructor
    · intro hcontains
      have hfamily := Network.family_eq_of_contains hcontains
      exact ⟨(Network.covers_iff_contains_canonical hfamily).2 hcontains, hfamily⟩
    · rintro ⟨hcovers, hfamily⟩
      exact (Network.covers_iff_contains_canonical hfamily).1 hcovers
  refine ⟨hcounts, fun hmapped => ?_, fun ip hmatches hcanonical hlisted => ?_⟩
  · rw [hcounts]
    refine exists_congr fun a => and_congr_right fun _ => exists_congr fun n =>
      and_congr_right fun hn => ?_
    exact and_iff_left_of_imp (Network.family_eq_of_covers (hmapped n hn))
  · obtain ⟨a, hread, hsame⟩ := matchesAddress_eq_true_iff.1 hmatches
    obtain ⟨n, hn, hcontains⟩ := hlisted
    refine inNetworks_eq_true_iff.2 (.inr ⟨a, hread, n, hn, ?_⟩)
    rw [hsame, hcanonical]
    exact hcontains

/-- A mapped origin lies in the IPv4 network of its address, also beside an IPv6 network without
mapped addresses. -/
theorem mapped_origin_inside :
    let networks := [Network.v4 0x0a000000 8, Network.v6 (0x20010db8 <<< 96) 32]
    let ip := IpAddress.v4 0x0a000005
    networks ≠ [] ∧ (∀ n ∈ networks, ¬ n.MeetsMapped) ∧
      matchesAddress " ::ffff:10.0.0.5 /64" ip = true ∧ ip.canonical = ip ∧
      (∃ n ∈ networks, n.contains ip = true) ∧
      (∃ a, remoteAddress? " ::ffff:10.0.0.5 /64" = some a ∧ ∃ n ∈ networks, n.Covers a) ∧
      inNetworks " ::ffff:10.0.0.5 /64" networks = true := by
  intro networks ip
  have hmapped : ∀ n ∈ networks, ¬ n.MeetsMapped := by decide +kernel
  have hmatches : matchesAddress " ::ffff:10.0.0.5 /64" ip = true := by decide +kernel
  have hlisted : ∃ n ∈ networks, n.contains ip = true :=
    ⟨.v4 0x0a000000 8, List.mem_cons_self, by decide +kernel⟩
  obtain ⟨-, hcovers, hidentity⟩ := inNetworks_iff_covers " ::ffff:10.0.0.5 /64"
    (List.cons_ne_nil (Network.v4 0x0a000000 8) [.v6 (0x20010db8 <<< 96) 32])
  have hinside := hidentity ip hmatches rfl hlisted
  exact ⟨List.cons_ne_nil _ _, hmapped, hmatches, rfl, hlisted, (hcovers hmapped).1 hinside,
    hinside⟩

/-- A mapped origin lies in no network of mapped addresses, although it is the address that the
network contains. -/
theorem mapped_origin_outside :
    let ip := IpAddress.v6 (mapped 0x0a000005)
    let n := Network.v6 (mapped 0) 96
    matchesAddress "::ffff:10.0.0.5" ip = true ∧ n.contains ip = true ∧
      (∃ a, remoteAddress? "::ffff:10.0.0.5" = some a ∧ n.Covers a) ∧
      inNetworks "::ffff:10.0.0.5" [n] = false := by
  refine ⟨by decide +kernel, by decide +kernel, ?_, by decide +kernel⟩
  exact ⟨.v6 (mapped 0x0a000005), by decide +kernel, .v6 (mapped 0x0a000005), rfl,
    by decide +kernel⟩

end WorkloadAuth
