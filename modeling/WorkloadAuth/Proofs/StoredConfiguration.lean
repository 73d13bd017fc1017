import WorkloadAuth.Proofs.CertificateText
import WorkloadAuth.Proofs.Encoding
import WorkloadAuth.Proofs.Trust
import WorkloadAuth.Store

/-!
# Stored configurations

* `Store.Operation`, `Store.run`: sequences of operations on a store.
* `Store.Decodable`, `Store.decodable_run`: whatever was done, the roots of a stored configuration
  can be decoded.
* `Certificate.unsupportedRoot_iff`: when verification fails because of a root.
* `Store.stored_configuration_roots`: what this means for a stored configuration.
* `Store.trailing_root_stored`: a stored configuration of which one root spoils the other.
-/

namespace WorkloadAuth

open Calendar Chain

/-! ## Operations -/

namespace Store

/-- An operation on a store. -/
inductive Operation where
  | setConfiguration (c : Configuration)
  /-- With the words for texts that are no YAML of a configuration. -/
  | loadConfiguration (yaml : String → String) (path : String) (file : StoredFile)
  | clearConfiguration
  | putRole (role : Role)
  | deleteRole (name : String)

/-- The store after an operation. -/
def Operation.apply (context : Log.Context) : Operation → Store → Store
  | .setConfiguration c, s => (s.setConfiguration context c).store
  | .loadConfiguration yaml path file, s => (s.loadConfiguration context yaml path file).store
  | .clearConfiguration, s => (s.clearConfiguration context).store
  | .putRole role, s => (s.putRole context role).store
  | .deleteRole name, s => (s.deleteRole context name).store

/-- The store after some operations, each in a context of its own. -/
def run : List (Log.Context × Operation) → Store → Store
  | [], s => s
  | (context, op) :: ops, s => run ops (op.apply context s)

/-- The roots of a stored configuration can be decoded. -/
def Decodable (s : Store) : Prop :=
  ∀ c, s.configuration = some c → ∃ settings, c.trustSettings = .ok settings

theorem decodable_setConfiguration (context : Log.Context) (c : Configuration) {s : Store}
    (h : s.Decodable) : (s.setConfiguration context c).store.Decodable := by
  unfold setConfiguration
  split
  · exact h
  · rename_i settings hsettings
    intro c' hc'
    obtain rfl := Option.some.inj hc'
    exact ⟨settings, hsettings⟩

/-- No operation stores a configuration whose roots cannot be decoded. -/
theorem decodable_apply (context : Log.Context) (op : Operation) {s : Store} (h : s.Decodable) :
    (op.apply context s).Decodable := by
  cases op with
  | setConfiguration c => exact decodable_setConfiguration context c h
  | loadConfiguration yaml path file =>
    simp only [Operation.apply, loadConfiguration]
    split
    · exact h
    · exact decodable_setConfiguration context _ h
  | clearConfiguration => exact fun _ hc => nomatch hc
  | putRole role =>
    simp only [Operation.apply, putRole]
    split <;> exact h
  | deleteRole name =>
    simp only [Operation.apply, deleteRole]
    split <;> exact h

theorem decodable_run (ops : List (Log.Context × Operation)) {s : Store} (h : s.Decodable) :
    (run ops s).Decodable := by
  induction ops generalizing s with
  | nil => exact h
  | cons op ops ih => exact ih (decodable_apply op.1 op.2 h)

theorem decodable_empty : empty.Decodable := fun _ hc => nomatch hc

end Store

/-! ## Roots that are no anchors -/

namespace Certificate

/-- A certificate is verified by a search for a chain: it is no root, both readers read it, and the
moment is not before 1970. -/
structure IsChained (c : Certificate) (settings : TrustSettings) (now : Moment) : Prop where
  not_root : c ∉ settings.roots
  inspected : ∃ inspected, c.inspect = .ok inspected
  leaf_read : ∃ leaf, Link.ofDer .refused c.der = .ok leaf
  since1970 : 0 ≤ now.unixSeconds

/-- A root cannot end a chain. -/
def IsUnusableRoot (root : Certificate) : Prop :=
  ∀ anchor, Anchor.ofDer .refused root.der ≠ .ok anchor

variable {algorithms : List Algorithm} {c : Certificate} {presented : List Certificate}
  {settings : TrustSettings} {now : Moment}

theorem checkRootUsage_ne_unsupportedRoot {inspected : Inspected} {required : RequiredUsage}
    {fault : Chain.Fault} :
    checkRootUsage inspected required ≠ .error (.untrusted (.unsupportedRoot fault)) := by
  intro h
  unfold checkRootUsage at h
  rcases husages : inspected.usages with _ | _ | usages
  · simp [husages] at h
  · simp [husages] at h
  · simp only [husages] at h
    split at h <;> cases h

theorem verifyRoot_ne_unsupportedRoot {inspected : Inspected} {required : RequiredUsage}
    {fault : Chain.Fault} :
    verifyRoot inspected required now ≠ .error (.untrusted (.unsupportedRoot fault)) := by
  intro h
  simp only [verifyRoot] at h
  split at h
  · cases h
  split at h
  · exact checkRootUsage_ne_unsupportedRoot h
  · cases h

/-- The anchors of some roots cannot be read if and only if one of them cannot end a chain. -/
theorem mapM_anchors_eq_error_iff {roots : List Certificate} :
    (∃ fault, (roots.mapM fun root =>
        (Anchor.ofDer .refused root.der).mapError Distrust.unsupportedRoot) =
          .error (.unsupportedRoot fault)) ↔
      ∃ root ∈ roots, root.IsUnusableRoot := by
  constructor
  · rintro ⟨fault, h⟩
    obtain ⟨root, hroot, hfault⟩ := Except.exists_of_mapM_eq_error h
    obtain ⟨fault', hfault', -⟩ := Except.mapError_eq_error_iff.1 hfault
    exact ⟨root, hroot, fun anchor hanchor => by simp [hfault'] at hanchor⟩
  · rintro ⟨root, hroot, hunusable⟩
    cases h : roots.mapM fun root =>
        (Anchor.ofDer .refused root.der).mapError Distrust.unsupportedRoot with
    | ok anchors =>
      obtain ⟨anchor, hanchor⟩ := Except.exists_mapM_eq_ok_iff.1 ⟨anchors, h⟩ root hroot
      exact absurd (Except.mapError_eq_ok_iff.1 hanchor) (hunusable anchor)
    | error reason =>
      obtain ⟨root', -, hreason⟩ := Except.exists_of_mapM_eq_error h
      obtain ⟨fault, -, rfl⟩ := Except.mapError_eq_error_iff.1 hreason
      exact ⟨fault, rfl⟩

theorem verifyChain_eq_unsupportedRoot_iff {subject : Name} :
    (∃ fault, verifyChain algorithms c subject presented settings now =
      .error (.unsupportedRoot fault)) ↔
      0 ≤ now.unixSeconds ∧ (∃ leaf, Link.ofDer .refused c.der = .ok leaf) ∧
        ∃ root ∈ settings.roots, root.IsUnusableRoot := by
  rw [← mapM_anchors_eq_error_iff]
  unfold verifyChain
  split
  · rename_i hnow
    constructor
    · exact fun ⟨fault, h⟩ => nomatch h
    · rintro ⟨hnow', -⟩
      omega
  · rename_i hnow
    simp only [Except.bind_eq_error_iff, Except.mapError_eq_error_iff, Except.mapError_eq_ok_iff]
    constructor
    · rintro ⟨fault, ⟨_, _, ⟨⟩⟩ | ⟨leaf, hleaf, h | ⟨_, _, _, _, ⟨⟩⟩⟩⟩
      exact ⟨by omega, ⟨leaf, hleaf⟩, fault, h⟩
    · rintro ⟨-, ⟨leaf, hleaf⟩, fault, h⟩
      exact ⟨fault, .inr ⟨leaf, hleaf, .inl h⟩⟩

/-- Verification fails because of a root if and only if a chain is searched and some root cannot end
one, whether the chain would lead there or not. -/
theorem unsupportedRoot_iff :
    (∃ fault, c.verify algorithms presented settings now =
      .error (.untrusted (.unsupportedRoot fault))) ↔
      c.IsChained settings now ∧ ∃ root ∈ settings.roots, root.IsUnusableRoot := by
  simp only [verify, Except.bind_eq_error_iff, Except.mapError_eq_error_iff,
    Except.mapError_eq_ok_iff]
  constructor
  · rintro ⟨fault, ⟨_, _, ⟨⟩⟩ | ⟨inspected, hinspected, h⟩⟩
    split at h
    · exact absurd h verifyRoot_ne_unsupportedRoot
    · rename_i hroot
      obtain ⟨_, h, ⟨⟩⟩ := Except.mapError_eq_error_iff.1 h
      obtain ⟨hnow, hleaf, hunusable⟩ := verifyChain_eq_unsupportedRoot_iff.1 ⟨fault, h⟩
      exact ⟨⟨by simpa using hroot, ⟨inspected, hinspected⟩, hleaf, hnow⟩, hunusable⟩
  · rintro ⟨⟨hroot, ⟨inspected, hinspected⟩, hleaf, hnow⟩, hunusable⟩
    obtain ⟨fault, h⟩ := verifyChain_eq_unsupportedRoot_iff.2 ⟨hnow, hleaf, hunusable⟩
    refine ⟨fault, .inr ⟨inspected, hinspected, ?_⟩⟩
    rw [if_neg (by simpa using hroot), h]
    rfl

end Certificate

/-! ## Stored configurations -/

namespace Store

open Certificate

/-- A configuration whose roots can be decoded is stored. -/
theorem configuration_run_setConfiguration (context : Log.Context) {c : Configuration}
    {settings : TrustSettings} (h : c.trustSettings = .ok settings) (s : Store) :
    (run [(context, .setConfiguration c)] s).configuration = some c := by
  simp only [run, Operation.apply, setConfiguration, h]

/-- The sample root, with an octet behind it. -/
def trailingRoot : Certificate := ⟨Sample.root.der ++ [0]⟩

/-- A configuration with some roots. -/
def sampleConfiguration (roots : List Certificate) : Configuration where
  directory := { apiAddress := "https://api.example", password := "p", username := "u" }
  identityCertificates := roots.map toPem
  requiredUsage := .clientAuth

theorem trustSettings_trailing :
    (sampleConfiguration [Sample.root, trailingRoot]).trustSettings =
      .ok ⟨.clientAuth, [Sample.root, trailingRoot]⟩ :=
  Configuration.trustSettings_toPem rfl (by decide +kernel)

/-- **Roots of stored configurations.** Whatever was done with a store, the roots of its
configuration can be decoded. A verification against them fails because of a root if and only if a
chain is searched and some root cannot end one, and a root with octets behind it cannot. -/
theorem stored_configuration_roots (ops : List (Log.Context × Operation)) {c : Configuration}
    (h : (run ops empty).configuration = some c) :
    ∃ settings, c.trustSettings = .ok settings ∧
      (∀ (algorithms : List Algorithm) (certificate : Certificate) (presented : List Certificate)
          (now : Moment),
        (∃ fault, certificate.verify algorithms presented settings now =
            .error (.untrusted (.unsupportedRoot fault))) ↔
          certificate.IsChained settings now ∧ ∃ root ∈ settings.roots, root.IsUnusableRoot) ∧
      ∀ root ∈ settings.roots, ∀ inspected rest,
        Inspected.next? root.der = some (inspected, rest) → rest ≠ [] → root.IsUnusableRoot := by
  obtain ⟨settings, hsettings⟩ := decodable_run ops decodable_empty c h
  refine ⟨settings, hsettings, ?_, ?_⟩
  · exact fun _ _ _ _ => unsupportedRoot_iff
  · exact fun _ _ _ _ hnext hrest => not_anchor_of_trailing hnext hrest

/-- A configuration with a healthy root and one with an octet behind it is stored, but no chain to
the healthy one is accepted. -/
theorem healthy_root_refused :
    (run [(.root, .setConfiguration (sampleConfiguration [Sample.root, trailingRoot]))]
        empty).configuration = some (sampleConfiguration [Sample.root, trailingRoot]) ∧
      ∃ settings, (sampleConfiguration [Sample.root, trailingRoot]).trustSettings = .ok settings ∧
        ∃ fault, Sample.leaf.verify [Sample.algorithm] [Sample.intermediate] settings
          Sample.moment = .error (.untrusted (.unsupportedRoot fault)) := by
  have hstored := configuration_run_setConfiguration .root trustSettings_trailing empty
  obtain ⟨settings, hsettings, hfails, htrailing⟩ := stored_configuration_roots _ hstored
  obtain rfl : _ = settings := Except.ok.inj (trustSettings_trailing.symm.trans hsettings)
  have hmem : trailingRoot ∈ [Sample.root, trailingRoot] := by simp
  have hnext : (Inspected.next? trailingRoot.der).map (·.2) = some [0] := by decide +kernel
  obtain ⟨⟨inspected, rest⟩, hnext, rfl⟩ := Option.map_eq_some_iff.1 hnext
  have hchained : Sample.leaf.IsChained ⟨.clientAuth, [Sample.root, trailingRoot]⟩
      Sample.moment :=
    ⟨by decide +kernel, Except.isOk_iff.1 (by decide +kernel),
      Except.isOk_iff.1 (by decide +kernel), by decide⟩
  exact ⟨hstored, _, hsettings, (hfails _ _ _ _).2
    ⟨hchained, trailingRoot, hmem, htrailing _ hmem _ _ hnext (by simp)⟩⟩

/-- The chain that the healthy root alone verifies is refused because of the other root. -/
theorem trailing_root_stored :
    (run [(.root, .setConfiguration (sampleConfiguration [Sample.root, trailingRoot]))]
        empty).configuration = some (sampleConfiguration [Sample.root, trailingRoot]) ∧
      (sampleConfiguration [Sample.root, trailingRoot]).trustSettings =
        .ok ⟨.clientAuth, [Sample.root, trailingRoot]⟩ ∧
      Sample.leaf.verify [Sample.algorithm] [Sample.intermediate]
          ⟨.clientAuth, [Sample.root, trailingRoot]⟩ Sample.moment =
        .error (.untrusted (.unsupportedRoot (.trailingData .certificate))) ∧
      Sample.leaf.verify [Sample.algorithm] [Sample.intermediate]
        ⟨.clientAuth, [Sample.root]⟩ Sample.moment = .ok () :=
  ⟨configuration_run_setConfiguration .root trustSettings_trailing empty, trustSettings_trailing,
    by decide +kernel, by decide +kernel⟩

end Store

end WorkloadAuth
