import WorkloadAuth.Chain.Trust
import WorkloadAuth.Proofs.Path

/-!
# Trusted certificates

* `Certificate.IsValidRoot`: a certificate is one of the roots and valid in itself.
* `Certificate.TrustChain`: a certificate leads over presented ones to a root.
* `Certificate.trusted_of_verify`: whatever is trusted is one or the other.
* `Certificate.Sample.leaf`: a certificate that leads over another one to a root.
-/

namespace WorkloadAuth.Certificate

open Calendar Chain

/-- A certificate is one of the roots, it is valid in whole seconds, and it allows the required
usage. -/
def IsValidRoot (c : Certificate) (settings : TrustSettings) (now : Moment) : Prop :=
  c ∈ settings.roots ∧ ∃ inspected, c.inspect = .ok inspected ∧
    inspected.notBefore.nanos ≤ now.unixSeconds * nanosPerSecond ∧
    now.unixSeconds * nanosPerSecond ≤ inspected.notAfter.nanos ∧
    checkRootUsage inspected settings.requiredUsage = .ok ()

/-- A path from a certificate over other presented ones to one of the roots. -/
structure TrustChain (algorithms : List Algorithm) (c : Certificate)
    (presented : List Certificate) (settings : TrustSettings) (now : Moment) where
  leaf : Link
  /-- The issuers, of which the first one issued the certificate. -/
  issuers : List Link
  root : Certificate
  anchor : Anchor
  /-- The one usage that the whole path allows. -/
  usage : Usage
  since1970 : 0 ≤ now.unixSeconds
  leaf_read : Link.ofDer .refused c.der = .ok leaf
  issuers_presented : ∀ issuer ∈ issuers, ∃ p ∈ presented, p ≠ c ∧
    Link.ofDer .refused p.der = .ok issuer
  root_mem : root ∈ settings.roots
  anchor_read : Anchor.ofDer .refused root.der = .ok anchor
  usage_tried : usage ∈ settings.requiredUsage.tried
  path : Path algorithms now.unixSeconds.toNat usage.id leaf issuers anchor

variable {algorithms : List Algorithm} {c : Certificate} {presented : List Certificate}
  {settings : TrustSettings} {now : Moment}

theorem isValidRoot_of_verifyRoot {inspected : Inspected} (hmem : c ∈ settings.roots)
    (hinspected : c.inspect = .ok inspected)
    (h : verifyRoot inspected settings.requiredUsage now = .ok ()) :
    c.IsValidRoot settings now := by
  simp only [verifyRoot] at h
  split at h
  · cases h
  split at h
  · rename_i hvalid
    exact ⟨hmem, inspected, hinspected, hvalid.1, hvalid.2, h⟩
  · cases h

/-- If a chain is found for some usages, one is found for one of them. -/
theorem exists_of_tryUsages {search : Usage → Except Chain.Fault Anchor} {fault : Chain.Fault}
    {usages : List Usage} (h : tryUsages search fault usages = .ok ()) :
    ∃ usage ∈ usages, ∃ anchor, search usage = .ok anchor := by
  induction usages generalizing fault with
  | nil => cases h
  | cons usage rest ih =>
    simp only [tryUsages] at h
    cases hsearch : search usage with
    | ok anchor => exact ⟨usage, List.mem_cons_self, anchor, hsearch⟩
    | error fault' =>
      rw [hsearch] at h
      obtain ⟨usage', husage', hfound⟩ := ih h
      exact ⟨usage', List.mem_cons_of_mem usage husage', hfound⟩

theorem trustChain_of_verifyChain {subject : Name}
    (h : verifyChain algorithms c subject presented settings now = .ok ()) :
    Nonempty (TrustChain algorithms c presented settings now) := by
  unfold verifyChain at h
  split at h
  · cases h
  rename_i hnow
  simp only [Except.bind_eq_ok_iff, Except.mapError_eq_ok_iff] at h
  obtain ⟨leaf, hleaf, anchors, hanchors, h⟩ := h
  obtain ⟨usage, husage, anchor, hsearch⟩ := exists_of_tryUsages h
  obtain ⟨hanchor, issuers, hissuers, -, hpath⟩ := Query.path_of_search hsearch
  obtain ⟨root, hroot, hread⟩ := Except.exists_of_mem_mapM hanchors hanchor
  refine ⟨⟨leaf, issuers, root, anchor, usage, by omega, hleaf, ?_, hroot,
    Except.mapError_eq_ok_iff.1 hread, husage, hpath⟩⟩
  intro issuer hissuer
  obtain ⟨p, hp, hread⟩ := List.mem_map.1 (hissuers issuer hissuer)
  obtain ⟨hmem, hne⟩ := List.mem_filter.1 hp
  exact ⟨p, hmem, by simpa using hne, hread⟩

/-! ## A sample

Certificates under an algorithm whose signatures are the keys they are made with. -/

namespace Sample

/-- An element with less than 256 octets of content. -/
def element (tag : UInt8) (content : List UInt8) : List UInt8 :=
  if content.length < 0x80 then tag :: UInt8.ofNat content.length :: content
  else tag :: 0x81 :: UInt8.ofNat content.length :: content

/-- The octets of an ASCII text. -/
def ascii (text : String) : List UInt8 := text.toList.map fun c => UInt8.ofNat c.toNat

def algorithmId : List UInt8 := element 0x06 [0x2a]

/-- An algorithm that accepts the key itself as its signature. -/
def algorithm : Algorithm where
  signatureId := algorithmId
  keyId := algorithmId
  accepts key _ signature := signature == key

/-- A part of a name: its kind, as the last arc below 2.5.4, and its text. -/
def part (kind : UInt8) (text : String) : List UInt8 :=
  element 0x31 (element 0x30 (element 0x06 [0x55, 0x04, kind] ++ element 0x0c (ascii text)))

/-- An extension: its kind, as the last arc below 2.5.29, and the content of its sequence. -/
def extension (kind : UInt8) (value : List UInt8) : List UInt8 :=
  element 0x30 (element 0x06 [0x55, 0x1d, kind] ++ element 0x04 (element 0x30 value))

/-- A certificate that is valid from 1970 to 2049. -/
def certificate (issuer subject : List UInt8) (issuerKey key : UInt8) (extensions : List UInt8) :
    Certificate :=
  let signed := element 0x30 (element 0xa0 (element 0x02 [2]) ++ element 0x02 [1] ++
    element 0x30 algorithmId ++ element 0x30 issuer ++
    element 0x30 (element 0x17 (ascii "700101000000Z") ++ element 0x17 (ascii "490101000000Z")) ++
    element 0x30 subject ++
    element 0x30 (element 0x30 algorithmId ++ element 0x03 [0, key]) ++
    element 0xa3 (element 0x30 extensions))
  ⟨element 0x30 (signed ++ element 0x30 algorithmId ++ element 0x03 [0, issuerKey])⟩

/-- The extension of an authority. -/
def authority : List UInt8 := extension 0x13 (element 0x01 [0xff])

def root : Certificate := certificate (part 3 "R") (part 3 "R") 1 1 authority

/-- A certificate that the root issued to an authority. -/
def intermediate : Certificate := certificate (part 3 "R") (part 3 "I") 1 2 authority

/-- A certificate that this authority issued to a workload. -/
def leaf : Certificate :=
  certificate (part 3 "I")
    (part 3 "i" ++ part 11 "organization:o" ++ part 11 "space:s" ++ part 11 "app:a") 2 3
    (extension 0x11 (element 0x87 [10, 0, 0, 1]))

/-- A moment in 2001. -/
def moment : Moment := ⟨1000000000 * nanosPerSecond, 0⟩

end Sample

/-- **Soundness of trust.** A trusted certificate is a valid root, or leads over presented ones to a
root. -/
theorem trusted_of_verify (h : c.verify algorithms presented settings now = .ok ()) :
    c.IsValidRoot settings now ∨ Nonempty (TrustChain algorithms c presented settings now) := by
  rw [verify, Except.bind_eq_ok_iff] at h
  obtain ⟨inspected, hinspected, h⟩ := h
  rw [Except.mapError_eq_ok_iff] at hinspected
  split at h
  · rename_i hroot
    exact .inl (isValidRoot_of_verifyRoot (List.contains_iff_mem.1 hroot) hinspected h)
  · exact .inr (trustChain_of_verifyChain (Except.mapError_eq_ok_iff.1 h))

/-- The sample leads over the intermediate certificate to the root. -/
theorem trusted_leaf :
    Sample.leaf.verify [Sample.algorithm] [Sample.intermediate] ⟨.clientAuth, [Sample.root]⟩
        Sample.moment = .ok () ∧
      (Sample.leaf.IsValidRoot ⟨.clientAuth, [Sample.root]⟩ Sample.moment ∨
        Nonempty (TrustChain [Sample.algorithm] Sample.leaf [Sample.intermediate]
          ⟨.clientAuth, [Sample.root]⟩ Sample.moment)) :=
  ⟨by decide +kernel, trusted_of_verify (by decide +kernel)⟩

end WorkloadAuth.Certificate
