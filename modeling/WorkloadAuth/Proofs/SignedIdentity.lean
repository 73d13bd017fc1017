import WorkloadAuth.Certificate.Workload
import WorkloadAuth.Proofs.Trust
import WorkloadAuth.Proofs.TwoReaders

/-!
# The identity is signed

Trust is decided by the strict reader and the identity is read by the lenient one. For a
certificate that leads to a root this makes no difference: its octets are a single certificate, both
readers find the same signed octets in it, and the identity depends on these alone.

* `Chain.Tag.write`, `Chain.Reader.expect_eq_ok_iff`: what the strict reader reads as an element is
  what is written as one.
* `Chain.SignedData.Fills`: some octets are a single certificate.
* `Certificate.fills_of_ofDer`: what is read as a certificate of a chain is one.
* `Certificate.signedIdentity`: the identity that signed octets tell.
* `Certificate.identity_of_signed`: the identity of a trusted certificate.
-/

namespace WorkloadAuth

open Calendar Chain

/-! ## Elements -/

namespace Chain

/-- The octets of a length below 65535, as few as possible. -/
def lengthOctets (size : Nat) : List UInt8 :=
  if size < 0x80 then [.ofNat size]
  else if size < 0x100 then [0x81, .ofNat size]
  else [0x82, .ofNat (size / 256), .ofNat (size % 256)]

/-- An element as it is written. -/
def Tag.write (tag : Tag) (content : List UInt8) : List UInt8 :=
  tag.octet :: (lengthOctets content.length ++ content)

theorem lengthOctets_of_length? {bytes rest : List UInt8} {size : Nat}
    (h : Reader.length? bytes = some (size, rest)) :
    bytes = lengthOctets size ++ rest ∧ size < 0xffff := by
  unfold Reader.length? at h
  split at h
  · cases h
  rename_i n more
  split at h
  · rename_i hn
    obtain ⟨rfl, rfl⟩ := Prod.mk.inj (Option.some.inj h)
    have hsmall : n.toNat < 0x80 := UInt8.lt_iff_toNat_lt.1 hn
    constructor
    · rw [lengthOctets, if_pos hsmall, UInt8.ofNat_toNat]
      rfl
    · omega
  split at h
  · rename_i hn
    subst hn
    split at h
    · rename_i a rest'
      split at h
      · cases h
      · rename_i ha
        obtain ⟨rfl, rfl⟩ := Prod.mk.inj (Option.some.inj h)
        have hlarge : ¬a.toNat < 0x80 := fun hlt => ha (UInt8.lt_iff_toNat_lt.2 hlt)
        have hone := a.toNat_lt
        constructor
        · rw [lengthOctets, if_neg hlarge, if_pos hone, UInt8.ofNat_toNat]
          rfl
        · omega
    · cases h
  split at h
  · rename_i hn
    subst hn
    split at h
    · rename_i a b rest'
      simp only at h
      split at h
      · cases h
      · rename_i hsize
        obtain ⟨rfl, rfl⟩ := Prod.mk.inj (Option.some.inj h)
        have hb := b.toNat_lt
        have hhigh : (a.toNat * 256 + b.toNat) / 256 = a.toNat := by omega
        have hlow : (a.toNat * 256 + b.toNat) % 256 = b.toNat := by omega
        constructor
        · rw [lengthOctets, if_neg (by omega), if_neg (by omega), hhigh, hlow, UInt8.ofNat_toNat,
            UInt8.ofNat_toNat]
          rfl
        · omega
    · cases h
  · cases h

theorem length?_lengthOctets {size : Nat} (h : size < 0xffff) (rest : List UInt8) :
    Reader.length? (lengthOctets size ++ rest) = some (size, rest) := by
  unfold lengthOctets
  split
  · rename_i hsmall
    have hvalue : (UInt8.ofNat size).toNat = size := by
      rw [UInt8.toNat_ofNat']
      omega
    have hn : UInt8.ofNat size < 0x80 := UInt8.lt_iff_toNat_lt.2 (by rw [hvalue]; exact hsmall)
    show (if UInt8.ofNat size < 0x80 then some ((UInt8.ofNat size).toNat, rest) else _) = _
    rw [if_pos hn, hvalue]
  split
  · rename_i hsmall hone
    have hvalue : (UInt8.ofNat size).toNat = size := by
      rw [UInt8.toNat_ofNat']
      omega
    have hn : ¬UInt8.ofNat size < 0x80 := by
      rw [UInt8.lt_iff_toNat_lt, hvalue]
      exact hsmall
    show (if UInt8.ofNat size < 0x80 then none else some ((UInt8.ofNat size).toNat, rest)) = _
    rw [if_neg hn, hvalue]
  · rename_i hsmall hone
    have hhigh : (UInt8.ofNat (size / 256)).toNat = size / 256 := by
      rw [UInt8.toNat_ofNat']
      omega
    have hlow : (UInt8.ofNat (size % 256)).toNat = size % 256 := by
      rw [UInt8.toNat_ofNat']
      omega
    have hvalue : (UInt8.ofNat (size / 256)).toNat * 256 + (UInt8.ofNat (size % 256)).toNat =
        size := by
      rw [hhigh, hlow]
      omega
    show (if (UInt8.ofNat (size / 256)).toNat * 256 + (UInt8.ofNat (size % 256)).toNat < 0x100 ∨
        0xffff ≤ (UInt8.ofNat (size / 256)).toNat * 256 + (UInt8.ofNat (size % 256)).toNat then none
      else some ((UInt8.ofNat (size / 256)).toNat * 256 + (UInt8.ofNat (size % 256)).toNat, rest)) =
        _
    rw [hvalue, if_neg (by omega)]

/-- What is read as an element is what is written as one, with less than 65535 octets of content. -/
theorem Reader.expect_eq_ok_iff {tag : Tag} {bytes content rest : List UInt8} :
    expect tag bytes = .ok (content, rest) ↔
      bytes = tag.write content ++ rest ∧ content.length < 0xffff := by
  constructor
  · intro h
    have helement := element?_of_expect h
    unfold element? at helement
    split at helement
    · cases helement
    rename_i first more
    split at helement
    · cases helement
    split at helement
    · rename_i size after hlength
      split at helement
      · rename_i hsize
        obtain ⟨hfound, rfl⟩ := Prod.mk.inj (Option.some.inj helement)
        obtain ⟨rfl, rfl⟩ := Prod.mk.inj hfound
        obtain ⟨rfl, hlt⟩ := lengthOctets_of_length? hlength
        have htaken : (after.take size).length = size := List.length_take_of_le hsize
        rw [Tag.write, htaken]
        refine ⟨?_, hlt⟩
        rw [List.cons_append, List.append_assoc, List.take_append_drop]
      · cases helement
    · cases helement
  · rintro ⟨rfl, hlt⟩
    have hshort : ¬tag.octet &&& 0x1f = 0x1f := by cases tag <;> decide
    have hlength := length?_lengthOctets hlt (content ++ rest)
    have helement : element? (tag.write content ++ rest) = some ((tag.octet, content), rest) := by
      show element? (tag.octet :: (lengthOctets content.length ++ content ++ rest)) = _
      rw [element?, if_neg hshort, List.append_assoc, hlength]
      simp only [List.length_append, Nat.le_add_right, if_true, List.take_left, List.drop_left]
    rw [expect, bind_eq_ok_iff]
    refine ⟨(tag.octet, content), rest, ?_, ?_⟩
    · rw [element, helement]
    · show (if tag.octet = tag.octet then pure content else fail .badEncoding : Reader _) rest = _
      rw [if_pos rfl]
      rfl

theorem Tag.length_lt_write (tag : Tag) (content : List UInt8) :
    content.length < (tag.write content).length := by
  rw [write, List.length_cons, List.length_append]
  omega

/-! ## Signed octets -/

theorem Reader.message_of_encoded {tag : Tag} {bytes message content rest : List UInt8}
    (h : encoded tag bytes = .ok ((message, content), rest)) :
    message = tag.write content ∧ bytes = message ++ rest := by
  obtain ⟨hexpect, rfl⟩ := encoded_eq_ok_iff.1 h
  obtain ⟨rfl, -⟩ := expect_eq_ok_iff.1 hexpect
  have htaken :
      (tag.write content ++ rest).take ((tag.write content ++ rest).length - rest.length) =
      tag.write content := by
    rw [List.length_append, Nat.add_sub_cancel, List.take_left]
  rw [htaken]
  exact ⟨rfl, rfl⟩

theorem Reader.bitString_eq_ok_iff {bytes bits rest : List UInt8} :
    bitString bytes = .ok (bits, rest) ↔
      expect .bitString bytes = .ok (0x00 :: bits, rest) := by
  rw [bitString, nested_eq_ok_iff]
  constructor
  · rintro ⟨content, hexpect, hcontent⟩
    split at hcontent
    · obtain ⟨rfl, -⟩ := Prod.mk.inj (Except.ok.inj hcontent)
      exact hexpect
    · cases hcontent
  · intro hexpect
    exact ⟨0x00 :: bits, hexpect, rfl⟩

/-- What a certificate is an element of: the signed octets, the name of the algorithm, and the
signature. -/
def SignedData.octets (s : SignedData) : List UInt8 :=
  s.message ++ Tag.sequence.write s.algorithm ++ Tag.bitString.write (0x00 :: s.signature)

/-- Some octets are a single certificate with nothing behind it: one element, made of the signed
octets, which are one element themselves, the name of the algorithm, and the signature. -/
structure SignedData.Fills (s : SignedData) (der : List UInt8) : Prop where
  der_eq : der = Tag.sequence.write s.octets
  short : s.octets.length < 0xffff
  message_eq : ∃ content, s.message = Tag.sequence.write content

namespace SignedData

open Reader

variable {s s' : SignedData} {der : List UInt8}

/-- How the parts of a certificate are read. -/
theorem Fills.reads (h : s.Fills der) :
    expect .sequence der = .ok (s.octets, []) ∧
      ∃ content afterMessage afterAlgorithm, s.message = Tag.sequence.write content ∧
        expect .sequence s.octets = .ok (content, afterMessage) ∧
        expect .sequence afterMessage = .ok (s.algorithm, afterAlgorithm) ∧
        expect .bitString afterAlgorithm = .ok (0x00 :: s.signature, []) := by
  obtain ⟨content, hmessage⟩ := h.message_eq
  have hshort := h.short
  rw [octets, List.length_append, List.length_append, hmessage] at hshort
  have hcontent := Tag.length_lt_write .sequence content
  have halgorithm := Tag.length_lt_write .sequence s.algorithm
  have hsignature := Tag.length_lt_write .bitString (0x00 :: s.signature)
  constructor
  · exact expect_eq_ok_iff.2 ⟨by rw [h.der_eq, List.append_nil], h.short⟩
  · refine ⟨content, Tag.sequence.write s.algorithm ++ Tag.bitString.write (0x00 :: s.signature),
      Tag.bitString.write (0x00 :: s.signature), hmessage, ?_, ?_, ?_⟩
    · exact expect_eq_ok_iff.2 ⟨by rw [octets, hmessage, List.append_assoc], by omega⟩
    · exact expect_eq_ok_iff.2 ⟨rfl, by omega⟩
    · exact expect_eq_ok_iff.2 ⟨by rw [List.append_nil], by omega⟩

/-- The parts of a certificate are determined by its octets. -/
theorem Fills.unique (h : s.Fills der) (h' : s'.Fills der) : s = s' := by
  obtain ⟨hder, content, between, last, hmessage, hfirst, halgorithm, hsignature⟩ := h.reads
  obtain ⟨hder', content', between', last', hmessage', hfirst', halgorithm', hsignature'⟩ :=
    h'.reads
  obtain ⟨hoctets, -⟩ := Prod.mk.inj (Except.ok.inj (hder.symm.trans hder'))
  rw [← hoctets] at hfirst'
  obtain ⟨rfl, rfl⟩ := Prod.mk.inj (Except.ok.inj (hfirst.symm.trans hfirst'))
  obtain ⟨halgorithms, rfl⟩ := Prod.mk.inj (Except.ok.inj (halgorithm.symm.trans halgorithm'))
  obtain ⟨hsignatures, -⟩ := Prod.mk.inj (Except.ok.inj (hsignature.symm.trans hsignature'))
  cases s
  cases s'
  rw [SignedData.mk.injEq]
  exact ⟨hmessage.trans hmessage'.symm, halgorithms, (List.cons.inj hsignatures).2⟩

end SignedData

end Chain

/-! ## Identities -/

namespace Certificate

/-- What signed octets say about the subject of their certificate. -/
def Inspected.ofSigned? (message : List UInt8) : Option Inspected := do
  let (signed, _) ← Element.expect? Tag.sequence message
  toBeSigned? signed.content

/-- The identity that signed octets tell. -/
def signedIdentity (message : List UInt8) : Except ExtractionFault Identity :=
  match Inspected.ofSigned? message with
  | some inspected => inspected.identity
  | none => .error (.undecodable .malformed)

/-- **One certificate.** What is read as a certificate of a chain is a single certificate, and
nothing follows it. -/
theorem fills_of_ofDer {der : List UInt8} {link : Link} (h : Link.ofDer .refused der = .ok link) :
    link.signed.Fills der := by
  obtain ⟨outer, content, signed, houter, hsigned, h⟩ := Link.exists_of_ofDer h
  obtain ⟨between, between', hencoded, halgorithm, hsignature⟩ := Link.exists_of_signedData hsigned
  obtain ⟨hder, hshort⟩ := Reader.expect_eq_ok_iff.1 houter
  obtain ⟨hmessage, hfirst⟩ := Reader.message_of_encoded hencoded
  obtain ⟨hsecond, -⟩ := Reader.expect_eq_ok_iff.1 halgorithm
  obtain ⟨hthird, -⟩ := Reader.expect_eq_ok_iff.1 (Reader.bitString_eq_ok_iff.1 hsignature)
  have houtset : outer = signed.octets := by
    rw [hfirst, hsecond, hthird, List.append_nil, SignedData.octets, List.append_assoc]
  rw [signed_of_toBeSigned h]
  exact ⟨by rw [hder, houtset, List.append_nil], houtset ▸ hshort, content, hmessage⟩

variable {algorithms : List Algorithm} {c : Certificate} {presented : List Certificate}
  {settings : TrustSettings} {now : Moment}

/-- The lenient reader finds the same signed octets in a certificate. -/
theorem ofSigned?_of_fills {s : SignedData} {inspected : Inspected} (hfills : s.Fills c.der)
    (hinspected : c.inspect = .ok inspected) : Inspected.ofSigned? s.message = some inspected := by
  obtain ⟨hder, content, between, last, hmessage, hfirst, -, -⟩ := hfills.reads
  have hcontent : Reader.expect .sequence s.message = .ok (content, []) := by
    obtain ⟨-, hshort⟩ := Reader.expect_eq_ok_iff.1 hfirst
    exact Reader.expect_eq_ok_iff.2 ⟨by rw [hmessage, List.append_nil], hshort⟩
  have houter : Element.expect? Tag.sequence c.der = _ := Element.expect?_of_expect hder
  have hinner : Element.expect? Tag.sequence s.octets = _ := Element.expect?_of_expect hfirst
  have hsigned : Element.expect? Tag.sequence s.message = _ := Element.expect?_of_expect hcontent
  unfold inspect at hinspected
  split at hinspected
  · rename_i found rest hnext
    obtain rfl := Except.ok.inj hinspected
    simp only [Inspected.next?, houter, Option.bind_eq_bind, Option.bind_some] at hnext
    rw [show (Element.ofOctet Chain.Tag.sequence.octet s.octets).content = s.octets from rfl,
      hinner] at hnext
    simp only [Option.bind_some, Option.bind_eq_some_iff] at hnext
    obtain ⟨found', hfound, _, -, _, -, hnext⟩ := hnext
    obtain ⟨rfl, -⟩ := Prod.mk.inj (Option.some.inj hnext)
    rw [Inspected.ofSigned?, hsigned]
    exact hfound
  · cases hinspected

/-- The identity of a single certificate depends on its signed octets only. -/
theorem identity_of_fills {s : SignedData} {inspected : Inspected} (hfills : s.Fills c.der)
    (hinspected : c.inspect = .ok inspected) : c.identity = signedIdentity s.message := by
  have hsigned : Inspected.ofSigned? s.message = some inspected :=
    ofSigned?_of_fills hfills hinspected
  rw [identity, hinspected, signedIdentity, hsigned]
  rfl

/-- The key of the issuer: that of the first one on the way, or of the anchor. -/
def TrustChain.issuerKey (t : TrustChain algorithms c presented settings now) : List UInt8 :=
  match t.issuers with
  | [] => t.anchor.key
  | issuer :: _ => issuer.key

theorem TrustChain.verifiedBy_issuerKey (t : TrustChain algorithms c presented settings now) :
    t.leaf.signed.VerifiedBy algorithms t.issuerKey := by
  have hissued := t.path.issued
  have hanchored := t.path.anchored
  rw [issuerKey]
  cases hissuers : t.issuers with
  | nil =>
    rw [hissuers] at hanchored
    exact (hanchored t.leaf rfl).2
  | cons issuer above =>
    rw [hissuers] at hissued
    exact (List.isChain_cons_cons.1 hissued).1.2

/-- A trusted certificate can be inspected. -/
theorem exists_inspect_of_verify (h : c.verify algorithms presented settings now = .ok ()) :
    ∃ inspected, c.inspect = .ok inspected := by
  rw [verify, Except.bind_eq_ok_iff] at h
  obtain ⟨inspected, hinspected, -⟩ := h
  exact ⟨inspected, Except.mapError_eq_ok_iff.1 hinspected⟩

/-- **The identity is signed.** A trusted certificate that is no root itself is a single
certificate with nothing behind it. Its signed octets are verified with the key of its issuer, and
its identity is the one that these octets tell. So any other single certificate with the same signed
octets has the same identity if it is trusted, by whatever settings and at whatever moment. -/
theorem identity_of_signed (h : c.verify algorithms presented settings now = .ok ())
    (hroot : c ∉ settings.roots) :
    ∃ t : TrustChain algorithms c presented settings now,
      t.leaf.signed.Fills c.der ∧ t.leaf.signed.VerifiedBy algorithms t.issuerKey ∧
      c.identity = signedIdentity t.leaf.signed.message ∧
      ∀ (algorithms' : List Algorithm) (c' : Certificate) (presented' : List Certificate)
        (settings' : TrustSettings) (now' : Moment) (s' : SignedData),
        c'.verify algorithms' presented' settings' now' = .ok () →
        s'.Fills c'.der → s'.message = t.leaf.signed.message → c'.identity = c.identity := by
  obtain ⟨t⟩ := (trusted_of_verify h).resolve_left fun hvalid => hroot hvalid.1
  obtain ⟨inspected, hinspected⟩ := exists_inspect_of_verify h
  have hfills : t.leaf.signed.Fills c.der := fills_of_ofDer t.leaf_read
  have hidentity := identity_of_fills hfills hinspected
  refine ⟨t, hfills, t.verifiedBy_issuerKey, hidentity, ?_⟩
  intro algorithms' c' presented' settings' now' s' h' hfills' hmessage
  obtain ⟨inspected', hinspected'⟩ := exists_inspect_of_verify h'
  rw [hidentity, ← hmessage]
  exact identity_of_fills hfills' hinspected'

namespace Sample

/-- The sample with another signature. -/
def resigned : Certificate :=
  certificate (part 3 "I")
    (part 3 "i" ++ part 11 "organization:o" ++ part 11 "space:s" ++ part 11 "app:a") 5 3
    (extension 0x11 (element 0x87 [10, 0, 0, 1]))

/-- An authority of the same name, with the key for this signature. -/
def namesake : Certificate := certificate (part 3 "R") (part 3 "I") 1 5 authority

/-- The sample has the same identity with another signature. -/
theorem resigned_identity :
    leaf.verify [algorithm] [intermediate] ⟨.clientAuth, [root]⟩ moment = .ok () ∧
      resigned.verify [algorithm] [namesake] ⟨.clientAuth, [root]⟩ moment = .ok () ∧
      leaf ∉ [root] ∧ resigned ∉ [root] ∧ resigned ≠ leaf ∧
      leaf.identity.toOption.isSome ∧ resigned.identity = leaf.identity := by
  have hleaf : leaf.verify [algorithm] [intermediate] ⟨.clientAuth, [root]⟩ moment = .ok () := by
    decide +kernel
  have hresigned :
      resigned.verify [algorithm] [namesake] ⟨.clientAuth, [root]⟩ moment = .ok () := by
    decide +kernel
  have hmessages :
      (Link.ofDer .refused resigned.der).toOption.map (fun link => link.signed.message) =
        (Link.ofDer .refused leaf.der).toOption.map (fun link => link.signed.message) := by
    decide +kernel
  have hroot : leaf ∉ [root] := by decide +kernel
  have hroot' : resigned ∉ [root] := by decide +kernel
  refine ⟨hleaf, hresigned, hroot, hroot', by decide +kernel, by decide +kernel, ?_⟩
  obtain ⟨t, -, -, -, hsame⟩ := identity_of_signed hleaf hroot
  obtain ⟨t', hfills', -, -, -⟩ := identity_of_signed hresigned hroot'
  rw [t'.leaf_read, t.leaf_read] at hmessages
  exact hsame _ _ _ _ _ _ hresigned hfills' (Option.some.inj hmessages)

end Sample

end Certificate

end WorkloadAuth
