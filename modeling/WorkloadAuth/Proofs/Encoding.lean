import WorkloadAuth.Certificate
import WorkloadAuth.Chain.Certificate
import WorkloadAuth.Proofs.Result
import WorkloadAuth.Proofs.Search

/-!
# One encoding, two readers

Certificates are inspected by a lenient reader and become part of a chain by a strict one. What the
strict one reads as an element, the lenient one reads as the same element; but only the strict one
minds octets behind a certificate.

* `Certificate.Element.header?_of_element?`, `Certificate.Element.next?_of_element?`: the two
  readers on one element.
* `Chain.Reader.nested_eq_ok_iff`: an element whose content is read as a whole.
* `Chain.Link.exists_of_ofDer`: the parts that a link is read from.
* `Chain.Anchor.expect_of_ofDer`: an anchor is a single element.
* `Certificate.not_anchor_of_trailing`: a certificate with octets behind it is no anchor.
-/

namespace WorkloadAuth

open Chain

/-! ## Elements -/

namespace Certificate.Element

/-- A length of some octets behind the octet that tells their number. -/
theorem length?_long {n : UInt8} (octets rest : List UInt8)
    (hn : n.toNat = 0x80 + octets.length) (hpos : 0 < octets.length) (hlt : octets.length < 0x7f)
    (hvalue : octets.foldl (fun v b => v * 256 + b.toNat) 0 < UInt64.size) :
    length? (n :: (octets ++ rest)) =
      some (octets.foldl (fun v b => v * 256 + b.toNat) 0, rest) := by
  have hlarge : ¬n < 0x80 := by
    rw [UInt8.lt_iff_toNat_lt, hn]
    exact Nat.not_lt.2 (Nat.le_add_right _ _)
  have hsize : n.toNat - 0x80 = octets.length := by omega
  have hfits : ¬(octets.length = 0 ∨ octets.length = 0x7f ∨
      (octets ++ rest).length < octets.length) := by
    rw [List.length_append]
    omega
  rw [length?, if_neg hlarge]
  simp only [hsize]
  rw [if_neg hfits, List.take_left, List.drop_left, if_pos hvalue]

theorem length?_of_length? {bytes rest : List UInt8} {size : Nat}
    (h : Reader.length? bytes = some (size, rest)) : length? bytes = some (size, rest) := by
  unfold Reader.length? at h
  split at h
  · cases h
  rename_i n more
  split at h
  · rename_i hn
    rw [length?, if_pos hn]
    exact h
  split at h
  · rename_i hn
    subst hn
    split at h
    · rename_i a rest'
      split at h
      · cases h
      · cases h
        have ha : 0 * 256 + a.toNat < UInt64.size := by
          have := a.toNat_lt
          rw [UInt64.size]
          omega
        rw [← Nat.zero_add a.toNat]
        exact length?_long [a] rest rfl (by simp) (by simp) ha
    · cases h
  split at h
  · rename_i hn
    subst hn
    split at h
    · rename_i a b rest'
      simp only at h
      split at h
      · cases h
      · cases h
        have hab : (0 * 256 + a.toNat) * 256 + b.toNat < UInt64.size := by
          have := a.toNat_lt
          have := b.toNat_lt
          rw [UInt64.size]
          omega
        rw [← Nat.zero_add a.toNat]
        exact length?_long [a, b] rest rfl (by simp) (by simp) hab
    · cases h
  · cases h

/-- The element of a tag of one octet. -/
def ofOctet (tag : UInt8) (content : List UInt8) : Element where
  tagClass := tag.toNat / 64
  constructed := tag.toNat / 32 % 2 = 1
  tag := tag.toNat % 32
  content := content

theorem tag?_of_short {tag : UInt8} (h : tag &&& 0x1f ≠ 0x1f) (rest : List UInt8) :
    tag? (tag :: rest) =
      some ((tag.toNat / 64, decide (tag.toNat / 32 % 2 = 1), tag.toNat % 32), rest) := by
  have hlow : tag.toNat % 32 ≠ 31 := by
    intro hlow
    apply h
    rw [← UInt8.toNat_inj, UInt8.toNat_and]
    exact (Nat.and_two_pow_sub_one_eq_mod tag.toNat 5).trans hlow
  simp [tag?, hlow]

/-- What the strict reader reads as an element starts with its tag, and the lenient one reads the
same header. -/
theorem header?_of_element? {bytes content rest : List UInt8} {tag : UInt8}
    (h : Reader.element? bytes = some ((tag, content), rest)) :
    tag &&& 0x1f ≠ 0x1f ∧ (∃ more, bytes = tag :: more) ∧
      header? bytes = some (⟨tag.toNat / 64, tag.toNat / 32 % 2 = 1, tag.toNat % 32,
        content.length⟩, content ++ rest) := by
  unfold Reader.element? at h
  split at h
  · cases h
  rename_i first more
  split at h
  · cases h
  rename_i hshort
  split at h
  · rename_i size after hlength
    split at h
    · rename_i hsize
      cases h
      refine ⟨hshort, ⟨more, rfl⟩, ?_⟩
      rw [List.length_take_of_le hsize, List.take_append_drop]
      simp [header?, tag?_of_short hshort, length?_of_length? hlength]
    · cases h
  · cases h

/-- What the strict reader reads as an element, the lenient one reads as the same element, and both
leave the same. -/
theorem next?_of_element? {bytes content rest : List UInt8} {tag : UInt8}
    (h : Reader.element? bytes = some ((tag, content), rest)) :
    next? bytes = some (ofOctet tag content, rest) := by
  obtain ⟨-, -, hheader⟩ := header?_of_element? h
  simp [next?, hheader, ofOctet]

end Certificate.Element

/-! ## Certificates -/

namespace Chain

open Reader

theorem Reader.element?_of_expect {tag : Tag} {bytes content rest : List UInt8}
    (h : expect tag bytes = .ok (content, rest)) :
    element? bytes = some ((tag.octet, content), rest) := by
  rw [expect, bind_eq_ok_iff] at h
  obtain ⟨⟨found, content'⟩, between, helement, h⟩ := h
  simp only at h
  split at h
  · rename_i hfound
    obtain ⟨rfl, rfl⟩ := pure_eq_ok_iff.1 h
    unfold element at helement
    cases hread : element? bytes with
    | none => simp [hread] at helement
    | some read =>
      simp only [hread, Except.ok.injEq] at helement
      rw [helement, hfound]
  · exact absurd h fail_ne_ok

/-- The content of an element is read as a whole. -/
theorem Reader.nested_eq_ok_iff {α : Type} {tag : Tag} {fault : Fault} {reader : Reader α}
    {bytes rest : List UInt8} {a : α} :
    nested tag fault reader bytes = .ok (a, rest) ↔
      ∃ content, expect tag bytes = .ok (content, rest) ∧ reader content = .ok (a, []) := by
  unfold nested
  cases expect tag bytes with
  | error fault' => simp
  | ok found =>
    obtain ⟨content, rest'⟩ := found
    simp only [Except.bind_eq_ok_iff, whole_eq_ok_iff, Except.ok.injEq, Prod.mk.injEq]
    constructor
    · rintro ⟨a', hread, rfl, rfl⟩
      exact ⟨content, ⟨rfl, rfl⟩, hread⟩
    · rintro ⟨content', ⟨rfl, rfl⟩, hread⟩
      exact ⟨a, hread, rfl, rfl⟩

theorem Reader.expect_of_nested {α : Type} {tag : Tag} {fault : Fault} {reader : Reader α}
    {bytes rest : List UInt8} {a : α} (h : nested tag fault reader bytes = .ok (a, rest)) :
    ∃ content, expect tag bytes = .ok (content, rest) := by
  obtain ⟨content, hexpect, -⟩ := nested_eq_ok_iff.1 h
  exact ⟨content, hexpect⟩

theorem Reader.encoded_eq_ok_iff {tag : Tag} {bytes message content rest : List UInt8} :
    encoded tag bytes = .ok ((message, content), rest) ↔
      expect tag bytes = .ok (content, rest) ∧
        bytes.take (bytes.length - rest.length) = message := by
  have hget {octets : List UInt8} : (get : Reader (List UInt8)) octets = .ok (octets, octets) := rfl
  constructor
  · intro h
    obtain ⟨bytes', between, hbytes, h⟩ := bind_eq_ok_iff.1 h
    obtain ⟨content', rest', hexpect, h⟩ := bind_eq_ok_iff.1 h
    obtain ⟨rest'', between', hrest, h⟩ := bind_eq_ok_iff.1 h
    obtain ⟨rfl, rfl⟩ := Prod.mk.inj (Except.ok.inj (hget.symm.trans hbytes))
    obtain ⟨rfl, rfl⟩ := Prod.mk.inj (Except.ok.inj (hget.symm.trans hrest))
    obtain ⟨hpair, rfl⟩ := pure_eq_ok_iff.1 h
    obtain ⟨hmessage, rfl⟩ := Prod.mk.inj hpair
    exact ⟨hexpect, hmessage⟩
  · rintro ⟨hexpect, rfl⟩
    refine bind_eq_ok_iff.2 ⟨bytes, bytes, hget, ?_⟩
    refine bind_eq_ok_iff.2 ⟨content, rest, hexpect, ?_⟩
    exact bind_eq_ok_iff.2 ⟨rest, rest, hget, rfl⟩

/-- The parts of a certificate one after the other. -/
theorem Link.exists_of_signedData {bytes content rest : List UInt8} {signed : SignedData}
    (h : signedData bytes = .ok ((content, signed), rest)) :
    ∃ between between', encoded .sequence bytes = .ok ((signed.message, content), between) ∧
      expect .sequence between = .ok (signed.algorithm, between') ∧
      bitString between' = .ok (signed.signature, rest) := by
  obtain ⟨⟨message, content'⟩, between, hmessage, h⟩ := bind_eq_ok_iff.1 h
  obtain ⟨algorithm, between', halgorithm, h⟩ := bind_eq_ok_iff.1 h
  obtain ⟨signature, between'', hsignature, h⟩ := bind_eq_ok_iff.1 h
  obtain ⟨hpair, rfl⟩ := pure_eq_ok_iff.1 h
  obtain ⟨rfl, rfl⟩ := Prod.mk.inj hpair
  exact ⟨between, between', hmessage, halgorithm, hsignature⟩

/-- A link is a single element, made of the signed octets and what belongs to them. -/
theorem Link.exists_of_ofDer {unknown : Unknown} {der : List UInt8} {link : Link}
    (h : ofDer unknown der = .ok link) :
    ∃ outer content signed, expect .sequence der = .ok (outer, []) ∧
      signedData outer = .ok ((content, signed), []) ∧
      toBeSigned unknown signed content = .ok (link, []) := by
  rw [ofDer, Except.bind_eq_ok_iff] at h
  obtain ⟨⟨content, signed⟩, hwhole, h⟩ := h
  obtain ⟨outer, houter, hsigned⟩ := nested_eq_ok_iff.1 (whole_eq_ok_iff.1 hwhole)
  exact ⟨outer, content, signed, houter, hsigned, whole_eq_ok_iff.1 h⟩

/-- An anchor is a single element. -/
theorem Anchor.expect_of_ofDer {unknown : Unknown} {der : List UInt8} {anchor : Anchor}
    (h : ofDer unknown der = .ok anchor) : ∃ content, expect .sequence der = .ok (content, []) := by
  unfold ofDer at h
  split at h
  · rename_i link hlink
    obtain ⟨outer, -, -, houter, -⟩ := Link.exists_of_ofDer hlink
    exact ⟨outer, houter⟩
  · split at h
    · rename_i found hplain
      exact expect_of_nested (whole_eq_ok_iff.1 hplain)
    · cases h
  · cases h

end Chain

namespace Certificate

/-- The octets behind a certificate are those behind its outer element. -/
theorem Inspected.exists_next? {bytes rest : List UInt8} {inspected : Inspected}
    (h : next? bytes = some (inspected, rest)) : ∃ e, Element.next? bytes = some (e, rest) := by
  simp only [next?, Option.bind_eq_bind, Option.bind_eq_some_iff] at h
  obtain ⟨⟨e, rest'⟩, hexpect, inner, -, inspected', -, last, -, bits, -, h⟩ := h
  cases h
  unfold Element.expect? at hexpect
  cases hnext : Element.next? bytes with
  | none => simp [hnext] at hexpect
  | some found =>
    simp only [hnext] at hexpect
    split at hexpect
    · cases hexpect
      exact ⟨_, rfl⟩
    · cases hexpect

/-- A certificate with octets behind it can be inspected, but is no anchor. -/
theorem not_anchor_of_trailing {c : Certificate} {inspected : Inspected} {rest : List UInt8}
    (h : Inspected.next? c.der = some (inspected, rest)) (hrest : rest ≠ []) (anchor : Anchor) :
    Anchor.ofDer .refused c.der ≠ .ok anchor := by
  intro hanchor
  obtain ⟨content, hexpect⟩ := Anchor.expect_of_ofDer hanchor
  have hstrict := Element.next?_of_element? (Reader.element?_of_expect hexpect)
  obtain ⟨e', hlenient⟩ := Inspected.exists_next? h
  rw [hstrict] at hlenient
  cases hlenient
  exact hrest rfl

end Certificate

end WorkloadAuth
