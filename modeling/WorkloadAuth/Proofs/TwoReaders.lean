import WorkloadAuth.Proofs.ChainTime
import WorkloadAuth.Proofs.Path
import WorkloadAuth.Proofs.TrustedRoot

/-!
# Certificates that both readers read

A certificate of a chain says the same about its validity and its usages where it is inspected.

* `Certificate.extension?_of_extension`, `Certificate.exists_extensions`: the two readers on
  extensions.
* `Certificate.usages_of_foldlM`: a link has at most one extension for usages.
* `Certificate.Inspected.Matches`: what the lenient reader finds, against what the strict one does.
* `Certificate.matches_of_ofDer`: the two readers on certificates.
* `Certificate.Inspected.Matches.validAt`, `Certificate.Inspected.Matches.mem_of_allows`: what
  follows for the validity and the usages.
-/

namespace WorkloadAuth

open Calendar Chain

namespace Certificate

/-! ## What stands in front of the validity and the extensions -/

section Parts

variable {bytes content rest rest' : List UInt8}

theorem rest_of_afterVersion? (h : Link.version3 bytes = .ok ((), rest))
    (h' : Inspected.afterVersion? bytes = some rest') : rest' = rest := by
  obtain ⟨content, hexpect⟩ := Reader.expect_of_nested h
  rw [Inspected.afterVersion?, Element.next?_of_expect hexpect] at h'
  have htag : (Element.ofOctet Tag.context0.octet content).tag = 0 := rfl
  have hclass : (Element.ofOctet Tag.context0.octet content).tagClass = 2 := rfl
  simp only [htag, hclass, ne_eq, not_true_eq_false, if_false] at h'
  split at h'
  · split at h'
    · exact (Option.some.inj h').symm
    · cases h'
  · cases h'

theorem rest_of_afterSerial? (h : Reader.expect .integer bytes = .ok (content, rest))
    (h' : Inspected.afterSerial? bytes = some rest') : rest' = rest := by
  obtain ⟨hshort, ⟨more, hmore⟩, -⟩ := Element.header?_of_element? (Reader.element?_of_expect h)
  have hopen : Element.openTag? bytes = none := by
    rw [hmore, Element.openTag?, Element.tag?_of_short hshort]
    simp only [Option.bind_eq_bind, Option.bind_some]
    split
    · rfl
    · rfl
  have hexpect : Element.expect? Tag.integer bytes = _ := Element.expect?_of_expect h
  rw [Inspected.afterSerial?, hopen] at h'
  simp only [hexpect, Option.map_some, Option.some.injEq] at h'
  exact h'.symm

theorem rest_of_algorithm? {u : Unit} (h : Reader.expect .sequence bytes = .ok (content, rest))
    (h' : Inspected.algorithm? bytes = some (u, rest')) : rest' = rest := by
  have hexpect : Element.expect? Tag.sequence bytes = _ := Element.expect?_of_expect h
  rw [Inspected.algorithm?, hexpect] at h'
  simp only [Option.bind_eq_bind, Option.bind_some, Option.bind_eq_some_iff] at h'
  obtain ⟨id, -, h'⟩ := h'
  split at h'
  · cases h'
    rfl
  · obtain ⟨e, -, he⟩ := Option.map_eq_some_iff.1 h'
    cases he
    rfl

theorem rest_of_name? {name : Name} (h : Reader.expect .sequence bytes = .ok (content, rest))
    (h' : Name.next? bytes = some (name, rest')) : rest' = rest := by
  have hexpect : Element.expect? Tag.sequence bytes = _ := Element.expect?_of_expect h
  rw [Name.next?, hexpect] at h'
  cases h'
  rfl

/-- Extensions are no identifiers of the issuer or the subject. -/
theorem afterUniqueId?_of_context3 {tag : Nat} (htag : tag ≠ 3)
    (h : Reader.expect .context3 bytes = .ok (content, rest)) :
    Inspected.afterUniqueId? tag bytes = some bytes := by
  rw [Inspected.afterUniqueId?, Element.header?_of_expect h]
  exact if_neg fun h => htag h.symm

end Parts

/-! ## Extensions -/

section Extensions

open Reader

variable {bytes rest : List UInt8}

/-- An extension, as the lenient reader keeps it. -/
def Extension.ofStrict (e : Link.Extension) : Extension := ⟨e.id, e.value⟩

/-- Where the strict reader finds a truth value in front of a value, the lenient one finds one of a
single octet, and else it finds none. -/
theorem expect?_of_flag {critical : Bool} {between value : List UInt8}
    (hflag : flag bytes = .ok (critical, between))
    (hvalue : expect .octetString between = .ok (value, rest)) :
    (Element.expect? Tag.boolean bytes = none ∧ bytes = between) ∨
      ∃ e, Element.expect? Tag.boolean bytes = some (e, between) ∧ e.content.length = 1 := by
  obtain ⟨isFlag, bytes', hstarts, hflag⟩ := bind_eq_ok_iff.1 hflag
  obtain rfl : bytes = bytes' := congrArg Prod.snd (Except.ok.inj hstarts)
  split at hflag
  · obtain ⟨content, hexpect, hcontent⟩ := nested_eq_ok_iff.1 hflag
    refine .inr ⟨_, Element.expect?_of_expect hexpect, ?_⟩
    show content.length = 1
    split at hcontent
    · cases hcontent
      rfl
    · cases hcontent
      rfl
    · cases hcontent
  · obtain ⟨-, rfl⟩ := pure_eq_ok_iff.1 hflag
    refine .inl ⟨?_, rfl⟩
    rw [Element.expect?, Element.next?_of_expect hvalue]
    rfl

theorem extension?_of_extension {content : List UInt8} {e : Link.Extension}
    (h : expect .sequence bytes = .ok (content, rest))
    (hread : Link.extension content = .ok (e, [])) :
    Inspected.extension? bytes = some (.ofStrict e, rest) := by
  rw [Link.extension, bind_eq_ok_iff] at hread
  obtain ⟨id, afterId, hid, hread⟩ := hread
  obtain ⟨critical, afterFlag, hflag, hread⟩ := bind_eq_ok_iff.1 hread
  obtain ⟨value, afterValue, hvalue, hread⟩ := bind_eq_ok_iff.1 hread
  obtain ⟨rfl, -⟩ := pure_eq_ok_iff.1 hread
  have hsequence : Element.expect? Tag.sequence bytes = _ := Element.expect?_of_expect h
  have hobject : Element.objectId? (Element.ofOctet Chain.Tag.sequence.octet content).content = _ :=
    Element.objectId?_of_expect hid
  have hoctets : Element.expect? Tag.octetString afterFlag = _ := Element.expect?_of_expect hvalue
  rw [Inspected.extension?, hsequence]
  simp only [Option.bind_eq_bind, Option.bind_some, hobject]
  obtain ⟨hnone, rfl⟩ | ⟨flag, hsome, hlength⟩ := expect?_of_flag hflag hvalue
  · simp only [hnone, hoctets]
    rfl
  · simp only [hsome, hlength, if_true, hoctets]
    rfl

/-- The lenient reader finds the extensions that the strict one adds to a link, one after the
other. -/
theorem exists_extensions {unknown : Unknown} {fault : Fault} {step : Link → Reader Link}
    (hstep : ∀ {link content link'}, step link content = .ok (link', []) →
      ∃ e, Link.extension content = .ok (e, []) ∧ link.withExtension unknown e = .ok link')
    {fuel : Nat} {link link' : Link}
    (h : sequencesFrom fault step fuel link bytes = .ok (link', [])) :
    ∃ es : List Link.Extension, es.foldlM (Link.withExtension unknown) link = .ok link' ∧
      ∀ n, bytes.length ≤ n →
        Element.all Inspected.extension? n bytes = (es.map .ofStrict, []) := by
  -- along the strict reader; the lenient one has fuel enough, as each extension takes some octets
  induction fuel generalizing link bytes with
  | zero => exact absurd h fail_ne_ok
  | succ fuel ih =>
    rw [sequencesFrom, bind_eq_ok_iff] at h
    obtain ⟨next, between, hnext, h⟩ := h
    obtain ⟨content, hexpect, hcontent⟩ := nested_eq_ok_iff.1 hnext
    obtain ⟨e, hread, hadded⟩ := hstep hcontent
    have hextension := extension?_of_extension hexpect hread
    have hshorter := length_lt_of_expect hexpect
    obtain ⟨isEnd, between', hend, h⟩ := bind_eq_ok_iff.1 h
    obtain ⟨rfl, rfl⟩ : between.isEmpty = isEnd ∧ between = between' :=
      Prod.mk.inj (Except.ok.inj hend)
    have hall {es : List Link.Extension} (hrest : ∀ n, between.length ≤ n →
        Element.all Inspected.extension? n between = (es.map .ofStrict, [])) (n : Nat)
        (hn : bytes.length ≤ n) :
        Element.all Inspected.extension? n bytes = ((e :: es).map .ofStrict, []) := by
      obtain ⟨n, rfl⟩ : ∃ m, n = m + 1 := Nat.exists_eq_add_one.2 (by omega)
      rw [Element.all, hextension]
      simp only [hrest n (by omega), List.map_cons]
    split at h
    · rename_i hempty
      obtain ⟨rfl, rfl⟩ := pure_eq_ok_iff.1 h
      refine ⟨[e], ?_, hall ?_⟩
      · rw [List.foldlM_cons, hadded]
        rfl
      · intro n hn
        cases n <;> rfl
    · obtain ⟨es, hfold, hrest⟩ := ih h
      refine ⟨e :: es, ?_, hall hrest⟩
      rw [List.foldlM_cons, hadded]
      exact hfold

/-- What an extension adds to the usages of a link. The validity and what is signed stay as they
are. -/
structure Adds (e : Link.Extension) (link link' : Link) : Prop where
  signed : link'.signed = link.signed
  validity : link'.validity = link.validity
  usages : if e.id = Inspected.usagesId then
      link.extendedUsage = none ∧ ∃ bytes, expect .sequence e.value = .ok (bytes, []) ∧
        link'.extendedUsage = some bytes
    else link'.extendedUsage = link.extendedUsage

theorem once_eq_ok_iff {known v : Option (List UInt8)} {value : Except Fault (List UInt8)} :
    Link.once known value = .ok v ↔ known = none ∧ ∃ bytes, value = .ok bytes ∧ v = some bytes := by
  cases known with
  | some bytes => simp [Link.once]
  | none =>
    cases value with
    | error fault => simp [Link.once, Except.map]
    | ok bytes => simp [Link.once, Except.map, eq_comm]

theorem adds_of_withExtension {unknown : Unknown} {link link' : Link} {e : Link.Extension}
    (h : link.withExtension unknown e = .ok link') : Adds e link link' := by
  have hother (hid : e.id ≠ Inspected.usagesId) (hsigned : link'.signed = link.signed)
      (hvalidity : link'.validity = link.validity)
      (husages : link'.extendedUsage = link.extendedUsage) : Adds e link link' :=
    ⟨hsigned, hvalidity, by rwa [if_neg hid]⟩
  unfold Link.withExtension at h
  split at h
  case h_6 hid =>
    obtain ⟨v, hv, h⟩ := Except.bind_eq_ok_iff.1 h
    cases h
    obtain ⟨hnone, bytes, hvalue, rfl⟩ := once_eq_ok_iff.1 hv
    refine ⟨rfl, rfl, ?_⟩
    rw [if_pos (show e.id = Inspected.usagesId from hid)]
    exact ⟨hnone, bytes, whole_eq_ok_iff.1 hvalue, rfl⟩
  case h_7 hid =>
    unfold Link.passOver at h
    split at h
    · cases h
    · cases h
      exact hother hid rfl rfl rfl
  -- each other extension that is known sets a part of the link of its own
  all_goals
    rename_i hid
    obtain ⟨v, -, h⟩ := Except.bind_eq_ok_iff.1 h
    cases h
    exact hother (by rw [hid]; decide) rfl rfl rfl

/-- No extension changes the validity or what is signed. -/
theorem kept_of_foldlM {unknown : Unknown} {link link' : Link} {es : List Link.Extension}
    (h : es.foldlM (Link.withExtension unknown) link = .ok link') :
    link'.validity = link.validity ∧ link'.signed = link.signed := by
  induction es generalizing link with
  | nil =>
    cases h
    exact ⟨rfl, rfl⟩
  | cons e es ih =>
    rw [List.foldlM_cons, Except.bind_eq_ok_iff] at h
    obtain ⟨next, hadded, h⟩ := h
    obtain ⟨hvalidity, hsigned⟩ := ih h
    have hadds := adds_of_withExtension hadded
    exact ⟨hvalidity.trans hadds.validity, hsigned.trans hadds.signed⟩

/-- Of all extensions at most one is for usages, and it is the one that the link keeps. -/
theorem usages_of_foldlM {unknown : Unknown} {link link' : Link} {es : List Link.Extension}
    (h : es.foldlM (Link.withExtension unknown) link = .ok link') :
    (es.filter (fun e => e.id == Inspected.usagesId) = [] ∧
        link'.extendedUsage = link.extendedUsage) ∨
      link.extendedUsage = none ∧ ∃ e bytes,
        es.filter (fun e => e.id == Inspected.usagesId) = [e] ∧
          expect .sequence e.value = .ok (bytes, []) ∧ link'.extendedUsage = some bytes := by
  induction es generalizing link with
  | nil =>
    cases h
    exact .inl ⟨rfl, rfl⟩
  | cons e es ih =>
    rw [List.foldlM_cons, Except.bind_eq_ok_iff] at h
    obtain ⟨next, hadded, h⟩ := h
    have husages := (adds_of_withExtension hadded).usages
    by_cases hid : e.id = Inspected.usagesId
    · rw [if_pos hid] at husages
      obtain ⟨hnone, bytes, hvalue, hnext⟩ := husages
      rcases ih h with ⟨hmore, hkept⟩ | ⟨habsent, -⟩
      · refine .inr ⟨hnone, e, bytes, ?_, hvalue, hkept.trans hnext⟩
        rw [List.filter_cons_of_pos (by simpa using hid), hmore]
      · cases hnext.symm.trans habsent
    · rw [if_neg hid] at husages
      rw [List.filter_cons_of_neg (by simpa using hid), ← husages]
      exact ih h

end Extensions

/-! ## Certificates -/

section Certificates

open Reader

/-- What the strict reader reads of the signed octets, one part after the other. -/
structure Parts (content : List UInt8) (link : Link) where
  afterVersion : List UInt8
  serial : List UInt8
  afterSerial : List UInt8
  algorithm : List UInt8
  afterAlgorithm : List UInt8
  afterIssuer : List UInt8
  afterValidity : List UInt8
  afterSubject : List UInt8
  afterKey : List UInt8
  /-- The link without its extensions. -/
  bare : Link
  version_read : Link.version3 content = .ok ((), afterVersion)
  serial_read : expect .integer afterVersion = .ok (serial, afterSerial)
  algorithm_read : expect .sequence afterSerial = .ok (algorithm, afterAlgorithm)
  issuer_read : expect .sequence afterAlgorithm = .ok (bare.issuer, afterIssuer)
  validity_read : expect .sequence afterIssuer = .ok (bare.validity, afterValidity)
  subject_read : expect .sequence afterValidity = .ok (bare.subject, afterSubject)
  key_read : expect .sequence afterSubject = .ok (bare.key, afterKey)
  bare_unrestricted : bare.extendedUsage = none
  extended : (afterKey = [] ∧ link = bare) ∨
    ∃ inner octets, expect .context3 afterKey = .ok (inner, []) ∧
      expect .sequence inner = .ok (octets, []) ∧
      ∃ es : List Link.Extension, es.foldlM (Link.withExtension .refused) bare = .ok link ∧
        ∀ n, octets.length ≤ n →
          Element.all Inspected.extension? n octets = (es.map .ofStrict, [])

theorem exists_parts {signed : SignedData} {content : List UInt8} {link : Link}
    (h : Link.toBeSigned .refused signed content = .ok (link, [])) :
    ∃ p : Parts content link, p.bare.signed = signed := by
  unfold Link.toBeSigned at h
  obtain ⟨⟨⟩, afterVersion, hversion, h⟩ := bind_eq_ok_iff.1 h
  obtain ⟨serial, afterSerial, hserial, h⟩ := bind_eq_ok_iff.1 h
  obtain ⟨algorithm, afterAlgorithm, halgorithm, h⟩ := bind_eq_ok_iff.1 h
  split at h
  · obtain ⟨u, between, hfail, -⟩ := bind_eq_ok_iff.1 h
    exact absurd hfail fail_ne_ok
  obtain ⟨issuer, afterIssuer, hissuer, h⟩ := bind_eq_ok_iff.1 h
  obtain ⟨validity, afterValidity, hvalidity, h⟩ := bind_eq_ok_iff.1 h
  obtain ⟨subject, afterSubject, hsubject, h⟩ := bind_eq_ok_iff.1 h
  obtain ⟨key, afterKey, hkey, h⟩ := bind_eq_ok_iff.1 h
  obtain ⟨isEnd, between, hend, h⟩ := bind_eq_ok_iff.1 h
  obtain ⟨rfl, rfl⟩ : afterKey.isEmpty = isEnd ∧ afterKey = between :=
    Prod.mk.inj (Except.ok.inj hend)
  have hparts (hextended) : ∃ p : Parts content link, p.bare.signed = signed := ⟨{
    afterVersion, serial, afterSerial, algorithm, afterAlgorithm, afterIssuer, afterValidity,
    afterSubject, afterKey
    bare := ⟨signed, issuer, validity, subject, key, none, none, none, none, none, none⟩
    version_read := hversion
    serial_read := hserial
    algorithm_read := halgorithm
    issuer_read := hissuer
    validity_read := hvalidity
    subject_read := hsubject
    key_read := hkey
    bare_unrestricted := rfl
    extended := hextended }, rfl⟩
  split at h
  · rename_i hempty
    obtain ⟨rfl, rfl⟩ := pure_eq_ok_iff.1 h
    exact hparts (.inl ⟨rfl, rfl⟩)
  · obtain ⟨inner, hinner, h⟩ := nested_eq_ok_iff.1 h
    obtain ⟨octets, hoctets, h⟩ := nested_eq_ok_iff.1 h
    obtain ⟨octets', between, hget, h⟩ := bind_eq_ok_iff.1 h
    obtain ⟨rfl, rfl⟩ : octets = octets' ∧ octets = between := Prod.mk.inj (Except.ok.inj hget)
    refine hparts (.inr ⟨inner, octets, hinner, hoctets, exists_extensions ?_ h⟩)
    intro link content link' hstep
    obtain ⟨e, between, hread, hstep⟩ := bind_eq_ok_iff.1 hstep
    cases hadded : link.withExtension .refused e with
    | error fault =>
      rw [hadded] at hstep
      exact absurd hstep fail_ne_ok
    | ok next =>
      rw [hadded] at hstep
      obtain ⟨rfl, rfl⟩ := pure_eq_ok_iff.1 hstep
      exact ⟨e, hread, hadded⟩

/-- The link of a certificate keeps what is signed. -/
theorem signed_of_toBeSigned {signed : SignedData} {content : List UInt8} {link : Link}
    (h : Link.toBeSigned .refused signed content = .ok (link, [])) : link.signed = signed := by
  obtain ⟨p, hsigned⟩ := exists_parts h
  rcases p.extended with ⟨-, hlink⟩ | ⟨inner, octets, -, -, es, hfold, -⟩
  · rw [hlink]
    exact hsigned
  · exact (kept_of_foldlM hfold).2.trans hsigned

/-- What is said where a certificate is inspected is what its link says of its validity and its
usages. -/
structure Inspected.Matches (i : Inspected) (link : Link) : Prop where
  times : ∃ after rest, timeAt? link.validity = some (i.notBefore, after) ∧
    timeAt? after = some (i.notAfter, rest)
  usages : (i.extensions.filter (fun e => e.id == usagesId) = [] ∧ link.extendedUsage = none) ∨
    ∃ e bytes, i.extensions.filter (fun e => e.id == usagesId) = [e] ∧
      expect .sequence e.value = .ok (bytes, []) ∧ link.extendedUsage = some bytes

/-- The extensions that the lenient reader finds are those of the link. -/
theorem Parts.extensions {content : List UInt8} {link : Link} (p : Parts content link)
    {after after' : List UInt8} {extensions : List Extension}
    (hfirst : Inspected.afterUniqueId? 1 p.afterKey = some after)
    (hsecond : Inspected.afterUniqueId? 2 after = some after')
    (hextensions : Inspected.extensions? after' = some extensions) :
    ∃ es : List Link.Extension, es.foldlM (Link.withExtension .refused) p.bare = .ok link ∧
      extensions = es.map .ofStrict := by
  rcases p.extended with ⟨hnone, hlink⟩ | ⟨inner, octets, hinner, hoctets, es, hfold, hall⟩
  · rw [hnone] at hfirst
    obtain rfl : [] = after := Option.some.inj hfirst
    obtain rfl : [] = after' := Option.some.inj hsecond
    obtain rfl : [] = extensions := Option.some.inj hextensions
    exact ⟨[], congrArg Except.ok hlink.symm, rfl⟩
  · rw [afterUniqueId?_of_context3 (by decide) hinner] at hfirst
    obtain rfl := Option.some.inj hfirst
    rw [afterUniqueId?_of_context3 (by decide) hinner] at hsecond
    obtain rfl := Option.some.inj hsecond
    refine ⟨es, hfold, ?_⟩
    have hsequence : Element.expect? Tag.sequence inner = _ := Element.expect?_of_expect hoctets
    have hallOf : Element.allOf? Inspected.extension? octets = some (es.map .ofStrict) := by
      rw [Element.allOf?, hall octets.length (Nat.le_refl _)]
      rfl
    unfold Inspected.extensions? at hextensions
    split at hextensions
    · rename_i hempty
      rw [List.isEmpty_iff.1 hempty] at hinner
      cases hinner
    · rw [Element.header?_of_expect hinner] at hextensions
      simp only [List.append_nil, Option.bind_eq_bind, Option.bind_some, hsequence] at hextensions
      rw [if_pos ⟨rfl, rfl⟩] at hextensions
      exact Option.some.inj (hextensions.symm.trans hallOf)

theorem matches_of_parts {content : List UInt8} {link : Link} {inspected : Inspected}
    (p : Parts content link) (h : Inspected.toBeSigned? content = some inspected) :
    inspected.Matches link := by
  simp only [Inspected.toBeSigned?, Option.bind_eq_bind, Option.bind_eq_some_iff, Prod.exists,
    Option.some.injEq] at h
  obtain ⟨b₁, hversion, b₂, hserial, _, b₃, halgorithm, _, b₄, hissuer, validity, b₅, hvalidity,
    notBefore, after, hbefore, notAfter, rest, hafter, subject, b₆, hsubject, keyInfo, b₇, hkey,
    _, _, -, _, _, -, b₈, hfirst, b₉, hsecond, extensions, hextensions, rfl⟩ := h
  -- behind each part the lenient reader is where the strict one is
  obtain rfl := rest_of_afterVersion? p.version_read hversion
  obtain rfl := rest_of_afterSerial? p.serial_read hserial
  obtain rfl := rest_of_algorithm? p.algorithm_read halgorithm
  obtain rfl := rest_of_name? p.issuer_read hissuer
  have hvalidity' : Element.expect? Tag.sequence p.afterIssuer = _ :=
    Element.expect?_of_expect p.validity_read
  obtain ⟨rfl, rfl⟩ := Prod.mk.inj (Option.some.inj (hvalidity'.symm.trans hvalidity))
  obtain rfl := rest_of_name? p.subject_read hsubject
  have hkey' : Element.expect? Tag.sequence p.afterSubject = _ :=
    Element.expect?_of_expect p.key_read
  obtain ⟨-, rfl⟩ := Prod.mk.inj (Option.some.inj (hkey'.symm.trans hkey))
  obtain ⟨es, hfold, rfl⟩ := p.extensions hfirst hsecond hextensions
  constructor
  case times =>
    rw [(kept_of_foldlM hfold).1]
    exact ⟨after, rest, hbefore, hafter⟩
  case usages =>
    have hfilter : (es.map Extension.ofStrict).filter (fun e => e.id == Inspected.usagesId) =
        (es.filter fun e => e.id == Inspected.usagesId).map .ofStrict := by
      rw [List.filter_map]
      rfl
    rw [hfilter]
    rcases usages_of_foldlM hfold with ⟨hnone, hkept⟩ | ⟨-, e, bytes, hone, hvalue, hlink⟩
    · exact .inl ⟨by rw [hnone, List.map_nil], hkept.trans p.bare_unrestricted⟩
    · exact .inr ⟨.ofStrict e, bytes, by rw [hone, List.map_singleton], hvalue, hlink⟩

/-- **Two readers, one certificate.** A certificate that can be part of a chain says the same about
its validity and its usages where it is inspected. -/
theorem matches_of_ofDer {c : Certificate} {link : Link} {inspected : Inspected}
    (hlink : Link.ofDer .refused c.der = .ok link) (hinspected : c.inspect = .ok inspected) :
    inspected.Matches link := by
  obtain ⟨outer, content, signed, houter, hsigned, hlink⟩ := Link.exists_of_ofDer hlink
  obtain ⟨between, -, hencoded, -, -⟩ := Link.exists_of_signedData hsigned
  have hcontent := (encoded_eq_ok_iff.1 hencoded).1
  obtain ⟨p, -⟩ := exists_parts hlink
  have hfirst : Element.expect? Tag.sequence c.der = _ := Element.expect?_of_expect houter
  have hsecond : Element.expect? Tag.sequence outer = _ := Element.expect?_of_expect hcontent
  unfold inspect at hinspected
  split at hinspected
  · rename_i found rest hnext
    obtain rfl := Except.ok.inj hinspected
    simp only [Inspected.next?, hfirst, Option.bind_eq_bind, Option.bind_some] at hnext
    rw [show (Element.ofOctet Chain.Tag.sequence.octet outer).content = outer from rfl, hsecond]
      at hnext
    simp only [Option.bind_some, Option.bind_eq_some_iff] at hnext
    obtain ⟨found', hfound, _, -, _, -, hnext⟩ := hnext
    obtain ⟨rfl, -⟩ := Prod.mk.inj (Option.some.inj hnext)
    exact matches_of_parts p hfound
  · cases hinspected

end Certificates

/-! ## What follows -/

section Matches

open Reader

variable {i : Inspected} {link : Link}

/-- A certificate that is valid in a chain is valid where it is inspected. -/
theorem Inspected.Matches.validAt (h : i.Matches link) {now : Moment} (hnow : 0 ≤ now.unixSeconds)
    (hvalid : link.ValidAt now.unixSeconds.toNat) : i.ValidAt now.wholeSecond := by
  obtain ⟨first, last, hread, hfirst, hlast⟩ := hvalid
  obtain ⟨first', between, hbefore, hread⟩ := bind_eq_ok_iff.1 (whole_eq_ok_iff.1 hread)
  obtain ⟨last', between', hafter, hread⟩ := bind_eq_ok_iff.1 hread
  obtain ⟨hpair, rfl⟩ := pure_eq_ok_iff.1 hread
  obtain ⟨rfl, rfl⟩ := Prod.mk.inj hpair
  obtain ⟨after, rest, hnotBefore, hnotAfter⟩ := h.times
  obtain ⟨m, hm, hnanos⟩ := timeAt?_of_time hbefore
  obtain ⟨rfl, rfl⟩ := Prod.mk.inj (Option.some.inj (hm.symm.trans hnotBefore))
  obtain ⟨m', hm', hnanos'⟩ := timeAt?_of_time hafter
  obtain ⟨rfl, -⟩ := Prod.mk.inj (Option.some.inj (hm'.symm.trans hnotAfter))
  simp only [Inspected.ValidAt, Moment.wholeSecond, hnanos, hnanos', nanosPerSecond]
  omega

/-- A usage that the strict reader finds in a list is one of those that the lenient one reads. -/
theorem mem_all_of_lists {usage bytes : List UInt8} (h : Chain.Lists usage bytes) {n : Nat}
    (hn : bytes.length ≤ n) : usage ∈ (Element.all Element.objectId? n bytes).1 := by
  have hread {bytes other rest : List UInt8} (hexpect : expect .objectId bytes = .ok (other, rest))
      {n : Nat} (hn : bytes.length ≤ n) : ∃ m, n = m + 1 ∧ rest.length ≤ m ∧
        (Element.all Element.objectId? n bytes).1 =
          other :: (Element.all Element.objectId? m rest).1 := by
    have hshorter := length_lt_of_expect hexpect
    obtain ⟨m, rfl⟩ : ∃ m, n = m + 1 := Nat.exists_eq_add_one.2 (by omega)
    refine ⟨m, rfl, by omega, ?_⟩
    rw [Element.all, Element.objectId?_of_expect hexpect]
  induction h generalizing n with
  | here hexpect =>
    obtain ⟨m, -, -, hall⟩ := hread hexpect hn
    rw [hall]
    exact List.mem_cons_self
  | later hexpect _ ih =>
    obtain ⟨m, -, hm, hall⟩ := hread hexpect hn
    rw [hall]
    exact List.mem_cons_of_mem _ (ih hm)

/-- A certificate that allows a usage in a chain lists it where it is inspected, unless it restricts
none or its list cannot be read. -/
theorem Inspected.Matches.mem_of_allows (h : i.Matches link) {usage : List UInt8}
    (hallows : link.Allows usage) {ids : List (List UInt8)} (hids : i.usages = .ok (some ids)) :
    usage ∈ ids := by
  obtain ⟨e, hone, hread⟩ := Inspected.usages_eq_ok_some_iff.1 hids
  rcases h.usages with ⟨hnone, -⟩ | ⟨e', bytes, hone', hvalue, hlink⟩
  · cases hnone.symm.trans hone
  · obtain ⟨rfl, -⟩ := List.cons.inj (hone.symm.trans hone')
    have hlists : Chain.Lists usage bytes := hallows bytes hlink
    have hsequence : Element.expect? Tag.sequence e.value = _ := Element.expect?_of_expect hvalue
    rw [Inspected.usageIds?, hsequence] at hread
    change Element.allOf? Element.objectId? bytes = some ids at hread
    unfold Element.allOf? at hread
    simp only [Option.ite_none_right_eq_some, Option.some.injEq] at hread
    rw [← hread.2]
    exact mem_all_of_lists hlists (Nat.le_refl _)

end Matches

end Certificate

end WorkloadAuth
