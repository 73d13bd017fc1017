import Mathlib.Data.List.Chain
import WorkloadAuth.Chain.Path
import WorkloadAuth.Proofs.NameConstraints
import WorkloadAuth.Proofs.Result

/-!
# Paths that are found

* `SignedData.VerifiedBy`, `Link.ValidAt`, `Link.Fits`, `Link.Allows`: what the checks of a
  certificate ask for.
* `Link.check_eq_ok_iff`: when a certificate passes the checks of its own.
* `Path`: a path from a certificate to an anchor.
* `Link.Apart`: two certificates are not of the same authority.
* `Query.Climb`: how a search gets from a certificate to an issuer, one issuer at a time.
* `Query.of_searchFrom`: a search that succeeds has climbed to an issuer that is anchored.
* `Query.path_of_search`: the path it has found.
-/

namespace WorkloadAuth.Chain

open Reader

/-! ## One certificate -/

/-- Some octets are signed with a key: one of the algorithms has the names that the signature and
the key give, and accepts the signature. -/
def SignedData.VerifiedBy (algorithms : List Algorithm) (signed : SignedData)
    (key : List UInt8) : Prop :=
  ∃ a ∈ algorithms, a.signatureId = signed.algorithm ∧
    ∃ octets, whole (.trailingData .publicKey) publicKey key = .ok (a.keyId, octets) ∧
      a.accepts octets signed.message signed.signature

theorem SignedData.exists_of_checkBy {signed : SignedData} {key : List UInt8}
    {algorithms : List Algorithm} (h : signed.checkBy key algorithms = .ok ()) :
    ∃ a ∈ algorithms, ∃ octets,
      whole (.trailingData .publicKey) publicKey key = .ok (a.keyId, octets) ∧
        a.accepts octets signed.message signed.signature := by
  induction algorithms with
  | nil => cases h
  | cons a others ih =>
    simp only [checkBy] at h
    cases hkey : whole (.trailingData .publicKey) publicKey key with
    | error fault => simp [hkey] at h
    | ok found =>
      obtain ⟨id, octets⟩ := found
      simp only [hkey] at h
      split at h
      · obtain ⟨a', ha', octets', hread, haccepts⟩ := ih h
        exact ⟨a', List.mem_cons_of_mem a ha', octets', hkey ▸ hread, haccepts⟩
      · rename_i hid
        rw [ne_eq, Decidable.not_not] at hid
        split at h
        · rename_i haccepts
          exact ⟨a, List.mem_cons_self, octets, by rw [hid], haccepts⟩
        · cases h

theorem SignedData.verifiedBy_of_check {algorithms : List Algorithm} {signed : SignedData}
    {key : List UInt8} (h : signed.check algorithms key = .ok ()) :
    signed.VerifiedBy algorithms key := by
  unfold check at h
  split at h
  · cases h
  · obtain ⟨a, ha, octets, hread, haccepts⟩ := exists_of_checkBy h
    obtain ⟨hmem, hid⟩ := List.mem_filter.1 ha
    exact ⟨a, hmem, by simpa using hid, octets, hread, haccepts⟩

/-- A time lies in the validity of a certificate; both ends belong to it. -/
def Link.ValidAt (link : Link) (now : Nat) : Prop :=
  ∃ first last, whole .badEncoding Chain.validity link.validity = .ok (first, last) ∧
    first ≤ now ∧ now ≤ last

/-- A certificate may be in its place. At the end it is no authority; an issuer is one, and may have
as many issuers below it as there are. -/
def Link.Fits (link : Link) : Place → Prop
  | .endEntity => ∀ bytes ∈ link.basicConstraints, ∃ limit,
      whole .badEncoding authority bytes = .ok (false, limit)
  | .issuer below => ∃ bytes limit, link.basicConstraints = some bytes ∧
      whole .badEncoding authority bytes = .ok (true, limit) ∧ ∀ n ∈ limit, below ≤ n

/-- A usage is in a list of usages. -/
inductive Lists (usage : List UInt8) : List UInt8 → Prop where
  | here {bytes rest} : expect .objectId bytes = .ok (usage, rest) → Lists usage bytes
  | later {bytes other rest} : expect .objectId bytes = .ok (other, rest) → Lists usage rest →
      Lists usage bytes

/-- A certificate allows a usage if it lists it or does not restrict usages. -/
def Link.Allows (link : Link) (usage : List UInt8) : Prop :=
  ∀ bytes ∈ link.extendedUsage, Lists usage bytes

theorem checkValidity_eq_ok_iff {now : Nat} {bytes : List UInt8} :
    whole .badEncoding (checkValidity now) bytes = .ok () ↔
      ∃ first last, whole .badEncoding validity bytes = .ok (first, last) ∧
        first ≤ now ∧ now ≤ last := by
  simp only [whole_eq_ok_iff]
  rw [checkValidity, bind_eq_ok_iff]
  constructor
  · rintro ⟨⟨first, last⟩, between, hread, h⟩
    simp only at h
    split at h
    · exact absurd h fail_ne_ok
    split at h
    · exact absurd h fail_ne_ok
    split at h
    · exact absurd h fail_ne_ok
    · obtain ⟨-, rfl⟩ := pure_eq_ok_iff.1 h
      exact ⟨first, last, hread, by omega, by omega⟩
  · rintro ⟨first, last, hread, hfirst, hlast⟩
    refine ⟨(first, last), [], hread, ?_⟩
    simp only
    rw [if_neg (by omega), if_neg (by omega), if_neg (by omega)]
    exact pure_eq_ok_iff.2 ⟨rfl, rfl⟩

theorem lists_of_checkUsage {usage : List UInt8} {fuel : Nat} {bytes rest : List UInt8}
    (h : checkUsage usage fuel bytes = .ok ((), rest)) : Lists usage bytes := by
  induction fuel generalizing bytes with
  | zero => exact absurd h fail_ne_ok
  | succ fuel ih =>
    rw [checkUsage, bind_eq_ok_iff] at h
    obtain ⟨listed, between, hlisted, h⟩ := h
    split at h
    · rename_i heq
      exact .here (heq ▸ hlisted)
    · obtain ⟨isEnd, between', hend, h⟩ := bind_eq_ok_iff.1 h
      split at h
      · exact absurd h fail_ne_ok
      · cases hend
        exact .later hlisted (ih h)

theorem checkUsage_of_lists {usage : List UInt8} {fuel : Nat} {bytes : List UInt8}
    (h : Lists usage bytes) (hfuel : bytes.length < fuel) :
    checkUsage usage fuel bytes = .ok ((), []) := by
  induction fuel generalizing bytes with
  | zero => exact absurd hfuel (Nat.not_lt_zero _)
  | succ fuel ih =>
    rw [checkUsage, bind_eq_ok_iff]
    cases h with
    | here hlisted => exact ⟨_, _, hlisted, by rw [if_pos rfl]; rfl⟩
    | @later _ other rest hlisted hmore =>
      refine ⟨other, rest, hlisted, ?_⟩
      by_cases heq : other = usage
      · rw [if_pos heq]
        rfl
      · have hshorter := length_lt_of_expect hlisted
        have hrest : rest ≠ [] := by
          rintro rfl
          cases hmore with
          | here hread => cases hread
          | later hread _ => cases hread
        rw [if_neg heq, bind_eq_ok_iff]
        refine ⟨false, rest, ?_, ih hmore (by omega)⟩
        simp [atEnd, hrest]

/-- What a place asks of the basic constraints. -/
def Place.Admits : Place → (isAuthority : Bool) → (limit : Option Nat) → Prop
  | .endEntity, isAuthority, _ => isAuthority = false
  | .issuer below, isAuthority, limit => isAuthority = true ∧ ∀ n ∈ limit, below ≤ n

theorem checkPlace_eq_ok_iff {place : Place} {isAuthority : Bool} {limit : Option Nat} :
    checkPlace place isAuthority limit = .ok () ↔ place.Admits isAuthority limit := by
  cases place with
  | endEntity => cases isAuthority <;> simp [checkPlace, Place.Admits]
  | issuer below =>
    cases isAuthority with
    | false => simp [checkPlace, Place.Admits]
    | true =>
      cases limit with
      | none => simp [checkPlace, Place.Admits]
      | some limit =>
        simp only [checkPlace, Place.Admits, Option.mem_def, Option.some.injEq, forall_eq',
          true_and]
        split <;> simp <;> omega

theorem Link.fits_iff_of_none {link : Link} {place : Place} (hlink : link.basicConstraints = none) :
    link.Fits place ↔ place.Admits false none := by
  cases place <;> simp [Fits, Place.Admits, hlink]

theorem Link.fits_iff_of_some {link : Link} {place : Place} {bytes : List UInt8}
    (hlink : link.basicConstraints = some bytes) :
    link.Fits place ↔ ∃ isAuthority limit,
      whole .badEncoding authority bytes = .ok (isAuthority, limit) ∧
        place.Admits isAuthority limit := by
  cases place <;> simp [Fits, Place.Admits, hlink]

/-- The check of a certificate's place, by its basic constraints. -/
def Link.checkBasicConstraints (link : Link) (place : Place) : Except Fault Unit :=
  match link.basicConstraints with
  | none => checkPlace place false none
  | some bytes =>
    whole .badEncoding (do
      let (isAuthority, limit) ← authority
      match checkPlace place isAuthority limit with
      | .ok () => pure ()
      | .error fault => fail fault) bytes

/-- The check of the usages that a certificate is restricted to, if it is to any. -/
def Link.checkUsages (link : Link) (usage : List UInt8) : Except Fault Unit :=
  match link.extendedUsage with
  | none => .ok ()
  | some bytes => whole .badEncoding (checkUsage usage (bytes.length + 1)) bytes

theorem Link.check_eq (link : Link) (now : Nat) (usage : List UInt8) (place : Place) :
    link.check now usage place = (do
      whole .badEncoding (checkValidity now) link.validity
      link.checkBasicConstraints place
      link.checkUsages usage) := by
  unfold check checkBasicConstraints checkUsages
  cases link.basicConstraints <;> rfl

theorem Link.checkBasicConstraints_eq_ok_iff {link : Link} {place : Place} :
    link.checkBasicConstraints place = .ok () ↔ link.Fits place := by
  unfold checkBasicConstraints
  cases hconstraints : link.basicConstraints with
  | none => rw [fits_iff_of_none hconstraints, checkPlace_eq_ok_iff]
  | some bytes =>
    simp only [fits_iff_of_some hconstraints, whole_eq_ok_iff, bind_eq_ok_iff, Prod.exists]
    refine exists_congr fun isAuthority => exists_congr fun limit => ?_
    rw [← checkPlace_eq_ok_iff]
    cases checkPlace place isAuthority limit with
    | error fault => simp [fail_ne_ok]
    | ok u => simp [pure_eq_ok_iff]

theorem Link.checkUsages_eq_ok_iff {link : Link} {usage : List UInt8} :
    link.checkUsages usage = .ok () ↔ link.Allows usage := by
  unfold checkUsages Allows
  cases link.extendedUsage with
  | none => simp
  | some bytes =>
    simp only [Option.mem_def, Option.some.injEq, forall_eq', whole_eq_ok_iff]
    exact ⟨lists_of_checkUsage, fun h => checkUsage_of_lists h (Nat.lt_succ_self _)⟩

/-- A certificate passes its checks if and only if it is valid, may be in its place and allows the
usage. -/
theorem Link.check_eq_ok_iff {link : Link} {now : Nat} {usage : List UInt8} {place : Place} :
    link.check now usage place = .ok () ↔
      link.ValidAt now ∧ link.Fits place ∧ link.Allows usage := by
  rw [check_eq, ← checkBasicConstraints_eq_ok_iff, ← checkUsages_eq_ok_iff]
  constructor
  · intro h
    obtain ⟨⟨⟩, hvalid, h⟩ := Except.bind_eq_ok_iff.1 h
    obtain ⟨⟨⟩, hplace, husage⟩ := Except.bind_eq_ok_iff.1 h
    exact ⟨checkValidity_eq_ok_iff.1 hvalid, hplace, husage⟩
  · rintro ⟨hvalid, hplace, husage⟩
    rw [checkValidity_eq_ok_iff.2 hvalid, hplace, husage]
    rfl

/-! ## Paths -/

/-- A certificate carries the name of its issuer and is signed with the issuer's key. -/
def Link.IssuedBy (algorithms : List Algorithm) (link : Link) (name key : List UInt8) : Prop :=
  name = link.issuer ∧ link.signed.VerifiedBy algorithms key

/-- A certificate obeys the constraints of its issuer, if there are any. -/
def Link.ObeysIfAny (link : Link) (constraints : Option (List UInt8)) : Prop :=
  ∀ bytes ∈ constraints, link.Obeys bytes

/-- A path from a certificate over issuers, each of which issued the one before it, to an anchor
that issued the last one. It is valid at a time and allows a usage. -/
structure Path (algorithms : List Algorithm) (now : Nat) (usage : List UInt8) (leaf : Link)
    (issuers : List Link) (anchor : Anchor) : Prop where
  length_le : issuers.length ≤ maxIntermediates
  issued : (leaf :: issuers).IsChain fun link issuer =>
    link.IssuedBy algorithms issuer.subject issuer.key
  anchored : ∀ last ∈ (leaf :: issuers).getLast?, last.IssuedBy algorithms anchor.subject anchor.key
  valid : ∀ link ∈ leaf :: issuers, link.ValidAt now
  leaf_fits : leaf.Fits .endEntity
  /-- The first issuer has none below it, the next one has one, and so on. -/
  issuers_fit : ∀ i (issuer : Link), issuers[i]? = some issuer → issuer.Fits (.issuer i)
  allows : ∀ link ∈ leaf :: issuers, link.Allows usage
  /-- A certificate obeys the constraints of all issuers above it. -/
  obeys : (leaf :: issuers).Pairwise fun link issuer => link.ObeysIfAny issuer.nameConstraints
  obeys_anchor : ∀ link ∈ leaf :: issuers, link.ObeysIfAny anchor.nameConstraints

/-- An issuer is another one than a certificate below it: its key or its name differs. -/
def Link.Apart (issuer link : Link) : Prop :=
  ¬(link.key = issuer.key ∧ link.subject = issuer.subject)

/-! ## The search -/

namespace Query

variable {q : Query}

/-- A search climbs from a certificate to an issuer: each one that it leaves passed its checks, and
names the next one, which is an intermediate, as its issuer. The certificates that it left are
listed with the last one first. -/
inductive Climb (q : Query) (leaf : Link) : Link → List Link → Prop where
  | start : q.Climb leaf leaf []
  | step {head issuer below} : q.Climb leaf head below →
      head.check q.now q.usage (placeAbove below) = .ok () → .ok issuer ∈ q.intermediates →
      issuer.subject = head.issuer → q.Climb leaf issuer (head :: below)

/-- An issuer can follow the certificates that it comes above if the last one names it, and none of
them has both its key and its name. -/
theorem canFollow_eq_true_iff {issuer head : Link} {below : List Link} :
    canFollow issuer head below = true ↔
      issuer.subject = head.issuer ∧ ∀ link ∈ head :: below, issuer.Apart link := by
  simp only [canFollow, Link.Apart, Bool.and_eq_true, beq_iff_eq, Bool.not_eq_true',
    List.any_eq_false]

/-- A search that completes a path has an anchor for it, or an intermediate that it extends it
by. -/
theorem of_complete {extend : Link → Search Anchor} {head : Link} {below : List Link}
    {anchor : Anchor} (h : Yields (q.complete extend head below) anchor) :
    head.check q.now q.usage (placeAbove below) = .ok () ∧
      ((anchor ∈ q.anchors ∧ Yields (q.checkAnchored head below anchor) ()) ∨
        ∃ issuer, .ok issuer ∈ q.intermediates ∧ canFollow issuer head below = true ∧
          Yields (extend issuer) anchor) := by
  unfold complete at h
  cases hcheck : head.check q.now q.usage (placeAbove below) with
  | error fault =>
    rw [hcheck] at h
    exact absurd h not_yields_throw
  | ok u =>
    rw [hcheck] at h
    refine ⟨rfl, ?_⟩
    obtain ⟨found, hfound, budget, h⟩ | ⟨fault, h⟩ := h.of_run_bind
    · cases h
      obtain ⟨a, ha, hanchored⟩ := hfound.of_firstOf
      obtain ⟨u', hchecked, hresult⟩ := hanchored.of_bind
      obtain rfl := hresult.of_pure
      exact .inl ⟨ha, hchecked⟩
    · simp only at h
      split at h
      · exact absurd h not_yields_throw
      obtain ⟨candidate, hcandidate, htried⟩ := Yields.of_firstOf h
      obtain ⟨issuer, hread, hextended⟩ := htried.of_bind
      obtain rfl := hread.of_ofExcept
      split at hextended
      · rename_i hfollow
        obtain ⟨u', hspent, hfound⟩ := hextended.of_bind
        exact .inr ⟨issuer, hcandidate, hfollow, hfound⟩
      · exact absurd hextended not_yields_throw

/-- **A search climbs.** A search that succeeds has climbed to an issuer that passes its checks and
is anchored, and it never came to the same issuer again. -/
theorem of_searchFrom {room : Nat} {leaf head : Link} {below : List Link} {anchor : Anchor}
    (h : Yields (q.searchFrom room head below) anchor) (hclimb : q.Climb leaf head below)
    (hapart : (head :: below).Pairwise Link.Apart) :
    ∃ top under, q.Climb leaf top under ∧ (top :: under).Pairwise Link.Apart ∧
      under.length ≤ room + below.length ∧
      top.check q.now q.usage (placeAbove under) = .ok () ∧
      anchor ∈ q.anchors ∧ Yields (q.checkAnchored top under anchor) () := by
  induction room generalizing head below with
  | zero =>
    obtain ⟨hcheck, ⟨hanchor, hanchored⟩ | ⟨issuer, -, -, h⟩⟩ := of_complete h
    · exact ⟨head, below, hclimb, hapart, by omega, hcheck, hanchor, hanchored⟩
    · exact absurd h not_yields_throw
  | succ room ih =>
    obtain ⟨hcheck, ⟨hanchor, hanchored⟩ | ⟨issuer, hissuer, hfollow, h⟩⟩ := of_complete h
    · exact ⟨head, below, hclimb, hapart, by omega, hcheck, hanchor, hanchored⟩
    · obtain ⟨hname, hnew⟩ := canFollow_eq_true_iff.1 hfollow
      obtain ⟨top, under, hclimb', hapart', hlength, htop⟩ :=
        ih h (hclimb.step hcheck hissuer hname) (List.pairwise_cons.2 ⟨hnew, hapart⟩)
      rw [List.length_cons] at hlength
      exact ⟨top, under, hclimb', hapart', by omega, htop⟩

/-! ## What is found -/

/-- All certificates of a path, from its last issuer down, pass their checks. -/
def Checked (q : Query) : List Link → Prop
  | [] => True
  | link :: below => link.check q.now q.usage (placeAbove below) = .ok () ∧ q.Checked below

theorem Checked.of_append {above below : List Link} {link : Link}
    (h : q.Checked (above ++ link :: below)) :
    link.check q.now q.usage (placeAbove below) = .ok () := by
  induction above with
  | nil => exact h.1
  | cons first above ih => exact ih h.2

theorem Climb.checked {leaf head : Link} {below : List Link} (h : q.Climb leaf head below) :
    q.Checked below := by
  induction h with
  | start => trivial
  | step _ hcheck _ _ ih => exact ⟨hcheck, ih⟩

theorem Climb.named {leaf head : Link} {below : List Link} (h : q.Climb leaf head below) :
    (head :: below).IsChain fun issuer link => issuer.subject = link.issuer := by
  induction h with
  | start => exact List.isChain_singleton _
  | step _ _ _ hname ih => exact List.isChain_cons_cons.2 ⟨hname, ih⟩

/-- A climb starts at the certificate, and all that it passes are intermediates. -/
theorem Climb.eq_reverse {leaf head : Link} {below : List Link} (h : q.Climb leaf head below) :
    ∃ issuers, head :: below = (leaf :: issuers).reverse ∧ issuers.length = below.length ∧
      ∀ issuer ∈ issuers, .ok issuer ∈ q.intermediates := by
  induction h with
  | start => exact ⟨[], rfl, rfl, fun issuer hissuer => absurd hissuer List.not_mem_nil⟩
  | @step head issuer below _ _ hissuer _ ih =>
    obtain ⟨issuers, hpath, hlength, hmem⟩ := ih
    refine ⟨issuers ++ [issuer], ?_, by simp [hlength], ?_⟩
    · rw [hpath, ← List.cons_append, List.reverse_append]
      rfl
    · intro other hother
      rcases List.mem_append.1 hother with hother | hother
      · exact hmem other hother
      · rw [List.mem_singleton.1 hother]
        exact hissuer

/-- The signatures of a path. -/
theorem of_checkSignatures {key : List UInt8} {path : List Link} {u : Unit}
    (h : Yields (q.checkSignatures key path) u) :
    (∀ last ∈ path.head?, last.signed.VerifiedBy q.algorithms key) ∧
      path.IsChain fun issuer link => link.signed.VerifiedBy q.algorithms issuer.key := by
  induction path generalizing key with
  | nil => exact ⟨by simp, List.isChain_nil⟩
  | cons link below ih =>
    obtain ⟨u₁, -, h⟩ := h.of_bind
    obtain ⟨u₂, hsigned, h⟩ := h.of_bind
    obtain ⟨hhead, hchain⟩ := ih h
    refine ⟨?_, List.isChain_cons.2 ⟨hhead, hchain⟩⟩
    intro last hlast
    obtain rfl := Option.some.inj hlast
    exact SignedData.verifiedBy_of_check hsigned.of_ofExcept

/-- The name constraints of a path. -/
theorem of_checkConstraints {constraints : Option (List UInt8)} {path : List Link} {u : Unit}
    (h : Yields (checkConstraints constraints path) u) :
    (∀ link ∈ path, link.ObeysIfAny constraints) ∧
      path.Pairwise fun issuer link => link.ObeysIfAny issuer.nameConstraints := by
  induction path generalizing constraints with
  | nil => exact ⟨fun link hlink => absurd hlink List.not_mem_nil, List.Pairwise.nil⟩
  | cons link below ih =>
    cases constraints with
    | none =>
      obtain ⟨hbelow, hpairs⟩ := ih h
      exact ⟨fun other _ bytes hbytes => (nomatch hbytes), List.pairwise_cons.2 ⟨hbelow, hpairs⟩⟩
    | some bytes =>
      obtain ⟨u', hnames, h⟩ := h.of_bind
      obtain ⟨hbelow, hpairs⟩ := ih h
      refine ⟨?_, List.pairwise_cons.2 ⟨hbelow, hpairs⟩⟩
      intro other hother bytes' hbytes'
      obtain rfl := Option.some.inj hbytes'
      exact hnames.obeys_of_checkNames other hother

theorem placeAbove_of_length {below : List Link} {i : Nat} (h : below.length = i + 1) :
    placeAbove below = .issuer i := by
  cases below with
  | nil => cases h
  | cons link issuers => exact congrArg Place.issuer (Nat.succ.inj h)

/-- What is checked of a whole path: its last issuer names the anchor, and the signatures and the
name constraints hold. -/
theorem of_checkAnchored {head : Link} {below : List Link} {anchor : Anchor}
    (h : Yields (q.checkAnchored head below anchor) ()) :
    anchor.subject = head.issuer ∧ Yields (q.checkSignatures anchor.key (head :: below)) () ∧
      Yields (checkConstraints anchor.nameConstraints (head :: below)) () := by
  unfold checkAnchored at h
  split at h
  · obtain ⟨u, hthrow, -⟩ := h.of_bind
    exact absurd hthrow not_yields_throw
  · rename_i hname
    obtain ⟨u, hsignatures, hconstraints⟩ := h.of_bind
    exact ⟨Decidable.not_not.1 hname, hsignatures, hconstraints⟩

/-- The checks of the certificates of a path, each in its place. -/
theorem Checked.of_reverse {leaf : Link} {issuers : List Link}
    (h : q.Checked (leaf :: issuers).reverse) :
    leaf.check q.now q.usage .endEntity = .ok () ∧
      ∀ i (issuer : Link), issuers[i]? = some issuer →
        issuer.check q.now q.usage (.issuer i) = .ok () := by
  constructor
  · rw [List.reverse_cons] at h
    exact Checked.of_append h
  · intro i issuer hissuer
    obtain ⟨hi, rfl⟩ := List.getElem?_eq_some_iff.1 hissuer
    have hsplit : (leaf :: issuers).reverse =
        (issuers.drop (i + 1)).reverse ++ issuers[i] :: (leaf :: issuers.take i).reverse := by
      have hissuers : issuers = issuers.take i ++ issuers[i] :: issuers.drop (i + 1) := by
        rw [List.getElem_cons_drop, List.take_append_drop]
      refine (congrArg (fun l => (leaf :: l).reverse) hissuers).trans ?_
      simp only [List.reverse_cons, List.reverse_append, List.append_assoc, List.nil_append,
        List.cons_append]
    rw [hsplit] at h
    have hplace : placeAbove (leaf :: issuers.take i).reverse = .issuer i :=
      placeAbove_of_length (by simp; omega)
    exact hplace ▸ h.of_append

/-- **A search finds paths.** Whatever a search finds is an anchor that a path over intermediates
leads to, of which none comes again above itself. -/
theorem path_of_search {leaf : Link} {anchor : Anchor} (h : q.search leaf = .ok anchor) :
    anchor ∈ q.anchors ∧ ∃ issuers, (∀ issuer ∈ issuers, .ok issuer ∈ q.intermediates) ∧
      (leaf :: issuers).Pairwise (fun link issuer => issuer.Apart link) ∧
      Path q.algorithms q.now q.usage leaf issuers anchor := by
  obtain ⟨top, under, hclimb, hapart, hlength, hcheck, hanchor, hanchored⟩ :=
    of_searchFrom ⟨{}, h⟩ (Climb.start : q.Climb leaf leaf []) (List.pairwise_singleton ..)
  obtain ⟨issuers, hpath, hissuers, hmem⟩ := hclimb.eq_reverse
  obtain ⟨hname, hsignatures, hconstraints⟩ := of_checkAnchored hanchored
  obtain ⟨hsigned, hchain⟩ := of_checkSignatures hsignatures
  obtain ⟨hobeysAnchor, hobeys⟩ := of_checkConstraints hconstraints
  have hchecked : q.Checked (top :: under) := ⟨hcheck, hclimb.checked⟩
  have hnamed := hclimb.named
  rw [hpath] at hapart hchecked hnamed hsigned hchain hobeysAnchor hobeys
  obtain ⟨hleaf, hissuer⟩ := hchecked.of_reverse
  have hall : ∀ link ∈ leaf :: issuers, link.ValidAt q.now ∧ link.Allows q.usage := by
    intro link hlink
    rcases List.mem_cons.1 hlink with rfl | hlink
    · obtain ⟨hvalid, -, hallows⟩ := Link.check_eq_ok_iff.1 hleaf
      exact ⟨hvalid, hallows⟩
    · obtain ⟨i, hi⟩ := List.mem_iff_getElem?.1 hlink
      obtain ⟨hvalid, -, hallows⟩ := Link.check_eq_ok_iff.1 (hissuer i link hi)
      exact ⟨hvalid, hallows⟩
  have hlast : ∀ last ∈ (leaf :: issuers).getLast?, last = top := by
    intro last hlast
    rw [List.getLast?_eq_head?_reverse, ← hpath] at hlast
    exact (Option.some.inj hlast).symm
  refine ⟨hanchor, issuers, hmem, List.pairwise_reverse.1 hapart,
    { length_le := by simpa [hissuers] using hlength
      issued := ?_
      anchored := ?_
      valid := fun link hlink => (hall link hlink).1
      leaf_fits := (Link.check_eq_ok_iff.1 hleaf).2.1
      issuers_fit := fun i issuer hi => (Link.check_eq_ok_iff.1 (hissuer i issuer hi)).2.1
      allows := fun link hlink => (hall link hlink).2
      obeys := List.pairwise_reverse.1 hobeys
      obeys_anchor := fun link hlink => hobeysAnchor link (List.mem_reverse.2 hlink) }⟩
  · have hnamed := List.isChain_reverse.1 hnamed
    have hchain := List.isChain_reverse.1 hchain
    exact List.isChain_iff_getElem.2 fun i hi => ⟨hnamed.getElem i hi, hchain.getElem i hi⟩
  · intro last hmem
    obtain rfl := hlast last hmem
    exact ⟨hname, hsigned last (by rw [← hpath]; rfl)⟩

end Query

end WorkloadAuth.Chain
