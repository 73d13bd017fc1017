import Mathlib.Data.List.Nodup
import WorkloadAuth.Chain.Suite
import WorkloadAuth.Proofs.GivingUp

/-!
# Paths that are not missed

A search that does not use up its budget finds a path if there is one: it never gives up before it
has tried the certificates of that path.

* `Unambiguous`: a signature and a key select at most one algorithm.
* `Query.not_givesUp_checkAnchored`: the checks of a whole path.
* `Query.tried_of_givesUp`: what a search has tried when it gives up.
* `Query.not_givesUp_searchFrom`: a search that is on a path does not give up.
* `Query.HasPath`, `Query.Exhausted`: what decides a search.
* `Query.exists_search_eq_ok_iff`: when a search succeeds.
-/

namespace WorkloadAuth.Chain

open Reader

/-! ## Signatures -/

/-- No two algorithms have the same names, so that a signature and a key select at most one. -/
def Unambiguous (algorithms : List Algorithm) : Prop :=
  (algorithms.map fun a => (a.signatureId, a.keyId)).Nodup

instance (algorithms : List Algorithm) : Decidable (Unambiguous algorithms) :=
  inferInstanceAs (Decidable (List.Nodup _))

theorem unambiguous_suite : Unambiguous Algorithm.suite := by decide +kernel

theorem SignedData.checkBy_eq_ok {signed : SignedData} {key octets : List UInt8} {a : Algorithm}
    {algorithms : List Algorithm} (hmem : a ∈ algorithms)
    (hread : whole (.trailingData .publicKey) publicKey key = .ok (a.keyId, octets))
    (haccepts : a.accepts octets signed.message signed.signature)
    (honly : ∀ b ∈ algorithms, b.keyId = a.keyId → b = a) :
    signed.checkBy key algorithms = .ok () := by
  induction algorithms with
  | nil => exact absurd hmem List.not_mem_nil
  | cons b others ih =>
    simp only [checkBy, hread]
    by_cases hid : b.keyId = a.keyId
    · obtain rfl := honly b List.mem_cons_self hid
      rw [if_neg (not_not_intro rfl), if_pos haccepts]
    · have hothers : a ∈ others := (List.mem_cons.1 hmem).resolve_left fun h => hid (h ▸ rfl)
      rw [if_pos hid]
      exact ih hothers fun b hb => honly b (List.mem_cons_of_mem _ hb)

/-- A signature that an unambiguous algorithm accepts passes its check. -/
theorem SignedData.VerifiedBy.check_eq_ok {algorithms : List Algorithm} {signed : SignedData}
    {key : List UInt8} (h : signed.VerifiedBy algorithms key)
    (halgorithms : Unambiguous algorithms) : signed.check algorithms key = .ok () := by
  obtain ⟨a, ha, hid, octets, hread, haccepts⟩ := h
  have hfitting : a ∈ algorithms.filter fun b => b.signatureId == signed.algorithm :=
    List.mem_filter.2 ⟨ha, by simp [hid]⟩
  have hcheck : signed.checkBy key
      (algorithms.filter fun b => b.signatureId == signed.algorithm) = .ok () := by
    refine checkBy_eq_ok hfitting hread haccepts fun b hb hkey => ?_
    obtain ⟨hb, hsignature⟩ := List.mem_filter.1 hb
    exact List.inj_on_of_nodup_map halgorithms hb ha
      (Prod.ext ((beq_iff_eq.1 hsignature).trans hid.symm) hkey)
  unfold check
  split
  · rename_i hnone
    rw [hnone] at hfitting
    exact absurd hfitting List.not_mem_nil
  · exact hcheck

namespace Query

variable {q : Query}

theorem not_givesUp_checkSignatures (halgorithms : Unambiguous q.algorithms) {key : List UInt8}
    {path : List Link} (hfirst : ∀ top ∈ path.head?, top.signed.VerifiedBy q.algorithms key)
    (hchain : path.IsChain fun issuer link => link.signed.VerifiedBy q.algorithms issuer.key) :
    ¬ GivesUp (q.checkSignatures key path) := by
  induction path generalizing key with
  | nil => exact not_givesUp_pure
  | cons link below ih =>
    intro h
    obtain hspent | ⟨-, -, h⟩ := h.of_bind
    · exact not_givesUp_spendSignature hspent
    obtain ⟨hbelow, hchain⟩ := List.isChain_cons.1 hchain
    exact ih hbelow hchain (h.of_ofExcept_bind ((hfirst link rfl).check_eq_ok halgorithms))

theorem not_givesUp_checkConstraints {constraints : Option (List UInt8)} {path : List Link}
    (hobeys : ∀ link ∈ path, link.ObeysIfAny constraints)
    (hpairs : path.Pairwise fun issuer link => link.ObeysIfAny issuer.nameConstraints) :
    ¬ GivesUp (checkConstraints constraints path) := by
  induction path generalizing constraints with
  | nil => exact not_givesUp_pure
  | cons link below ih =>
    obtain ⟨hbelow, hpairs⟩ := List.pairwise_cons.1 hpairs
    intro h
    cases constraints with
    | none => exact ih hbelow hpairs h
    | some bytes =>
      obtain hnames | ⟨u, -, hrest⟩ := h.of_bind
      · exact not_givesUp_checkNames (fun other hother => hobeys other hother bytes rfl) hnames
      · exact ih hbelow hpairs hrest

/-- The checks of a whole path do not give up on a path that leads to the anchor. -/
theorem not_givesUp_checkAnchored (halgorithms : Unambiguous q.algorithms) {leaf head : Link}
    {issuers below : List Link} {anchor : Anchor}
    (hpath : Path q.algorithms q.now q.usage leaf issuers anchor)
    (hreverse : (leaf :: issuers).reverse = head :: below) :
    ¬ GivesUp (q.checkAnchored head below anchor) := by
  have hlast : (leaf :: issuers).getLast? = some head := by
    rw [List.getLast?_eq_head?_reverse, hreverse]
    rfl
  obtain ⟨hname, hsigned⟩ := hpath.anchored head hlast
  have hchain := hpath.issued.imp fun _ _ hissued => hissued.2
  have hsignatures : ¬ GivesUp (q.checkSignatures anchor.key (head :: below)) := by
    refine not_givesUp_checkSignatures halgorithms ?_ ?_
    · intro top htop
      obtain rfl := Option.some.inj htop
      exact hsigned
    · rw [← hreverse]
      exact List.isChain_reverse.2 hchain
  have hconstraints : ¬ GivesUp (checkConstraints anchor.nameConstraints (head :: below)) := by
    rw [← hreverse]
    exact not_givesUp_checkConstraints
      (fun link hlink => hpath.obeys_anchor link (List.mem_reverse.1 hlink))
      (List.pairwise_reverse.2 hpath.obeys)
  intro h
  rw [checkAnchored, if_neg (not_not_intro hname)] at h
  obtain hgives | ⟨-, -, hgives⟩ := h.of_bind
  · exact hsignatures hgives
  · exact hconstraints hgives

/-! ## The search -/

/-- A search that completes a path gives up only after all anchors and all intermediates have. -/
theorem tried_of_givesUp {extend : Link → Search Anchor} {head : Link} {below : List Link}
    (h : GivesUp (q.complete extend head below))
    (hcheck : head.check q.now q.usage (placeAbove below) = .ok ()) :
    (∀ anchor ∈ q.anchors, GivesUp (q.checkAnchored head below anchor)) ∧
      ∀ issuer, .ok issuer ∈ q.intermediates → canFollow issuer head below = true →
        GivesUp (extend issuer) := by
  unfold complete at h
  rw [hcheck] at h
  obtain ⟨found, -, h⟩ | ⟨fault, ⟨budget, hanchors⟩, h⟩ := h.of_run_bind
  · exact absurd h not_givesUp_pure
  simp only at h
  split at h
  · rename_i hfatal
    exact absurd h (not_givesUp_throw hfatal)
  rename_i hfatal
  have hgives := GivesUp.of_firstOf ⟨budget, fault, hanchors, Bool.eq_false_iff.2 hfatal⟩
  constructor
  · intro anchor hanchor
    obtain hchecks | ⟨-, -, hend⟩ := (hgives anchor hanchor).of_bind
    · exact hchecks
    · exact absurd hend not_givesUp_pure
  · intro issuer hissuer hfollow
    have hextend := (GivesUp.of_firstOf h (.ok issuer) hissuer).of_ofExcept_bind rfl
    rw [if_pos hfollow] at hextend
    obtain hspent | ⟨-, -, hextend⟩ := hextend.of_bind
    · exact absurd hspent not_givesUp_spendPathCall
    · exact hextend

/-- A certificate of a path has as many others below it as its index says. -/
theorem getElem?_of_split {path below above : List Link} {head : Link}
    (hsplit : path = below.reverse ++ head :: above) : path[below.length]? = some head := by
  rw [hsplit, List.getElem?_append_right (by simp)]
  simp

/-- The certificates of a path pass their checks, each in its place. -/
theorem check_of_path {leaf head : Link} {issuers below above : List Link} {anchor : Anchor}
    (hpath : Path q.algorithms q.now q.usage leaf issuers anchor)
    (hsplit : leaf :: issuers = below.reverse ++ head :: above) :
    head.check q.now q.usage (placeAbove below) = .ok () := by
  have hmem : head ∈ leaf :: issuers := by
    rw [hsplit]
    exact List.mem_append_right _ List.mem_cons_self
  refine Link.check_eq_ok_iff.2 ⟨hpath.valid head hmem, ?_, hpath.allows head hmem⟩
  cases below with
  | nil =>
    obtain ⟨rfl, -⟩ := List.cons.inj hsplit
    exact hpath.leaf_fits
  | cons link rest =>
    have hindex := getElem?_of_split hsplit
    exact hpath.issuers_fit rest.length head hindex

/-- **A search does not leave a path.** A search that has climbed up to some certificate of a path
does not give up if it has room for the others. -/
theorem not_givesUp_searchFrom (halgorithms : Unambiguous q.algorithms) {leaf : Link}
    {issuers : List Link} {anchor : Anchor}
    (hpath : Path q.algorithms q.now q.usage leaf issuers anchor) (hanchor : anchor ∈ q.anchors)
    (hissuers : ∀ issuer ∈ issuers, .ok issuer ∈ q.intermediates)
    (hapart : (leaf :: issuers).Pairwise fun link issuer => issuer.Apart link)
    {head : Link} {below above : List Link} {room : Nat}
    (hsplit : leaf :: issuers = below.reverse ++ head :: above) (hroom : above.length ≤ room) :
    ¬ GivesUp (q.searchFrom room head below) := by
  have hcheck := check_of_path hpath hsplit
  induction above generalizing head below room with
  | nil =>
    intro h
    have hreverse : (leaf :: issuers).reverse = head :: below := by rw [hsplit]; simp
    have hgives : GivesUp (q.checkAnchored head below anchor) := by
      cases room with
      | zero => exact (tried_of_givesUp h hcheck).1 anchor hanchor
      | succ room => exact (tried_of_givesUp h hcheck).1 anchor hanchor
    exact not_givesUp_checkAnchored halgorithms hpath hreverse hgives
  | cons issuer above ih =>
    obtain ⟨room, rfl⟩ : ∃ n, room = n + 1 := Nat.exists_eq_add_one.2 (by simp at hroom; omega)
    have hnext : leaf :: issuers = (head :: below).reverse ++ issuer :: above := by
      rw [hsplit]
      simp
    have hindex := getElem?_of_split hnext
    have hmem : issuer ∈ issuers := List.mem_of_getElem? hindex
    have hname : issuer.subject = head.issuer := by
      have hchain := hpath.issued
      rw [hsplit] at hchain
      exact (List.isChain_append_cons_cons.1 hchain).2.1.1
    have hnew : ∀ link ∈ head :: below, issuer.Apart link := by
      rw [hnext, List.pairwise_append] at hapart
      exact fun link hlink => hapart.2.2 link (List.mem_reverse.2 hlink) issuer List.mem_cons_self
    intro h
    have hextend := (tried_of_givesUp h hcheck).2 issuer (hissuers issuer hmem)
      (canFollow_eq_true_iff.2 ⟨hname, hnew⟩)
    exact ih hnext (by simpa using hroom) (check_of_path hpath hnext) hextend

/-! ## What decides a search -/

/-- A path leads to an anchor over intermediates, of which none comes again above itself. -/
def HasPath (q : Query) (leaf : Link) : Prop :=
  ∃ anchor ∈ q.anchors, ∃ issuers, (∀ issuer ∈ issuers, .ok issuer ∈ q.intermediates) ∧
    (leaf :: issuers).Pairwise (fun link issuer => issuer.Apart link) ∧
    Path q.algorithms q.now q.usage leaf issuers anchor

/-- The work budget is used up before a search comes to an end. -/
def Exhausted (q : Query) (leaf : Link) : Prop :=
  ∃ fault, q.search leaf = .error fault ∧ fault.isFatal = true

theorem exists_search_eq_ok (halgorithms : Unambiguous q.algorithms) {leaf : Link}
    (hpath : q.HasPath leaf) (hbudget : ¬ q.Exhausted leaf) :
    ∃ anchor, q.search leaf = .ok anchor := by
  obtain ⟨anchor, hanchor, issuers, hissuers, hapart, hpath⟩ := hpath
  cases hsearch : q.search leaf with
  | ok found => exact ⟨found, rfl⟩
  | error fault =>
    have hfatal : fault.isFatal = false :=
      Bool.eq_false_iff.2 fun hfatal => hbudget ⟨fault, hsearch, hfatal⟩
    exact absurd ⟨{}, fault, hsearch, hfatal⟩
      (not_givesUp_searchFrom halgorithms hpath hanchor hissuers hapart rfl hpath.length_le)

/-- **Searches and paths.** A search succeeds if and only if there is a path and the work budget is
not used up before it is found. -/
theorem exists_search_eq_ok_iff (halgorithms : Unambiguous q.algorithms) {leaf : Link} :
    (∃ anchor, q.search leaf = .ok anchor) ↔ q.HasPath leaf ∧ ¬ q.Exhausted leaf := by
  constructor
  · rintro ⟨anchor, hsearch⟩
    obtain ⟨hanchor, issuers, hissuers, hapart, hpath⟩ := path_of_search hsearch
    refine ⟨⟨anchor, hanchor, issuers, hissuers, hapart, hpath⟩, ?_⟩
    rintro ⟨fault, hfault, -⟩
    cases hsearch.symm.trans hfault
  · exact fun h => exists_search_eq_ok halgorithms h.1 h.2

end Query

end WorkloadAuth.Chain
