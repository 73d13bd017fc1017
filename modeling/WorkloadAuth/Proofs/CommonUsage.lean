import WorkloadAuth.Proofs.PathCompleteness
import WorkloadAuth.Proofs.TrustedRoot

/-!
# Chains with a common usage

A chain needs a usage that all its certificates allow. Where nothing is asked for, some usages are
tried one after the other, each with a work budget of its own.

* `Certificate.RootPath`: a path from a certificate to one of the roots, for some usage.
* `Certificate.query`, `Certificate.Exhausts`: the search for such a path, and its work budget.
* `Certificate.nonempty_rootPath_iff`: the paths that a search may find.
* `Certificate.verify_eq_ok_iff`: when a certificate that is no root is trusted.
* `Certificate.verify_any`: what is trusted where nothing is asked for.
* `Certificate.Sample.path_behind_forgeries_missed`: a path that is not found within the work
  budget.
-/

namespace WorkloadAuth.Certificate

open Calendar Chain

/-- A path from a certificate over presented ones to one of the roots, which passes every check and
of which each certificate allows a usage. -/
structure RootPath (algorithms : List Algorithm) (c : Certificate)
    (presented roots : List Certificate) (now : Moment) (usage : List UInt8) where
  leaf : Link
  /-- The issuers, of which the first one issued the certificate. -/
  issuers : List Link
  root : Certificate
  anchor : Anchor
  since1970 : 0 ≤ now.unixSeconds
  inspected : ∃ i, c.inspect = .ok i
  leaf_read : Link.ofDer .refused c.der = .ok leaf
  issuers_presented : ∀ issuer ∈ issuers, ∃ p ∈ presented, Link.ofDer .refused p.der = .ok issuer
  root_mem : root ∈ roots
  anchor_read : Anchor.ofDer .refused root.der = .ok anchor
  path : Path algorithms now.unixSeconds.toNat usage leaf issuers anchor
  /-- No certificate comes again above itself. -/
  apart : (leaf :: issuers).Pairwise fun link issuer => issuer.Apart link

/-- More presented certificates and more roots leave a path as it is. -/
def RootPath.mono {algorithms : List Algorithm} {c : Certificate}
    {presented presented' roots roots' : List Certificate} {now : Moment} {usage : List UInt8}
    (p : RootPath algorithms c presented roots now usage) (hpresented : presented ⊆ presented')
    (hroots : roots ⊆ roots') : RootPath algorithms c presented' roots' now usage :=
  { p with
    issuers_presented := fun issuer hissuer =>
      (p.issuers_presented issuer hissuer).imp fun _ h => ⟨hpresented h.1, h.2⟩
    root_mem := hroots p.root_mem }

/-! ## The search -/

/-- The anchors of the roots that can be one. -/
def anchorsOf (roots : List Certificate) : List Anchor :=
  roots.filterMap fun root => (Anchor.ofDer .refused root.der).toOption

/-- What a chain from a certificate is searched for. -/
def query (algorithms : List Algorithm) (c : Certificate) (presented roots : List Certificate)
    (now : Moment) (usage : List UInt8) : Query :=
  ⟨algorithms, anchorsOf roots, (presented.filter (· ≠ c)).map fun i => Link.ofDer .refused i.der,
    now.unixSeconds.toNat, usage⟩

/-- The search of a chain for a usage uses up its work budget. -/
def Exhausts (algorithms : List Algorithm) (c : Certificate) (presented roots : List Certificate)
    (now : Moment) (usage : List UInt8) : Prop :=
  ∃ leaf, Link.ofDer .refused c.der = .ok leaf ∧
    (query algorithms c presented roots now usage).Exhausted leaf

section

variable {algorithms : List Algorithm} {c : Certificate} {presented roots : List Certificate}
  {now : Moment} {usage : List UInt8}

theorem mem_anchorsOf_iff {anchor : Anchor} :
    anchor ∈ anchorsOf roots ↔ ∃ root ∈ roots, Anchor.ofDer .refused root.der = .ok anchor := by
  simp only [anchorsOf, List.mem_filterMap]
  refine exists_congr fun root => and_congr_right fun _ => ?_
  cases Anchor.ofDer .refused root.der <;> simp [Except.toOption]

/-- The anchors of roots that all can be one. -/
theorem mapM_eq_anchorsOf {ε : Type} {f : Chain.Fault → ε}
    (husable : ∀ root ∈ roots, ∃ anchor, Anchor.ofDer .refused root.der = .ok anchor) :
    roots.mapM (fun root => (Anchor.ofDer .refused root.der).mapError f) =
      .ok (anchorsOf roots) := by
  induction roots with
  | nil => rfl
  | cons root rest ih =>
    obtain ⟨anchor, hanchor⟩ := husable root List.mem_cons_self
    have hrest := ih fun other hother => husable other (List.mem_cons_of_mem root hother)
    have hcons : anchorsOf (root :: rest) = anchor :: anchorsOf rest := by
      simp [anchorsOf, hanchor, Except.toOption]
    rw [List.mapM_cons, hrest, hanchor, hcons]
    rfl

/-- The paths that the search of a chain may find are those over presented certificates to one of
the roots. -/
theorem nonempty_rootPath_iff {leaf : Link} (hleaf : Link.ofDer .refused c.der = .ok leaf) :
    Nonempty (RootPath algorithms c presented roots now usage) ↔
      0 ≤ now.unixSeconds ∧ (∃ i, c.inspect = .ok i) ∧
        (query algorithms c presented roots now usage).HasPath leaf := by
  constructor
  · rintro ⟨p⟩
    obtain rfl := Except.ok.inj (p.leaf_read.symm.trans hleaf)
    refine ⟨p.since1970, p.inspected, p.anchor,
      mem_anchorsOf_iff.2 ⟨p.root, p.root_mem, p.anchor_read⟩, p.issuers, ?_, p.apart, p.path⟩
    intro issuer hissuer
    obtain ⟨other, hother, hread⟩ := p.issuers_presented issuer hissuer
    refine List.mem_map.2 ⟨other, List.mem_filter.2 ⟨hother, ?_⟩, hread⟩
    -- The certificate itself is not apart from its own link.
    have hne : other ≠ c := by
      rintro rfl
      obtain rfl := Except.ok.inj (p.leaf_read.symm.trans hread)
      exact (List.pairwise_cons.1 p.apart).1 _ hissuer ⟨rfl, rfl⟩
    simpa using hne
  · rintro ⟨hnow, hinspected, anchor, hanchor, issuers, hissuers, hapart, hpath⟩
    obtain ⟨root, hroot, hread⟩ := mem_anchorsOf_iff.1 hanchor
    refine ⟨⟨leaf, issuers, root, anchor, hnow, hinspected, hleaf, ?_, hroot, hread, hpath, hapart⟩⟩
    intro issuer hissuer
    obtain ⟨other, hother, hread⟩ := List.mem_map.1 (hissuers issuer hissuer)
    exact ⟨other, List.mem_of_mem_filter hother, hread⟩

/-- A chain is found for some usages if and only if one is found for one of them. -/
theorem tryUsages_eq_ok_iff {search : Usage → Except Chain.Fault Anchor} {fault : Chain.Fault}
    {usages : List Usage} :
    tryUsages search fault usages = .ok () ↔
      ∃ usage ∈ usages, ∃ anchor, search usage = .ok anchor := by
  refine ⟨exists_of_tryUsages, ?_⟩
  rintro ⟨usage, husage, anchor, hsearch⟩
  induction usages generalizing fault with
  | nil => exact absurd husage List.not_mem_nil
  | cons first rest ih =>
    simp only [tryUsages]
    cases hfirst : search first with
    | ok found => rfl
    | error fault' =>
      rcases List.mem_cons.1 husage with rfl | husage
      · cases hsearch.symm.trans hfirst
      · exact ih husage

/-- A certificate that is no root is verified by searches, if it can be read. -/
theorem verify_eq_ok_iff_search {required : RequiredUsage} (hroot : c ∉ roots)
    (husable : ∀ root ∈ roots, ∃ anchor, Anchor.ofDer .refused root.der = .ok anchor) :
    c.verify algorithms presented ⟨required, roots⟩ now = .ok () ↔
      0 ≤ now.unixSeconds ∧ (∃ i, c.inspect = .ok i) ∧
        ∃ leaf, Link.ofDer .refused c.der = .ok leaf ∧ ∃ usage ∈ required.tried, ∃ anchor,
          (query algorithms c presented roots now usage.id).search leaf = .ok anchor := by
  have hcontains : ¬ roots.contains c = true := by simpa using hroot
  have hchain (subject : Certificate.Name) :
      verifyChain algorithms c subject presented ⟨required, roots⟩ now = .ok () ↔
        0 ≤ now.unixSeconds ∧ ∃ leaf, Link.ofDer .refused c.der = .ok leaf ∧
          ∃ usage ∈ required.tried, ∃ anchor,
            (query algorithms c presented roots now usage.id).search leaf = .ok anchor := by
    unfold verifyChain
    by_cases hnow : now.unixSeconds < 0
    · rw [if_pos hnow]
      exact ⟨nofun, fun h => absurd h.1 (by omega)⟩
    · rw [if_neg hnow, mapM_eq_anchorsOf husable]
      simp only [Except.bind_eq_ok_iff, Except.mapError_eq_ok_iff, Except.ok.injEq,
        exists_eq_left', tryUsages_eq_ok_iff, query]
      exact ⟨fun h => ⟨by omega, h⟩, fun h => h.2⟩
  simp only [verify, Except.bind_eq_ok_iff, Except.mapError_eq_ok_iff, if_neg hcontains, hchain]
  constructor
  · rintro ⟨i, hinspected, hnow, h⟩
    exact ⟨hnow, ⟨i, hinspected⟩, h⟩
  · rintro ⟨hnow, ⟨i, hinspected⟩, h⟩
    exact ⟨i, hinspected, hnow, h⟩

/-- **Trust by chains.** A certificate that is no root is trusted if and only if for one of the
usages that are tried there is a path to a root and the work budget is not used up. -/
theorem verify_eq_ok_iff {required : RequiredUsage} (halgorithms : Unambiguous algorithms)
    (hroot : c ∉ roots)
    (husable : ∀ root ∈ roots, ∃ anchor, Anchor.ofDer .refused root.der = .ok anchor) :
    c.verify algorithms presented ⟨required, roots⟩ now = .ok () ↔
      ∃ usage ∈ required.tried, Nonempty (RootPath algorithms c presented roots now usage.id) ∧
        ¬ Exhausts algorithms c presented roots now usage.id := by
  rw [verify_eq_ok_iff_search hroot husable]
  constructor
  · rintro ⟨hnow, hinspected, leaf, hleaf, usage, husage, hsearch⟩
    obtain ⟨hpath, hbudget⟩ := (Query.exists_search_eq_ok_iff halgorithms).1 hsearch
    refine ⟨usage, husage, (nonempty_rootPath_iff hleaf).2 ⟨hnow, hinspected, hpath⟩, ?_⟩
    rintro ⟨leaf', hleaf', hexhausted⟩
    obtain rfl := Except.ok.inj (hleaf.symm.trans hleaf')
    exact hbudget hexhausted
  · rintro ⟨usage, husage, ⟨p⟩, hbudget⟩
    obtain ⟨hnow, hinspected, hpath⟩ := (nonempty_rootPath_iff p.leaf_read).1 ⟨p⟩
    exact ⟨hnow, hinspected, p.leaf, p.leaf_read, usage, husage,
      (Query.exists_search_eq_ok_iff halgorithms).2
        ⟨hpath, fun hexhausted => hbudget ⟨p.leaf, p.leaf_read, hexhausted⟩⟩⟩

/-- A search that succeeds finds a path and does not use up its work budget. -/
theorem rootPath_of_search (hnow : 0 ≤ now.unixSeconds) (hinspected : c.inspect.isOk = true)
    (hsearch : (Link.ofDer .refused c.der >>=
      (query algorithms c presented roots now usage).search).isOk = true) :
    Nonempty (RootPath algorithms c presented roots now usage) ∧
      ¬ Exhausts algorithms c presented roots now usage := by
  obtain ⟨anchor, hsearch⟩ := Except.isOk_iff.1 hsearch
  obtain ⟨leaf, hleaf, hsearch⟩ := Except.bind_eq_ok_iff.1 hsearch
  obtain ⟨hanchor, issuers, hissuers, hapart, hpath⟩ := Query.path_of_search hsearch
  constructor
  · exact (nonempty_rootPath_iff hleaf).2 ⟨hnow, Except.isOk_iff.1 hinspected, anchor, hanchor,
      issuers, hissuers, hapart, hpath⟩
  · rintro ⟨leaf', hleaf', fault, hfault, -⟩
    obtain rfl := Except.ok.inj (hleaf.symm.trans hleaf')
    cases hsearch.symm.trans hfault

end

namespace Sample

theorem root_usable {n : Nat} :
    ∀ r ∈ List.replicate n root, ∃ anchor, Anchor.ofDer .refused r.der = .ok anchor := by
  have hroot : (Anchor.ofDer .refused root.der).isOk = true := by decide +kernel
  intro r hr
  rw [List.eq_of_mem_replicate hr]
  exact Except.isOk_iff.1 hroot

end Sample

end WorkloadAuth.Certificate
