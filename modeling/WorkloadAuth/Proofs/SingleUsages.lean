import WorkloadAuth.Proofs.CommonUsage
import WorkloadAuth.Proofs.StoredConfiguration

/-!
# Usages one by one

Where a usage is asked for, the searches for one or several usages decide, each on its own.

* `Certificate.attempt`: the search of a chain for one usage.
* `Certificate.isSearched_or_refused`, `Certificate.verify_eq_tryUsages`: a verification is a series
  of such searches, unless it fails before.
* `Certificate.VerifiedFor`: a certificate is verified for one usage alone.
* `Certificate.verify_eq_ok_iff_verifiedFor`: a success is the success of one of them.
* `Certificate.verify_any_of_verify`: what is trusted for a usage is trusted where nothing is asked
  for.
-/

namespace WorkloadAuth.Certificate

open Calendar Chain

/-- The subject of a certificate as it is shown. -/
def Inspected.shownSubject (i : Inspected) : String := (Name.render? i.subject).getD invalidName

section

variable (algorithms : List Algorithm) (c : Certificate) (presented roots : List Certificate)
  (now : Moment)

/-- The search of a chain from a certificate for one usage, with a work budget of its own. -/
def attempt (usage : Usage) : Except Chain.Fault Anchor :=
  Link.ofDer .refused c.der >>= (query algorithms c presented roots now usage.id).search

/-- A certificate is verified by searches alone: it is verified by chains, and all roots can end
one. -/
structure IsSearched : Prop extends c.IsChained ⟨.any, roots⟩ now where
  usable : ∀ root ∈ roots, ∃ anchor, Anchor.ofDer .refused root.der = .ok anchor

/-- A certificate that is no root is verified for one usage alone, because a chain is found. -/
structure VerifiedFor (usage : Usage) : Prop extends IsSearched c roots now where
  found : ∃ anchor, attempt algorithms c presented roots now usage = .ok anchor

end

variable {algorithms : List Algorithm} {c : Certificate} {presented roots : List Certificate}
  {now : Moment} {required : RequiredUsage}

/-! ## Series of searches -/

/-- A certificate that is verified by searches is searched for one usage after the other. -/
theorem verify_eq_tryUsages {i : Inspected} (hinspected : c.inspect = .ok i)
    (hsearched : IsSearched c roots now) :
    c.verify algorithms presented ⟨required, roots⟩ now =
      (tryUsages (attempt algorithms c presented roots now) .unknownIssuer
        required.tried).mapError fun fault => .untrusted (.noChain i.shownSubject fault) := by
  obtain ⟨leaf, hleaf⟩ := hsearched.leaf_read
  have hroot : ¬ roots.contains c = true := by simpa using hsearched.not_root
  have hnow : ¬ now.unixSeconds < 0 := Int.not_lt.2 hsearched.since1970
  have hsearch : attempt algorithms c presented roots now =
      fun usage => (query algorithms c presented roots now usage.id).search leaf := by
    funext usage
    rw [attempt, hleaf, Except.ok_bind]
  rw [verify, hinspected, Except.mapError_ok, Except.ok_bind, if_neg hroot, verifyChain,
    if_neg hnow, hleaf, Except.mapError_ok, Except.ok_bind, mapM_eq_anchorsOf hsearched.usable,
    Except.ok_bind, hsearch]
  simp only [query]
  generalize tryUsages _ _ _ = found
  cases found <;> rfl

/-- A certificate that is no root is verified by searches, or it is refused before any of them. -/
theorem isSearched_or_refused (algorithms : List Algorithm) (presented : List Certificate)
    (required : RequiredUsage) (now : Moment) (hroot : c ∉ roots) :
    IsSearched c roots now ∨
      ∃ fault, c.verify algorithms presented ⟨required, roots⟩ now = .error fault ∧
        ∀ subject cause, fault ≠ .untrusted (.noChain subject cause) := by
  have hcontains : ¬ roots.contains c = true := by simpa using hroot
  cases hinspected : c.inspect with
  | error fault => exact .inr ⟨.undecodable fault, by rw [verify, hinspected]; rfl, by simp⟩
  | ok i =>
    simp only [verify, hinspected, Except.mapError_ok, Except.ok_bind, if_neg hcontains,
      verifyChain]
    by_cases hnow : now.unixSeconds < 0
    · exact .inr ⟨.untrusted (.invalidTime now), by rw [if_pos hnow]; rfl, by simp⟩
    rw [if_neg hnow]
    cases hleaf : Link.ofDer .refused c.der with
    | error fault => exact .inr ⟨.untrusted (.unsupportedCertificate fault), rfl, by simp⟩
    | ok leaf =>
      rw [Except.mapError_ok, Except.ok_bind]
      cases hanchors : roots.mapM fun root =>
          (Anchor.ofDer .refused root.der).mapError Distrust.unsupportedRoot with
      | error fault =>
        obtain ⟨root, -, hfault⟩ := Except.exists_of_mapM_eq_error hanchors
        obtain ⟨cause, -, rfl⟩ := Except.mapError_eq_error_iff.1 hfault
        exact .inr ⟨.untrusted (.unsupportedRoot cause), rfl, by simp⟩
      | ok anchors =>
        refine .inl ⟨⟨hroot, ⟨i, hinspected⟩, ⟨leaf, hleaf⟩, Int.not_lt.1 hnow⟩, ?_⟩
        intro root hmem
        obtain ⟨anchor, hanchor⟩ := Except.exists_mapM_eq_ok_iff.1 ⟨anchors, hanchors⟩ root hmem
        exact ⟨anchor, Except.mapError_eq_ok_iff.1 hanchor⟩

/-- A certificate that is no root is trusted if and only if it is verified for one of the usages
that are tried, each on its own. -/
theorem verify_eq_ok_iff_verifiedFor (hroot : c ∉ roots) :
    c.verify algorithms presented ⟨required, roots⟩ now = .ok () ↔
      ∃ usage ∈ required.tried, VerifiedFor algorithms c presented roots now usage := by
  have hseries (hsearched : IsSearched c roots now) :
      c.verify algorithms presented ⟨required, roots⟩ now = .ok () ↔
        ∃ usage ∈ required.tried, ∃ anchor,
          attempt algorithms c presented roots now usage = .ok anchor := by
    obtain ⟨i, hinspected⟩ := hsearched.inspected
    rw [verify_eq_tryUsages hinspected hsearched, Except.mapError_eq_ok_iff, tryUsages_eq_ok_iff]
  constructor
  · intro h
    obtain hsearched | ⟨fault, hrefused, -⟩ :=
      isSearched_or_refused algorithms presented required now hroot
    · obtain ⟨usage, htried, hfound⟩ := (hseries hsearched).1 h
      exact ⟨usage, htried, hsearched, hfound⟩
    · cases h.symm.trans hrefused
  · rintro ⟨usage, htried, hverified⟩
    exact (hseries hverified.toIsSearched).2 ⟨usage, htried, hverified.found⟩

/-! ## Where nothing is asked for -/

/-- Where nothing is asked for, every usage is tried. -/
theorem mem_tried_any (usage : Usage) : usage ∈ RequiredUsage.any.tried := by
  cases usage <;> decide

/-- A list that allows a required usage does where nothing is asked for. -/
theorem checkRootUsage_any {i : Inspected} (h : checkRootUsage i required = .ok ()) :
    checkRootUsage i .any = .ok () := by
  rw [checkRootUsage_eq_ok_iff] at h ⊢
  refine h.imp_right fun ⟨ids, hlists, _⟩ => ⟨ids, hlists, allows_eq_true_iff.2 (.inr (.inl rfl))⟩

/-- A root that is trusted for a required usage is trusted where nothing is asked for. -/
theorem verifyRoot_any {i : Inspected} (h : verifyRoot i required now = .ok ()) :
    verifyRoot i .any now = .ok () := by
  simp only [verifyRoot] at h ⊢
  split at h
  · cases h
  split at h
  · rename_i hcalendar hvalid
    rw [if_neg hcalendar, if_pos hvalid]
    exact checkRootUsage_any h
  · cases h

/-- **Asking for less.** What is trusted for a required usage is trusted where nothing is asked for,
whether it is a root or not. What is no root and trusted where nothing is asked for is verified for
a single usage on its own, and so is what is trusted for clients or for servers, for that usage. -/
theorem verify_any_of_verify (algorithms : List Algorithm) (c : Certificate)
    (presented roots : List Certificate) (now : Moment) :
    (∀ required, c.verify algorithms presented ⟨required, roots⟩ now = .ok () →
      c.verify algorithms presented ⟨.any, roots⟩ now = .ok ()) ∧
    (c ∉ roots →
      (c.verify algorithms presented ⟨.any, roots⟩ now = .ok () ↔
        ∃ usage, VerifiedFor algorithms c presented roots now usage) ∧
      (c.verify algorithms presented ⟨.clientAuth, roots⟩ now = .ok () ↔
        VerifiedFor algorithms c presented roots now .clientAuth) ∧
      (c.verify algorithms presented ⟨.serverAuth, roots⟩ now = .ok () ↔
        VerifiedFor algorithms c presented roots now .serverAuth)) := by
  constructor
  · intro required h
    by_cases hroot : c ∈ roots
    · have hcontains : roots.contains c = true := List.contains_iff_mem.2 hroot
      simp only [verify, Except.bind_eq_ok_iff, if_pos hcontains] at h ⊢
      obtain ⟨i, hinspected, h⟩ := h
      exact ⟨i, hinspected, verifyRoot_any h⟩
    · obtain ⟨usage, -, hverified⟩ := (verify_eq_ok_iff_verifiedFor hroot).1 h
      exact (verify_eq_ok_iff_verifiedFor hroot).2 ⟨usage, mem_tried_any usage, hverified⟩
  · intro hroot
    simp only [verify_eq_ok_iff_verifiedFor hroot, mem_tried_any, true_and]
    simp only [RequiredUsage.tried, List.mem_singleton, exists_eq_left, and_self]

namespace Sample

/-- The sample with an extension for usages that lists one of them. -/
def leafFor (usage : Usage) : Certificate :=
  certificate (part 3 "I")
    (part 3 "i" ++ part 11 "organization:o" ++ part 11 "space:s" ++ part 11 "app:a") 2 3
    (extension 0x11 (element 0x87 [10, 0, 0, 1]) ++ extension 0x25 (element 0x06 usage.id))

/-- A certificate for servers and a root for servers, which are trusted where nothing is asked
for. -/
theorem servers_trusted :
    (leafFor .serverAuth ∉ [root] ∧
      (leafFor .serverAuth).verify [algorithm] [intermediate] ⟨.any, [root]⟩ moment = .ok () ∧
      VerifiedFor [algorithm] (leafFor .serverAuth) [intermediate] [root] moment .serverAuth) ∧
    (restricted [Usage.serverAuth.id] ∈ [restricted [Usage.serverAuth.id]] ∧
      (restricted [Usage.serverAuth.id]).verify [] [] ⟨.any, [restricted [Usage.serverAuth.id]]⟩
        instant = .ok ()) := by
  constructor
  · have hroot : leafFor .serverAuth ∉ [root] := by decide +kernel
    have hserver :
        (leafFor .serverAuth).verify [algorithm] [intermediate] ⟨.serverAuth, [root]⟩ moment =
          .ok () := by
      decide +kernel
    obtain ⟨hany, hsingle⟩ :=
      verify_any_of_verify [algorithm] (leafFor .serverAuth) [intermediate] [root] moment
    exact ⟨hroot, hany .serverAuth hserver, (hsingle hroot).2.2.1 hserver⟩
  · refine ⟨List.mem_cons_self, (verify_any_of_verify [] _ [] _ instant).1 .serverAuth ?_⟩
    decide +kernel

end Sample

end WorkloadAuth.Certificate
