import WorkloadAuth.Proofs.CommonUsage
import WorkloadAuth.Proofs.TwoReaders

/-!
# More roots and more presented certificates

A certificate that is trusted stays trusted when certificates are added to the roots and to the
presented ones, in any order. There is one exception: once the certificate is a root itself, its
usages are read as a whole, where a chain reads them only up to the one that it needs.

* `Certificate.verify_root_of_path`: a certificate with a path to a root, as a root itself.
* `Certificate.verify_mono`: what more roots and more presented certificates change.
* `Certificate.Sample.lost_as_root`: a certificate that is trusted until it is made a root.
-/

namespace WorkloadAuth.Certificate

open Calendar Chain

variable {algorithms : List Algorithm} {c : Certificate}
  {presented presented' roots roots' : List Certificate} {now : Moment}

/-- Of a certificate that is a root, neither the presented ones nor the other roots matter. -/
theorem verify_eq_of_root {required : RequiredUsage} (hroot : c ∈ roots) (hroot' : c ∈ roots') :
    c.verify algorithms presented' ⟨required, roots'⟩ now =
      c.verify algorithms presented ⟨required, roots⟩ now := by
  simp only [verify, List.contains_iff_mem.2 hroot, List.contains_iff_mem.2 hroot', if_true]

/-- A certificate with a path to a root is trusted as a root itself if its usages can be read, and
else it is refused because of them. -/
theorem verify_root_of_path (presented' : List Certificate) {required : RequiredUsage}
    {usage : Usage} (husage : usage ∈ required.tried)
    (p : RootPath algorithms c presented roots now usage.id) (hroot : c ∈ roots') :
    ∃ i, c.inspect = .ok i ∧
      c.verify algorithms presented' ⟨required, roots'⟩ now =
        (i.usages.mapError fun fault => .undecodable (.extension fault)).map fun _ => () := by
  obtain ⟨i, hinspected⟩ := p.inspected
  have hmatches : i.Matches p.leaf := matches_of_ofDer p.leaf_read hinspected
  have hvalid : i.ValidAt now.wholeSecond :=
    hmatches.validAt p.since1970 (p.path.valid p.leaf List.mem_cons_self)
  refine ⟨i, hinspected, ?_⟩
  rw [verify_root algorithms presented' hroot hinspected hvalid, checkRootUsage]
  cases hids : i.usages with
  | error fault => rfl
  | ok found =>
    cases found with
    | none => rfl
    | some ids =>
      have hlisted : usage.id ∈ ids :=
        hmatches.mem_of_allows (p.path.allows p.leaf List.mem_cons_self) hids
      exact if_pos (allows_eq_true_iff.2 (.inl ⟨usage, husage, hlisted⟩))

/-- **Trust is monotone.** If all roots can be anchors and no search uses up its work budget, a
trusted certificate stays trusted with more roots and more presented certificates, in whatever
order, unless it is made a root and its usages cannot be read as a whole. Then it is refused because
of them. -/
theorem verify_mono {required : RequiredUsage} (halgorithms : Unambiguous algorithms)
    (husable : ∀ root ∈ roots', ∃ anchor, Anchor.ofDer .refused root.der = .ok anchor)
    (hpresented : presented ⊆ presented') (hroots : roots ⊆ roots')
    (hbudget : c ∉ roots' → ∀ usage ∈ required.tried,
      ¬ Exhausts algorithms c presented' roots' now usage.id)
    (h : c.verify algorithms presented ⟨required, roots⟩ now = .ok ()) :
    (c.verify algorithms presented' ⟨required, roots'⟩ now = .ok () ↔
      c ∈ roots ∨ c ∉ roots' ∨ ∃ i usages, c.inspect = .ok i ∧ i.usages = .ok usages) ∧
    (c.verify algorithms presented' ⟨required, roots'⟩ now = .ok () ∨
      ∃ fault, c.verify algorithms presented' ⟨required, roots'⟩ now =
        .error (.undecodable (.extension fault))) := by
  by_cases hroot : c ∈ roots
  · have htrusted : c.verify algorithms presented' ⟨required, roots'⟩ now = .ok () :=
      (verify_eq_of_root hroot (hroots hroot)).trans h
    exact ⟨iff_of_true htrusted (.inl hroot), .inl htrusted⟩
  have husable₀ : ∀ root ∈ roots, ∃ anchor, Anchor.ofDer .refused root.der = .ok anchor :=
    fun root hmem => husable root (hroots hmem)
  obtain ⟨usage, husage, ⟨p⟩, -⟩ := (verify_eq_ok_iff halgorithms hroot husable₀).1 h
  by_cases hroot' : c ∈ roots'
  · obtain ⟨i, hinspected, hverify⟩ := verify_root_of_path presented' husage p hroot'
    rw [hverify]
    cases husages : i.usages with
    | ok usages =>
      exact ⟨iff_of_true rfl (.inr (.inr ⟨i, usages, hinspected, husages⟩)), .inl rfl⟩
    | error fault =>
      refine ⟨iff_of_false nofun ?_, .inr ⟨fault, rfl⟩⟩
      rintro (hmem | hnew | ⟨i', usages, hinspected', husages'⟩)
      · exact hroot hmem
      · exact hnew hroot'
      · obtain rfl := Except.ok.inj (hinspected.symm.trans hinspected')
        cases husages.symm.trans husages'
  · have htrusted : c.verify algorithms presented' ⟨required, roots'⟩ now = .ok () :=
      (verify_eq_ok_iff halgorithms hroot' husable).2
        ⟨usage, husage, ⟨p.mono hpresented hroots⟩, hbudget hroot' usage husage⟩
    exact ⟨iff_of_true htrusted (.inr (.inl hroot')), .inl htrusted⟩

namespace Sample

/-- The sample with an extension for usages that lists the one of clients, and then starts another
element that does not end. -/
def openEnded : Certificate :=
  certificate (part 3 "I")
    (part 3 "i" ++ part 11 "organization:o" ++ part 11 "space:s" ++ part 11 "app:a") 2 3
    (extension 0x11 (element 0x87 [10, 0, 0, 1]) ++
      extension 0x25 (element 0x06 Usage.clientAuth.id ++ [0x06]))

theorem usable_cons {c : Certificate} {roots : List Certificate}
    (h : (Anchor.ofDer .refused c.der).isOk = true)
    (hroots : ∀ r ∈ roots, ∃ anchor, Anchor.ofDer .refused r.der = .ok anchor) :
    ∀ r ∈ c :: roots, ∃ anchor, Anchor.ofDer .refused r.der = .ok anchor :=
  List.forall_mem_cons.2 ⟨Except.isOk_iff.1 h, hroots⟩

/-- The sample stays trusted with itself, the root and an unreadable certificate among the presented
ones, and with more roots, of which it may be one. -/
theorem trusted_with_more :
    Unambiguous Algorithm.suite ∧
      leaf.verify [algorithm] [⟨[]⟩, leaf, root, intermediate, intermediate]
        ⟨.clientAuth, [intermediate, root, root]⟩ moment = .ok () ∧
      leaf.verify [algorithm] [leaf, intermediate] ⟨.clientAuth, [leaf, root]⟩ moment = .ok () := by
  have halgorithms : Unambiguous [algorithm] := by decide
  have htrusted : leaf.verify [algorithm] [intermediate] ⟨.clientAuth, [root]⟩ moment = .ok () := by
    decide +kernel
  refine ⟨unambiguous_suite, ?_, ?_⟩
  · have hroot : leaf ∉ [intermediate, root, root] := by decide +kernel
    refine (verify_mono halgorithms (usable_cons (by decide +kernel) (root_usable (n := 2)))
      (by simp) (by simp) ?_ htrusted).1.2 (.inr (.inl hroot))
    intro _ usage husage
    rw [List.mem_singleton.1 husage]
    exact (rootPath_of_search (by decide +kernel) (by decide +kernel) (by decide +kernel)).2
  · have hreadable : (leaf.inspect.toOption.bind fun i => i.usages.toOption).isSome = true := by
      decide +kernel
    obtain ⟨usages, hreadable⟩ := Option.isSome_iff_exists.1 hreadable
    obtain ⟨i, hinspected, husages⟩ := Option.bind_eq_some_iff.1 hreadable
    rw [Except.toOption_eq_some_iff] at hinspected husages
    exact (verify_mono halgorithms (usable_cons (by decide +kernel) (root_usable (n := 1)))
      (by simp) (by simp) (fun hnew => absurd List.mem_cons_self hnew) htrusted).1.2
        (.inr (.inr ⟨i, usages, hinspected, husages⟩))

/-- A certificate that is trusted by a chain is refused once it is made a root. -/
theorem lost_as_root :
    Unambiguous [algorithm] ∧
      (∀ r ∈ [root, openEnded], ∃ anchor, Anchor.ofDer .refused r.der = .ok anchor) ∧
      [intermediate] ⊆ [intermediate] ∧ [root] ⊆ [root, openEnded] ∧
      (∀ usage ∈ RequiredUsage.clientAuth.tried,
        ¬ Exhausts [algorithm] openEnded [intermediate] [root, openEnded] moment usage.id) ∧
      openEnded.verify [algorithm] [intermediate] ⟨.clientAuth, [root]⟩ moment = .ok () ∧
      openEnded.verify [algorithm] [intermediate] ⟨.clientAuth, [root, openEnded]⟩ moment =
        .error (.undecodable (.extension .unreadable)) := by
  refine ⟨by decide, ?_, List.Subset.refl _, by simp, ?_, by decide +kernel, by decide +kernel⟩
  · exact usable_cons (by decide +kernel) (usable_cons (by decide +kernel) nofun)
  · intro usage husage
    rw [List.mem_singleton.1 husage]
    exact (rootPath_of_search (by decide +kernel) (by decide +kernel) (by decide +kernel)).2

end Sample

end WorkloadAuth.Certificate
