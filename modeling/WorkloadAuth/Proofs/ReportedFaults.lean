import WorkloadAuth.Proofs.SingleUsages

/-!
# The fault that is told

Where nothing is asked for, a certificate without a chain is searched for one usage after the other,
and each search may fail for a reason of its own. Only the last one's is told.

* `Chain.Listing`: a list of usages.
* `Chain.Link.checkUsages_congr`: usages that a certificate does not tell apart.
* `Chain.Query.search_congr`: usages that no certificate of a search tells apart.
* `Certificate.tryUsages_concat_eq_error_iff`: the fault of a series of searches.
* `Certificate.verify_any_eq_noChain_iff`: when no chain is found, and which fault is told.
* `Certificate.reason_told`: whose fault it is.
* `Certificate.Sample.issuer_untold`: a certificate whose unknown issuer is not told.
-/

namespace WorkloadAuth

open Calendar Chain

namespace Chain

open Reader

/-! ## Usages of one certificate -/

/-- Some octets are a list of usages. -/
inductive Listing : List UInt8 → List (List UInt8) → Prop where
  | last {bytes usage} : expect .objectId bytes = .ok (usage, []) → Listing bytes [usage]
  | more {bytes usage rest usages} : expect .objectId bytes = .ok (usage, rest) →
      Listing rest usages → Listing bytes (usage :: usages)

theorem Listing.ne_nil {bytes : List UInt8} {usages : List (List UInt8)}
    (h : Listing bytes usages) : bytes ≠ [] := by
  rintro rfl
  cases h with
  | last hread => cases hread
  | more hread _ => cases hread

/-- The check of a usage goes on behind another one, unless that is the last one. -/
theorem checkUsage_succ {usage listed bytes rest : List UInt8} (fuel : Nat)
    (hread : expect .objectId bytes = .ok (listed, rest)) (hne : listed ≠ usage) :
    checkUsage usage (fuel + 1) bytes =
      if rest.isEmpty then .error .usageMissing else checkUsage usage fuel rest := by
  rw [checkUsage, bind_of_ok hread, if_neg hne]
  cases rest <;> rfl

/-- A usage that is not in a list is missing. -/
theorem checkUsage_of_listing {usage bytes : List UInt8} {usages : List (List UInt8)} {fuel : Nat}
    (h : Listing bytes usages) (hmissing : usage ∉ usages) (hfuel : bytes.length < fuel) :
    checkUsage usage fuel bytes = .error .usageMissing := by
  induction h generalizing fuel with
  | @last bytes listed hread =>
    obtain ⟨fuel, rfl⟩ := Nat.exists_eq_add_one_of_ne_zero (Nat.ne_zero_of_lt hfuel)
    rw [checkUsage_succ fuel hread fun h => hmissing (by simp [h])]
    rfl
  | @more bytes listed rest usages hread hrest ih =>
    obtain ⟨fuel, rfl⟩ := Nat.exists_eq_add_one_of_ne_zero (Nat.ne_zero_of_lt hfuel)
    have hshorter := length_lt_of_expect hread
    have hmore : ¬ rest.isEmpty = true := by simpa using hrest.ne_nil
    rw [checkUsage_succ fuel hread fun h => hmissing (by simp [h]), if_neg hmore]
    exact ih (fun h => hmissing (List.mem_cons_of_mem _ h)) (by omega)

/-- The checks of two usages that are not in a list fail alike, even where it cannot be read. -/
theorem checkUsage_congr {usage usage' bytes : List UInt8} (hnot : ¬ Lists usage bytes)
    (hnot' : ¬ Lists usage' bytes) (fuel : Nat) :
    checkUsage usage fuel bytes = checkUsage usage' fuel bytes := by
  induction fuel generalizing bytes with
  | zero => rfl
  | succ fuel ih =>
    cases hread : expect .objectId bytes with
    | error fault => rw [checkUsage, checkUsage, bind_of_error hread, bind_of_error hread]
    | ok found =>
      obtain ⟨listed, rest⟩ := found
      have hne : listed ≠ usage := fun h => hnot (.here (h ▸ hread))
      have hne' : listed ≠ usage' := fun h => hnot' (.here (h ▸ hread))
      rw [checkUsage_succ fuel hread hne, checkUsage_succ fuel hread hne',
        ih (fun h => hnot (.later hread h)) (fun h => hnot' (.later hread h))]

namespace Link

/-- The checks of two usages of which a certificate allows both or neither. -/
theorem checkUsages_congr {link : Link} {usage usage' : List UInt8}
    (h : link.Allows usage ↔ link.Allows usage') :
    link.checkUsages usage = link.checkUsages usage' := by
  by_cases hallows : link.Allows usage
  · rw [checkUsages_eq_ok_iff.2 hallows, checkUsages_eq_ok_iff.2 (h.1 hallows)]
  · have hallows' : ¬ link.Allows usage' := fun h' => hallows (h.2 h')
    unfold Allows at hallows hallows'
    unfold checkUsages
    cases hlist : link.extendedUsage with
    | none => rfl
    | some bytes =>
      simp only [hlist, Option.mem_def, Option.some.injEq, forall_eq'] at hallows hallows'
      simp only [whole, checkUsage_congr hallows hallows']

theorem check_congr {link : Link} {usage usage' : List UInt8}
    (h : link.Allows usage ↔ link.Allows usage') (now : Nat) (place : Place) :
    link.check now usage place = link.check now usage' place := by
  rw [check_eq, check_eq, checkUsages_congr h]

/-- A certificate that is valid and in its place, but does not list a usage. -/
theorem check_of_listing {link : Link} {now : Nat} {usage bytes : List UInt8} {place : Place}
    {usages : List (List UInt8)} (hvalid : link.ValidAt now) (hfits : link.Fits place)
    (hlist : link.extendedUsage = some bytes) (hlisting : Listing bytes usages)
    (hmissing : usage ∉ usages) : link.check now usage place = .error .usageMissing := by
  have husage : link.checkUsages usage = .error .usageMissing := by
    simp only [checkUsages, hlist, whole,
      checkUsage_of_listing hlisting hmissing (Nat.lt_succ_self _), Except.error_bind]
  rw [check_eq, checkValidity_eq_ok_iff.2 hvalid, Except.ok_bind,
    checkBasicConstraints_eq_ok_iff.2 hfits, Except.ok_bind, husage]

end Link

/-! ## Usages of a search -/

namespace Query

variable {q : Query} {usage : List UInt8}

/-- The same search for another usage. -/
def forUsage (q : Query) (usage : List UInt8) : Query := { q with usage }

/-- The signatures of a path do not depend on the usage. -/
theorem checkSignatures_forUsage (key : List UInt8) (path : List Link) :
    (q.forUsage usage).checkSignatures key path = q.checkSignatures key path := by
  induction path generalizing key with
  | nil => rfl
  | cons link below ih => simp only [checkSignatures, forUsage, ← ih]

theorem checkAnchored_forUsage (head : Link) (below : List Link) (anchor : Anchor) :
    (q.forUsage usage).checkAnchored head below anchor = q.checkAnchored head below anchor := by
  simp only [checkAnchored, checkSignatures_forUsage]

/-- A path is completed alike for two usages that its head does not tell apart, if each intermediate
goes on alike. -/
theorem complete_congr {extend extend' : Link → Search Anchor} {head : Link} {below : List Link}
    (hhead : head.Allows usage ↔ head.Allows q.usage)
    (hextend : ∀ issuer, .ok issuer ∈ q.intermediates → extend issuer = extend' issuer) :
    (q.forUsage usage).complete extend head below = q.complete extend' head below := by
  have hissuers (fault : Fault) :
      firstOf (fun candidate => do
        let issuer ← ofExcept candidate
        if canFollow issuer head below then
          spendPathCall
          extend issuer
        else throw .unknownIssuer) fault q.intermediates =
      firstOf (fun candidate => do
        let issuer ← ofExcept candidate
        if canFollow issuer head below then
          spendPathCall
          extend' issuer
        else throw .unknownIssuer) fault q.intermediates := by
    refine firstOf_congr (fun candidate hcandidate => ?_) fault
    cases candidate with
    | error fault => rfl
    | ok issuer =>
      change (if canFollow issuer head below then _ else _) =
        if canFollow issuer head below then _ else _
      rw [hextend issuer hcandidate]
  simp only [complete, checkAnchored_forUsage]
  simp only [forUsage, Link.check_congr hhead, hissuers]

/-- Paths are completed alike for two usages that neither the head nor any readable intermediate
tells apart. -/
theorem searchFrom_congr
    (hintermediates : ∀ issuer, .ok issuer ∈ q.intermediates →
      (issuer.Allows usage ↔ issuer.Allows q.usage))
    {head : Link} (hhead : head.Allows usage ↔ head.Allows q.usage) (room : Nat)
    (below : List Link) :
    (q.forUsage usage).searchFrom room head below = q.searchFrom room head below := by
  induction room generalizing head below with
  | zero => exact complete_congr hhead fun _ _ => rfl
  | succ room ih =>
    exact complete_congr hhead fun issuer hissuer => ih (hintermediates issuer hissuer) _

/-- Two usages that no certificate of a search tells apart. -/
theorem search_congr {leaf : Link}
    (hintermediates : ∀ issuer, .ok issuer ∈ q.intermediates →
      (issuer.Allows usage ↔ issuer.Allows q.usage))
    (hleaf : leaf.Allows usage ↔ leaf.Allows q.usage) :
    (q.forUsage usage).search leaf = q.search leaf := by
  rw [search, search, searchFrom_congr hintermediates hleaf]

/-- A search fails at once if the certificate that it starts from does not pass its checks. -/
theorem search_of_check {leaf : Link} {fault : Fault}
    (h : leaf.check q.now q.usage .endEntity = .error fault) : q.search leaf = .error fault := by
  have hcomplete (extend : Link → Search Anchor) :
      q.complete extend leaf [] = throw fault := by
    simp only [complete, placeAbove, h]
    rfl
  rw [search, maxIntermediates, searchFrom, hcomplete]
  rfl

end Query

end Chain

namespace Certificate

/-! ## A series of searches -/

/-- A series of searches fails if and only if each of them does, with the fault of the last one. -/
theorem tryUsages_concat_eq_error_iff {search : Usage → Except Chain.Fault Anchor}
    {first fault : Chain.Fault} {usages : List Usage} {last : Usage} :
    tryUsages search first (usages ++ [last]) = .error fault ↔
      (∀ usage ∈ usages ++ [last], ∃ other, search usage = .error other) ∧
        search last = .error fault := by
  induction usages generalizing first with
  | nil => cases hlast : search last <;> simp [tryUsages, hlast]
  | cons usage rest ih =>
    cases husage : search usage with
    | ok anchor => simp [tryUsages, husage]
    | error other =>
      simp only [List.cons_append, List.forall_mem_cons, tryUsages, husage, ih,
        Except.error.injEq, exists_eq', true_and]

theorem tryUsages_any_eq_error_iff {search : Usage → Except Chain.Fault Anchor}
    {first fault : Chain.Fault} :
    tryUsages search first RequiredUsage.any.tried = .error fault ↔
      (∀ usage, ∃ other, search usage = .error other) ∧ search .ocspSigning = .error fault := by
  have htried : RequiredUsage.any.tried =
      [.clientAuth, .serverAuth, .anyUsage, .codeSigning, .emailProtection, .timeStamping] ++
        [.ocspSigning] := rfl
  rw [htried, tryUsages_concat_eq_error_iff, ← htried]
  simp only [mem_tried_any, forall_const]

variable {algorithms : List Algorithm} {c : Certificate} {presented roots : List Certificate}
  {now : Moment} {subject : String} {fault : Chain.Fault}

/-- No chain is found from a certificate that is no root, where nothing is asked for, if and only if
it is verified by searches and the one for each usage fails. The fault that is told is that of the
last search. -/
theorem verify_any_eq_noChain_iff (hroot : c ∉ roots) :
    c.verify algorithms presented ⟨.any, roots⟩ now =
        .error (.untrusted (.noChain subject fault)) ↔
      IsSearched c roots now ∧ (∃ i, c.inspect = .ok i ∧ i.shownSubject = subject) ∧
      (∀ usage, ∃ other, attempt algorithms c presented roots now usage = .error other) ∧
      attempt algorithms c presented roots now .ocspSigning = .error fault := by
  have hseries {i : Inspected} (hinspected : c.inspect = .ok i)
      (hsearched : IsSearched c roots now) :
      c.verify algorithms presented ⟨.any, roots⟩ now =
          .error (.untrusted (.noChain subject fault)) ↔
        i.shownSubject = subject ∧
        (∀ usage, ∃ other, attempt algorithms c presented roots now usage = .error other) ∧
        attempt algorithms c presented roots now .ocspSigning = .error fault := by
    rw [verify_eq_tryUsages hinspected hsearched, Except.mapError_eq_error_iff]
    simp only [tryUsages_any_eq_error_iff, TrustFault.untrusted.injEq, Distrust.noChain.injEq]
    constructor
    · rintro ⟨_, hfail, hsubject, rfl⟩
      exact ⟨hsubject, hfail⟩
    · rintro ⟨hsubject, hfail⟩
      exact ⟨fault, hfail, hsubject, rfl⟩
  constructor
  · intro h
    obtain hsearched | ⟨fault', hrefused, hother⟩ :=
      isSearched_or_refused algorithms presented .any now hroot
    · obtain ⟨i, hinspected⟩ := hsearched.inspected
      obtain ⟨hsubject, hfail⟩ := (hseries hinspected hsearched).1 h
      exact ⟨hsearched, ⟨i, hinspected, hsubject⟩, hfail⟩
    · exact absurd (Except.error.inj (hrefused.symm.trans h)) (hother subject fault)
  · rintro ⟨hsearched, ⟨i, hinspected, hsubject⟩, hfail⟩
    exact (hseries hinspected hsearched).2 ⟨hsubject, hfail⟩

/-- Two usages that no certificate which may be part of a chain tells apart: each of them allows
both or neither. -/
def Indistinct (c : Certificate) (presented : List Certificate) (usage usage' : Usage) : Prop :=
  ∀ link, (∃ p ∈ c :: presented, Link.ofDer .refused p.der = .ok link) →
    (link.Allows usage.id ↔ link.Allows usage'.id)

/-- The searches for two usages that no certificate tells apart are alike. -/
theorem attempt_congr {usage usage' : Usage} (h : Indistinct c presented usage usage') :
    attempt algorithms c presented roots now usage =
      attempt algorithms c presented roots now usage' := by
  unfold attempt
  cases hleaf : Link.ofDer .refused c.der with
  | error fault => rw [Except.error_bind, Except.error_bind]
  | ok leaf =>
    have hquery : query algorithms c presented roots now usage.id =
        (query algorithms c presented roots now usage'.id).forUsage usage.id := rfl
    rw [Except.ok_bind, Except.ok_bind, hquery]
    refine Query.search_congr ?_ (h leaf ⟨c, List.mem_cons_self, hleaf⟩)
    intro issuer hissuer
    obtain ⟨p, hp, hread⟩ := List.mem_map.1 hissuer
    exact h issuer ⟨p, List.mem_cons_of_mem c (List.mem_of_mem_filter hp), hread⟩

/-- **The fault that is told.** Where nothing is asked for and no chain is found from a certificate
that is no root, the search for each usage fails, and the fault of the last one is told. It is that
of another usage which no certificate tells apart from the last one. But of a certificate that lists
usages without the last one it is told that a usage is missing, whatever the other searches fail
for. -/
theorem reason_told (hroot : c ∉ roots)
    (h : c.verify algorithms presented ⟨.any, roots⟩ now =
      .error (.untrusted (.noChain subject fault))) :
    (∀ usage, ∃ other, attempt algorithms c presented roots now usage = .error other) ∧
    attempt algorithms c presented roots now .ocspSigning = .error fault ∧
    (∀ usage, Indistinct c presented usage .ocspSigning →
      attempt algorithms c presented roots now usage = .error fault) ∧
    ∀ leaf bytes usages, Link.ofDer .refused c.der = .ok leaf →
      leaf.ValidAt now.unixSeconds.toNat → leaf.Fits .endEntity →
      leaf.extendedUsage = some bytes → Listing bytes usages →
      Usage.ocspSigning.id ∉ usages → fault = .usageMissing := by
  obtain ⟨-, -, hfail, hlast⟩ := (verify_any_eq_noChain_iff hroot).1 h
  refine ⟨hfail, hlast, fun usage hindistinct => (attempt_congr hindistinct).trans hlast, ?_⟩
  intro leaf bytes usages hleaf hvalid hfits hlist hlisting hmissing
  have hcheck := Link.check_of_listing hvalid hfits hlist hlisting hmissing
  have hsearch : (query algorithms c presented roots now Usage.ocspSigning.id).search leaf =
      .error .usageMissing := Query.search_of_check hcheck
  rw [attempt, hleaf, Except.ok_bind, hsearch] at hlast
  exact (Except.error.inj hlast).symm

namespace Sample

/-- The certificate for one usage and its link, of which some checks are known by evaluation. -/
theorem exists_link (usage : Usage)
    (h : (Link.ofDer .refused (leafFor usage).der).toOption.map (fun link =>
      (link.check moment.unixSeconds.toNat usage.id .endEntity, link.extendedUsage)) =
        some (.ok (), some (element 0x06 usage.id))) :
    ∃ link, Link.ofDer .refused (leafFor usage).der = .ok link ∧
      link.ValidAt moment.unixSeconds.toNat ∧ link.Fits .endEntity ∧
      link.extendedUsage = some (element 0x06 usage.id) := by
  obtain ⟨link, hlink, hknown⟩ := Option.map_eq_some_iff.1 h
  obtain ⟨hcheck, hlist⟩ := Prod.mk.inj hknown
  obtain ⟨hvalid, hfits, -⟩ := Link.check_eq_ok_iff.1 hcheck
  exact ⟨link, Except.toOption_eq_some_iff.1 hlink, hvalid, hfits, hlist⟩

/-- Nothing tells usages apart where only the sample is part of the search, because its usages are
not restricted. -/
theorem leaf_indistinct (usage usage' : Usage) : Indistinct leaf [] usage usage' := by
  have hunrestricted : (Link.ofDer .refused leaf.der).toOption.map Link.extendedUsage =
      some none := by
    decide +kernel
  rintro link ⟨p, hp, hread⟩
  obtain rfl := List.mem_singleton.1 hp
  have hnone : link.extendedUsage = none := by simpa [hread, Except.toOption] using hunrestricted
  simp only [Link.Allows, hnone, Option.mem_def, reduceCtorEq, false_imp_iff, forall_const]

/-- Of the sample without its issuer it is told that the issuer is unknown, which the search for
clients fails for too. Of the sample for clients it is told that a usage is missing. -/
theorem faults_told :
    (leaf ∉ [root] ∧
      leaf.verify [algorithm] [] ⟨.any, [root]⟩ moment =
        .error (.untrusted (.noChain "CN=i, OU=organization:o, OU=space:s, OU=app:a"
          .unknownIssuer)) ∧
      attempt [algorithm] leaf [] [root] moment .clientAuth = .error .unknownIssuer) ∧
    (leafFor .clientAuth ∉ [root] ∧
      ∃ subject fault, (leafFor .clientAuth).verify [algorithm] [] ⟨.any, [root]⟩ moment =
        .error (.untrusted (.noChain subject fault)) ∧ fault = .usageMissing) := by
  constructor
  · have hroot : leaf ∉ [root] := by decide +kernel
    have htold : leaf.verify [algorithm] [] ⟨.any, [root]⟩ moment =
        .error (.untrusted (.noChain "CN=i, OU=organization:o, OU=space:s, OU=app:a"
          .unknownIssuer)) := by
      decide +kernel
    obtain ⟨-, -, hindistinct, -⟩ := reason_told hroot htold
    exact ⟨hroot, htold, hindistinct .clientAuth (leaf_indistinct .clientAuth .ocspSigning)⟩
  · have hroot : leafFor .clientAuth ∉ [root] := by decide +kernel
    have htold : (leafFor .clientAuth).verify [algorithm] [] ⟨.any, [root]⟩ moment =
        .error (.untrusted (.noChain "CN=i, OU=organization:o, OU=space:s, OU=app:a"
          .usageMissing)) := by
      decide +kernel
    obtain ⟨link, hlink, hvalid, hfits, hlist⟩ := exists_link .clientAuth (by decide +kernel)
    have hlisting : Listing (element 0x06 Usage.clientAuth.id) [Usage.clientAuth.id] :=
      .last (by decide +kernel)
    obtain ⟨-, -, -, hmissing⟩ := reason_told hroot htold
    exact ⟨hroot, _, _, htold,
      hmissing link _ _ hlink hvalid hfits hlist hlisting (by decide)⟩

/-- A certificate for clients of which the issuer is unknown: it is told that a usage is missing,
unless the usage of clients is asked for. -/
theorem issuer_untold :
    leafFor .clientAuth ∉ [root] ∧
    (∀ r ∈ [root], ∃ anchor, Anchor.ofDer .refused r.der = .ok anchor) ∧
    attempt [algorithm] (leafFor .clientAuth) [] [root] moment .clientAuth =
      .error .unknownIssuer ∧
    (leafFor .clientAuth).verify [algorithm] [] ⟨.clientAuth, [root]⟩ moment =
      .error (.untrusted (.noChain "CN=i, OU=organization:o, OU=space:s, OU=app:a"
        .unknownIssuer)) ∧
    (leafFor .clientAuth).verify [algorithm] [] ⟨.any, [root]⟩ moment =
      .error (.untrusted (.noChain "CN=i, OU=organization:o, OU=space:s, OU=app:a"
        .usageMissing)) :=
  ⟨by decide +kernel, root_usable (n := 1), by decide +kernel, by decide +kernel, by decide +kernel⟩

end Sample

end Certificate

end WorkloadAuth
