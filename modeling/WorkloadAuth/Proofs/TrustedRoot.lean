import WorkloadAuth.Proofs.CertificateTime
import WorkloadAuth.Proofs.Trust

/-!
# Trusted roots

A root that is itself the certificate to verify is trusted without a chain, if it is valid and its
usages are not restricted to others than the required one.

* `Inspected.only_eq_ok_none_iff`, `Inspected.only_eq_ok_some_iff`: the extension with an
  identifier.
* `Inspected.Unrestricted`, `Inspected.Lists`: the usages that a certificate is restricted to.
* `Inspected.ValidAt`: the validity of a certificate.
* `Certificate.verify_root_eq_ok_iff`: when a valid root is trusted.
* `Certificate.Sample.lenient_roots_trusted`: roots that are trusted although they list none of the
  usages of which a chain has to allow one.
-/

namespace WorkloadAuth

open Calendar Chain

/-- The start of the second that a moment lies in. -/
def Calendar.Moment.wholeSecond (m : Moment) : Moment := ⟨m.unixSeconds * nanosPerSecond, 0⟩

namespace Certificate

namespace Inspected

/-! ## Extensions -/

section Only

variable {α : Type} {i : Inspected} {id : List UInt8} {read : List UInt8 → Option α}

/-- Nothing is found if and only if there is no extension with the identifier. -/
theorem only_eq_ok_none_iff : i.only id read = .ok none ↔ ∀ e ∈ i.extensions, e.id ≠ id := by
  have hnone : i.extensions.filter (fun e => e.id == id) = [] ↔ ∀ e ∈ i.extensions, e.id ≠ id := by
    simp [List.filter_eq_nil_iff]
  rw [← hnone, only]
  generalize i.extensions.filter (fun e => e.id == id) = found
  rcases found with _ | ⟨e, _ | ⟨e', rest⟩⟩
  · simp
  · cases h : read e.value <;> simp [h]
  · simp

/-- The content is found of the only extension with the identifier, if it can be read. -/
theorem only_eq_ok_some_iff {a : α} :
    i.only id read = .ok (some a) ↔
      ∃ e, i.extensions.filter (fun e => e.id == id) = [e] ∧ read e.value = some a := by
  rw [only]
  generalize i.extensions.filter (fun e => e.id == id) = found
  rcases found with _ | ⟨e, _ | ⟨e', rest⟩⟩
  · simp
  · cases h : read e.value <;> simp [h]
  · simp

/-- An extension that cannot be read is not passed over. -/
theorem exists_only_eq_error {e : Extension} (hmem : e ∈ i.extensions) (hid : e.id = id)
    (hread : read e.value = none) : ∃ fault, i.only id read = .error fault := by
  have hfound : e ∈ i.extensions.filter (fun e => e.id == id) := by simp [hmem, hid]
  rw [only]
  generalize i.extensions.filter (fun e => e.id == id) = found at hfound
  rcases found with _ | ⟨e', _ | ⟨e'', rest⟩⟩
  · cases hfound
  · obtain rfl := List.mem_singleton.1 hfound
    exact ⟨.unreadable, by simp [hread]⟩
  · exact ⟨.repeated, rfl⟩

end Only

/-! ## Usages -/

/-- The identifiers of usages in the content of an extension. -/
def usageIds? (value : List UInt8) : Option (List (List UInt8)) := do
  let (e, _) ← Element.expect? Tag.sequence value
  Element.allOf? Element.objectId? e.content

theorem usages_eq_only (i : Inspected) : i.usages = i.only usagesId usageIds? := rfl

/-- A certificate has no extension for its usages. -/
def Unrestricted (i : Inspected) : Prop := ∀ e ∈ i.extensions, e.id ≠ usagesId

/-- A certificate has one extension for its usages, which can be read and lists some of them. -/
def Lists (i : Inspected) (ids : List (List UInt8)) : Prop :=
  ∃ e, i.extensions.filter (fun e => e.id == usagesId) = [e] ∧ usageIds? e.value = some ids

theorem usages_eq_ok_none_iff {i : Inspected} : i.usages = .ok none ↔ i.Unrestricted :=
  only_eq_ok_none_iff

theorem usages_eq_ok_some_iff {i : Inspected} {ids : List (List UInt8)} :
    i.usages = .ok (some ids) ↔ i.Lists ids := only_eq_ok_some_iff

/-- What a certificate lists is determined. -/
theorem Lists.unique {i : Inspected} {ids ids' : List (List UInt8)} (h : i.Lists ids)
    (h' : i.Lists ids') : ids = ids' := by
  have hids := (usages_eq_ok_some_iff.2 h).symm.trans (usages_eq_ok_some_iff.2 h')
  simpa using hids

theorem Lists.not_unrestricted {i : Inspected} {ids : List (List UInt8)} (h : i.Lists ids) :
    ¬ i.Unrestricted := by
  intro hnone
  have husages := (usages_eq_ok_some_iff.2 h).symm.trans (usages_eq_ok_none_iff.2 hnone)
  simp at husages

/-- The validity of a certificate. -/
def ValidAt (i : Inspected) (m : Moment) : Prop :=
  i.notBefore.nanos ≤ m.nanos ∧ m.nanos ≤ i.notAfter.nanos

instance (i : Inspected) (m : Moment) : Decidable (i.ValidAt m) :=
  inferInstanceAs (Decidable (_ ∧ _))

/-- A certificate whose validity starts with a second is valid from the start of each second in
which it is. -/
theorem ValidAt.wholeSecond {i : Inspected} {m : Moment} (h : i.ValidAt m)
    (hstart : i.notBefore.subsecond = 0) : i.ValidAt m.wholeSecond := by
  obtain ⟨hbefore, hafter⟩ := h
  simp only [Moment.subsecond, nanosPerSecond] at hstart
  simp only [ValidAt, Moment.wholeSecond, Moment.unixSeconds, nanosPerSecond]
  omega

end Inspected

theorem allows_eq_true_iff {required : RequiredUsage} {ids : List (List UInt8)} :
    allows required ids = true ↔
      (∃ usage ∈ required.tried, usage.id ∈ ids) ∨ required = .any ∨ Usage.anyUsage.id ∈ ids := by
  cases required <;> simp [allows, RequiredUsage.tried, or_comm]

/-- A valid root is trusted as its usages are. -/
theorem verify_root (algorithms : List Algorithm) {c : Certificate} (presented : List Certificate)
    {settings : TrustSettings} {now : Moment} {inspected : Inspected} (hroot : c ∈ settings.roots)
    (hinspected : c.inspect = .ok inspected) (hvalid : inspected.ValidAt now.wholeSecond) :
    c.verify algorithms presented settings now =
      checkRootUsage inspected settings.requiredUsage := by
  obtain ⟨hbefore, hafter⟩ := inYears_of_inspect hinspected
  have hcalendar := inCalendar_of_between hbefore hafter hvalid.1 hvalid.2
  rw [verify, hinspected]
  simp only [Except.mapError_ok, Except.ok_bind, List.contains_iff_mem.2 hroot, if_true]
  exact (if_neg (not_not_intro hcalendar)).trans (if_pos hvalid)

theorem checkRootUsage_eq_ok_iff {inspected : Inspected} {required : RequiredUsage} :
    checkRootUsage inspected required = .ok () ↔
      inspected.Unrestricted ∨ ∃ ids, inspected.Lists ids ∧ allows required ids = true := by
  simp only [← Inspected.usages_eq_ok_none_iff, ← Inspected.usages_eq_ok_some_iff, checkRootUsage]
  rcases inspected.usages with fault | (_ | ids)
  · simp
  · simp
  · by_cases hallows : allows required ids = true
    · simp [hallows]
    · simp [hallows]

/-- **Usages of roots.** A valid root is trusted if and only if its usages are not restricted, or
its one extension for them can be read and lists a usage of which a chain has to allow one or any
usage at all, unless nothing is asked for. An extension that cannot be read counts as a failure. -/
theorem verify_root_eq_ok_iff (algorithms : List Algorithm) {c : Certificate}
    (presented : List Certificate) {settings : TrustSettings} {now : Moment}
    {inspected : Inspected} (hroot : c ∈ settings.roots) (hinspected : c.inspect = .ok inspected)
    (hvalid : inspected.ValidAt now.wholeSecond) :
    (c.verify algorithms presented settings now = .ok () ↔
      inspected.Unrestricted ∨ ∃ ids, inspected.Lists ids ∧
        ((∃ usage ∈ settings.requiredUsage.tried, usage.id ∈ ids) ∨
          settings.requiredUsage = .any ∨ Usage.anyUsage.id ∈ ids)) ∧
    ∀ e ∈ inspected.extensions, e.id = Inspected.usagesId → Inspected.usageIds? e.value = none →
      ∃ fault, c.verify algorithms presented settings now =
        .error (.undecodable (.extension fault)) := by
  rw [verify_root algorithms presented hroot hinspected hvalid]
  constructor
  · simp only [checkRootUsage_eq_ok_iff, allows_eq_true_iff]
  · intro e hmem hid hread
    obtain ⟨fault, hfault⟩ := Inspected.exists_only_eq_error hmem hid hread
    exact ⟨fault, by rw [checkRootUsage, Inspected.usages_eq_only, hfault]⟩

namespace Sample

/-- A root whose usages are restricted to those with some identifiers. -/
def restricted (ids : List (List UInt8)) : Certificate :=
  certificate (part 3 "R") (part 3 "R") 1 1
    (authority ++ extension 0x25 (ids.flatMap (element 0x06)))

/-- A usage that is none of those which are tried. -/
def privateUsage : List UInt8 := [0x2b, 0x06, 0x01, 0x04, 0x01, 0x01]

/-- What is found in a certificate, by evaluation. -/
theorem exists_inspected (c : Certificate) (ids : List (List UInt8)) (m : Moment)
    (h : c.inspect.toOption.map (fun i =>
      (i.usages.toOption, decide (i.ValidAt m), i.notBefore.subsecond)) =
        some (some (some ids), true, 0)) :
    ∃ inspected, c.inspect = .ok inspected ∧ inspected.ValidAt m ∧
      inspected.ValidAt m.wholeSecond ∧ inspected.Lists ids := by
  cases hinspect : c.inspect with
  | error fault => simp [hinspect, Except.toOption] at h
  | ok inspected =>
    simp only [hinspect, Except.toOption, Option.map_some, Option.some.injEq, Prod.mk.injEq,
      decide_eq_true_eq] at h
    obtain ⟨husages, hvalid, hstart⟩ := h
    refine ⟨inspected, rfl, hvalid, hvalid.wholeSecond hstart,
      Inspected.usages_eq_ok_some_iff.1 ?_⟩
    cases hread : inspected.usages with
    | error fault => simp [hread] at husages
    | ok found => simpa [hread] using husages

/-- A moment within a second. -/
def instant : Moment := ⟨1000000000 * nanosPerSecond + 500000000, 0⟩

/-- A root for clients is trusted where the usage of clients is asked for. -/
theorem client_root_trusted :
    ∃ inspected, (restricted [Usage.clientAuth.id]).inspect = .ok inspected ∧
      inspected.ValidAt instant.wholeSecond ∧ inspected.Lists [Usage.clientAuth.id] ∧
      (restricted [Usage.clientAuth.id]).verify [] []
        ⟨.clientAuth, [restricted [Usage.clientAuth.id]]⟩ instant = .ok () := by
  obtain ⟨inspected, hinspected, -, hvalid, hlists⟩ :=
    exists_inspected (restricted [Usage.clientAuth.id]) [Usage.clientAuth.id] instant
      (by decide +kernel)
  refine ⟨inspected, hinspected, hvalid, hlists, ?_⟩
  refine (verify_root_eq_ok_iff [] [] List.mem_cons_self hinspected hvalid).1.2 ?_
  exact .inr ⟨_, hlists, .inl ⟨.clientAuth, List.mem_cons_self, List.mem_cons_self⟩⟩

/-- A root for any usage is trusted where the usage of clients is asked for, and one for a usage of
its own where nothing is asked for, though they list none of the usages that are tried. -/
theorem lenient_roots_trusted :
    (∃ inspected, (restricted [Usage.anyUsage.id]).inspect = .ok inspected ∧
      inspected.ValidAt instant ∧
      ¬ (inspected.Unrestricted ∨ ∃ ids, inspected.Lists ids ∧
        ∃ usage ∈ RequiredUsage.clientAuth.tried, usage.id ∈ ids) ∧
      (restricted [Usage.anyUsage.id]).verify [] []
        ⟨.clientAuth, [restricted [Usage.anyUsage.id]]⟩ instant = .ok ()) ∧
    (∃ inspected, (restricted [privateUsage]).inspect = .ok inspected ∧
      inspected.ValidAt instant ∧
      ¬ (inspected.Unrestricted ∨ ∃ ids, inspected.Lists ids ∧
        ∃ usage ∈ RequiredUsage.any.tried, usage.id ∈ ids) ∧
      (restricted [privateUsage]).verify [] []
        ⟨.any, [restricted [privateUsage]]⟩ instant = .ok ()) := by
  have hnone {inspected : Inspected} {required : RequiredUsage} {ids : List (List UInt8)}
      (hlists : inspected.Lists ids) (htried : ∀ usage ∈ required.tried, usage.id ∉ ids) :
      ¬ (inspected.Unrestricted ∨ ∃ ids, inspected.Lists ids ∧
        ∃ usage ∈ required.tried, usage.id ∈ ids) := by
    rintro (hunrestricted | ⟨ids', hlists', usage, husage, hmem⟩)
    · exact hlists.not_unrestricted hunrestricted
    · rw [← hlists.unique hlists'] at hmem
      exact htried usage husage hmem
  constructor
  · obtain ⟨inspected, hinspected, hvalid, -, hlists⟩ := exists_inspected
      (restricted [Usage.anyUsage.id]) [Usage.anyUsage.id] instant (by decide +kernel)
    exact ⟨inspected, hinspected, hvalid, hnone hlists (by decide), by decide +kernel⟩
  · obtain ⟨inspected, hinspected, hvalid, -, hlists⟩ := exists_inspected
      (restricted [privateUsage]) [privateUsage] instant (by decide +kernel)
    exact ⟨inspected, hinspected, hvalid, hnone hlists (by decide), by decide +kernel⟩

end Sample

end Certificate

end WorkloadAuth
