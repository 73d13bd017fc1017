import WorkloadAuth.Proofs.Path

/-!
# Checks that give up

A search gives up if it fails although its budget is not used up. A check that asks for no more than
what holds does not give up, whatever its budget is.

* `GivesUp`: a search fails with some budget that it does not use up.
* `GivesUp.of_bind`, `GivesUp.of_firstOf`, `GivesUp.of_forIn`: the parts of a search.
* `not_givesUp_checkNames`: certificates that obey name constraints.
-/

namespace WorkloadAuth.Chain

open Reader

variable {α β : Type}

/-! ## Parts of a search -/

/-- A search fails with some budget that it does not use up. -/
def GivesUp (p : Search α) : Prop :=
  ∃ budget fault, (p.run budget).1 = .error fault ∧ fault.isFatal = false

/-- A search that goes on after another one, whether that succeeds or not. -/
theorem GivesUp.of_run_bind {p : Search α}
    {next : Except Fault α → StateM Budget (Except Fault β)}
    (h : GivesUp (ExceptT.mk (p.run >>= next))) :
    (∃ a, Yields p a ∧ GivesUp (ExceptT.mk (next (.ok a)))) ∨
      ∃ fault, (∃ budget, (p.run budget).1 = .error fault) ∧
        GivesUp (ExceptT.mk (next (.error fault))) := by
  obtain ⟨budget, fault, h, hfatal⟩ := h
  change (StateT.bind p.run next budget).1 = Except.error fault at h
  unfold StateT.bind at h
  generalize hp : p.run budget = found at h
  obtain ⟨fault' | a, budget'⟩ := found
  · exact .inr ⟨fault', ⟨budget, congrArg Prod.fst hp⟩, budget', fault, h, hfatal⟩
  · exact .inl ⟨a, ⟨budget, congrArg Prod.fst hp⟩, budget', fault, h, hfatal⟩

/-- A sequence gives up if one of its parts does. -/
theorem GivesUp.of_bind {p : Search α} {f : α → Search β} (h : GivesUp (p >>= f)) :
    GivesUp p ∨ ∃ a, Yields p a ∧ GivesUp (f a) := by
  change GivesUp (ExceptT.mk (p.run >>= ExceptT.bindCont f)) at h
  obtain ⟨a, ha, h⟩ | ⟨fault, ⟨budget, hp⟩, budget', fault', h, hfatal⟩ := h.of_run_bind
  · exact .inr ⟨a, ha, h⟩
  · cases h
    exact .inl ⟨budget, fault, hp, hfatal⟩

theorem not_givesUp_pure {a : α} : ¬ GivesUp (pure a : Search α) := by
  rintro ⟨budget, fault, h, -⟩
  cases h

theorem not_givesUp_throw {fault : Fault} (hfatal : fault.isFatal = true) :
    ¬ GivesUp (throw fault : Search α) := by
  rintro ⟨budget, fault', h, hfalse⟩
  cases h
  rw [hfatal] at hfalse
  cases hfalse

theorem GivesUp.of_ofExcept {x : Except Fault α} (h : GivesUp (ofExcept x)) :
    ∃ fault, x = .error fault := by
  obtain ⟨budget, fault, h, -⟩ := h
  exact ⟨fault, h⟩

theorem GivesUp.of_ofExcept_bind {x : Except Fault α} {a : α} {f : α → Search β}
    (h : GivesUp (ofExcept x >>= f)) (hx : x = .ok a) : GivesUp (f a) := by
  obtain hread | ⟨a', hread, h⟩ := h.of_bind
  · obtain ⟨fault, hfault⟩ := hread.of_ofExcept
    cases hx.symm.trans hfault
  · cases hx.symm.trans hread.of_ofExcept
    exact h

theorem not_givesUp_spendSignature : ¬ GivesUp spendSignature := by
  rintro ⟨⟨_ | n, pathCalls, comparisons⟩, fault, h, hfatal⟩
  · cases h
    cases hfatal
  · cases h

theorem not_givesUp_spendPathCall : ¬ GivesUp spendPathCall := by
  rintro ⟨⟨signatures, _ | n, comparisons⟩, fault, h, hfatal⟩
  · cases h
    cases hfatal
  · cases h

theorem not_givesUp_spendComparison : ¬ GivesUp spendComparison := by
  rintro ⟨⟨signatures, pathCalls, _ | n⟩, fault, h, hfatal⟩
  · cases h
    cases hfatal
  · cases h

/-- A search of alternatives gives up only after all of them have. -/
theorem GivesUp.of_firstOf {step : α → Search β} {fault : Fault} {as : List α}
    (h : GivesUp (firstOf step fault as)) : ∀ a ∈ as, GivesUp (step a) := by
  induction as generalizing fault with
  | nil => exact fun a ha => absurd ha List.not_mem_nil
  | cons first rest ih =>
    obtain ⟨b, -, h⟩ | ⟨fault', ⟨budget, hfirst⟩, h⟩ := h.of_run_bind
    · exact absurd h not_givesUp_pure
    · simp only at h
      split at h
      · rename_i hfatal
        exact absurd h (not_givesUp_throw hfatal)
      · rename_i hfatal
        intro a ha
        rcases List.mem_cons.1 ha with rfl | ha
        · exact ⟨budget, fault', hfirst, Bool.eq_false_iff.2 hfatal⟩
        · exact ih h a ha

/-- A loop that always goes on to the next element gives up at one of them. -/
theorem GivesUp.of_forIn {as : List α} {body : α → PUnit → Search (ForInStep PUnit)}
    (h : GivesUp (forIn as PUnit.unit body))
    (hbody : ∀ a step, Yields (body a PUnit.unit) step → step = .yield PUnit.unit) :
    ∃ a ∈ as, GivesUp (body a PUnit.unit) := by
  induction as with
  | nil => exact absurd h not_givesUp_pure
  | cons first rest ih =>
    rw [List.forIn_cons] at h
    obtain hfirst | ⟨step, hfirst, h⟩ := h.of_bind
    · exact ⟨first, List.mem_cons_self, hfirst⟩
    · obtain rfl := hbody first step hfirst
      obtain ⟨a, ha, hgives⟩ := ih h
      exact ⟨a, List.mem_cons_of_mem first ha, hgives⟩

/-! ## Name constraints -/

section Names

variable {name : GeneralName} {bases : List (Except Fault GeneralName)}

/-- The check of permitted subtrees does not give up on names that are permitted, where it knows
already that the name lies inside or outside of others. -/
theorem not_givesUp_checkPermitted {inside outside : Bool}
    (hcomparable : ∀ base ∈ bases, ∃ subtree found,
      base = .ok subtree ∧ name.within true subtree = .ok found)
    (hinside : outside ∨ (∃ subtree, .ok subtree ∈ bases ∧
        name.within true subtree = .ok (some false)) →
      inside ∨ ∃ subtree, .ok subtree ∈ bases ∧ name.within true subtree = .ok (some true)) :
    ¬ GivesUp (checkPermitted name bases inside outside) := by
  induction bases generalizing inside outside with
  | nil =>
    intro h
    rw [checkPermitted] at h
    split at h
    · rename_i hflags
      rcases inside with - | -
      · obtain hin | ⟨subtree, hmem, -⟩ := hinside (.inl (by simpa using hflags))
        · cases hin
        · exact List.not_mem_nil hmem
      · simp at hflags
    · exact not_givesUp_pure h
  | cons base more ih =>
    intro h
    obtain hspent | ⟨-, -, h⟩ := h.of_bind
    · exact not_givesUp_spendComparison hspent
    obtain ⟨subtree, found, rfl, hwithin⟩ := hcomparable base List.mem_cons_self
    have h := (h.of_ofExcept_bind rfl).of_ofExcept_bind hwithin
    have hmore : ∀ base ∈ more, ∃ subtree found,
        base = .ok subtree ∧ name.within true subtree = .ok found :=
      fun base hbase => hcomparable base (List.mem_cons_of_mem _ hbase)
    -- A subtree that the name is not inside of leaves it to the others.
    have hothers (hfound : found ≠ some true) (hout : outside ∨ ∃ s, .ok s ∈ .ok subtree :: more ∧
        name.within true s = .ok (some false)) :
        inside ∨ ∃ s, .ok s ∈ more ∧ name.within true s = .ok (some true) := by
      refine (hinside hout).imp_right ?_
      rintro ⟨s, hs, htrue⟩
      rcases List.mem_cons.1 hs with heq | hs
      · cases heq
        exact absurd (Except.ok.inj (hwithin.symm.trans htrue)) hfound
      · exact ⟨s, hs, htrue⟩
    rcases found with - | - | -
    · refine ih hmore (fun hout => hothers nofun (hout.imp_right ?_)) h
      rintro ⟨s, hs, hfalse⟩
      exact ⟨s, List.mem_cons_of_mem _ hs, hfalse⟩
    · exact ih hmore (fun _ => hothers nofun (.inr ⟨subtree, List.mem_cons_self, hwithin⟩)) h
    · exact ih hmore (fun _ => .inl rfl) h

theorem not_givesUp_checkExcluded (hexcluded : name.NotExcluded bases) :
    ¬ GivesUp (checkExcluded name bases) := by
  induction bases with
  | nil => exact not_givesUp_pure
  | cons base more ih =>
    intro h
    obtain hspent | ⟨-, -, h⟩ := h.of_bind
    · exact not_givesUp_spendComparison hspent
    obtain ⟨subtree, found, rfl, hwithin, hfound⟩ := hexcluded base List.mem_cons_self
    have h := (h.of_ofExcept_bind rfl).of_ofExcept_bind hwithin
    have hmore := ih fun base hbase => hexcluded base (List.mem_cons_of_mem _ hbase)
    rcases found with - | - | -
    · exact hmore h
    · exact hmore h
    · exact hfound rfl

end Names

/-- The check of name constraints does not give up on certificates that obey them. -/
theorem not_givesUp_checkNames {constraints : List UInt8} {first : Link} {rest : List Link}
    (hobeys : ∀ link ∈ first :: rest, link.Obeys constraints) :
    ¬ GivesUp (checkNames constraints (first :: rest)) := by
  intro h
  obtain ⟨permitted, excluded, hparts, -⟩ := hobeys first List.mem_cons_self
  have h := h.of_ofExcept_bind hparts
  obtain hlinks | ⟨-, -, h⟩ := h.of_bind
  · obtain ⟨link, hlink, hbody⟩ := hlinks.of_forIn fun link step hstep => by
      obtain ⟨-, -, hstep⟩ := hstep.of_bind
      exact hstep.of_pure
    obtain ⟨permitted', excluded', hparts', hnames⟩ := hobeys link hlink
    cases hparts.symm.trans hparts'
    obtain hloop | ⟨-, -, hend⟩ := hbody.of_bind
    · obtain ⟨name, hname, hcheck⟩ := hloop.of_forIn fun name step hstep => by
        obtain ⟨n, -, hstep⟩ := hstep.of_bind
        obtain ⟨-, -, hstep⟩ := hstep.of_bind
        obtain ⟨-, -, hstep⟩ := hstep.of_bind
        exact hstep.of_pure
      obtain ⟨n, rfl, hpermitted, hexcluded⟩ := hnames name hname
      obtain hgives | ⟨-, -, hcheck⟩ := (hcheck.of_ofExcept_bind rfl).of_bind
      · exact not_givesUp_checkPermitted hpermitted.comparable
          (fun hout => .inr (hpermitted.inside (hout.resolve_left (by decide)))) hgives
      obtain hgives | ⟨-, -, hend⟩ := hcheck.of_bind
      · exact not_givesUp_checkExcluded hexcluded hgives
      · exact not_givesUp_pure hend
    · exact not_givesUp_pure hend
  · exact not_givesUp_pure h

end WorkloadAuth.Chain
