import WorkloadAuth.Proofs.Result

/-!
# The first fault decides

Checks that are made one after the other end with the first one that finds a fault.

* `firstFault`: how a series of checks ends.
* `before`, `upTo`: the part of a series in front of a check, and the one that ends with it.
* `FailsFirst`: a check is the first of a series that finds a fault.
* `firstFault_eq_ok_iff`, `firstFault_eq_error_iff`: a series ends well if no check finds a fault,
  and otherwise with the fault of the first one that does.
* `FailsFirst.congr`: which check fails first, and how, depends on none behind it.
* `EndsAs`: a computation ends as a series of checks does; `EndsAs.cons_of_none`, `EndsAs.append`,
  `EndsAs.bind_ok`, `EndsAs.cases`.
-/

namespace WorkloadAuth

variable {κ ε : Type} {fault? : κ → Option ε} {check first : κ} {checks : List κ} {e : ε}

/-- How a series of checks ends. -/
def firstFault (fault? : κ → Option ε) (checks : List κ) : Except ε Unit :=
  match checks.findSome? fault? with
  | none => .ok ()
  | some e => .error e

theorem firstFault_cons_none (h : fault? first = none) :
    firstFault fault? (first :: checks) = firstFault fault? checks := by
  rw [firstFault, firstFault, List.findSome?_cons, h]

theorem firstFault_cons_some (h : fault? first = some e) :
    firstFault fault? (first :: checks) = .error e := by
  rw [firstFault, List.findSome?_cons, h]

theorem firstFault_eq_ok_iff :
    firstFault fault? checks = .ok () ↔ ∀ c ∈ checks, fault? c = none := by
  rw [firstFault, ← List.findSome?_eq_none_iff]
  cases checks.findSome? fault? <;> simp

variable [DecidableEq κ]

/-- The part of a series in front of a check. -/
def before (checks : List κ) (check : κ) : List κ := checks.takeWhile (· ≠ check)

/-- The part of a series that ends with a check. -/
def upTo (checks : List κ) (check : κ) : List κ := before checks check ++ [check]

@[simp] theorem before_cons_self : before (check :: checks) check = [] := by
  simp [before]

theorem before_cons_of_ne (h : first ≠ check) :
    before (first :: checks) check = first :: before checks check := by
  simp [before, h]

theorem upTo_cons_self : upTo (check :: checks) check = [check] := by
  rw [upTo, before_cons_self]
  rfl

theorem upTo_cons_of_ne (h : first ≠ check) :
    upTo (first :: checks) check = first :: upTo checks check := by
  rw [upTo, before_cons_of_ne h]
  rfl

/-- A check of a series finds a fault, and none in front of it does. -/
structure FailsFirst (fault? : κ → Option ε) (checks : List κ) (check : κ) (e : ε) : Prop where
  mem : check ∈ checks
  fails : fault? check = some e
  passed : ∀ c ∈ before checks check, fault? c = none

/-- At the start of a series, a check with a fault is the first one, and it alone. -/
theorem failsFirst_cons_of_some {e' : ε} (h : fault? first = some e') :
    FailsFirst fault? (first :: checks) check e ↔ first = check ∧ e' = e := by
  constructor
  · rintro ⟨-, hfails, hpassed⟩
    by_cases hfirst : first = check
    · rw [← hfirst, h] at hfails
      exact ⟨hfirst, Option.some.inj hfails⟩
    · rw [before_cons_of_ne hfirst] at hpassed
      have hnone := hpassed first List.mem_cons_self
      rw [h] at hnone
      cases hnone
  · rintro ⟨rfl, rfl⟩
    refine ⟨List.mem_cons_self, h, ?_⟩
    rw [before_cons_self]
    exact fun c hc => absurd hc List.not_mem_nil

/-- At the start of a series, a check without a fault does not count. -/
theorem failsFirst_cons_of_none (h : fault? first = none) :
    FailsFirst fault? (first :: checks) check e ↔ FailsFirst fault? checks check e := by
  have hne (hfails : fault? check = some e) : first ≠ check := by
    rintro rfl
    rw [h] at hfails
    cases hfails
  constructor
  · rintro ⟨hmem, hfails, hpassed⟩
    rw [before_cons_of_ne (hne hfails)] at hpassed
    exact ⟨List.mem_of_ne_of_mem (hne hfails).symm hmem, hfails, (List.forall_mem_cons.1 hpassed).2⟩
  · rintro ⟨hmem, hfails, hpassed⟩
    refine ⟨List.mem_cons_of_mem _ hmem, hfails, ?_⟩
    rw [before_cons_of_ne (hne hfails)]
    exact List.forall_mem_cons.2 ⟨h, hpassed⟩

/-- A series ends with the fault of the first check that finds one. -/
theorem firstFault_eq_error_iff :
    firstFault fault? checks = .error e ↔ ∃ check, FailsFirst fault? checks check e := by
  induction checks with
  | nil =>
    constructor
    · rintro ⟨⟩
    · rintro ⟨check, h⟩
      exact absurd h.mem List.not_mem_nil
  | cons first checks ih =>
    cases hfirst : fault? first with
    | none =>
      rw [firstFault_cons_none hfirst, ih]
      exact exists_congr fun check => (failsFirst_cons_of_none hfirst).symm
    | some e' =>
      rw [firstFault_cons_some hfirst]
      simp only [failsFirst_cons_of_some hfirst, Except.error.injEq, exists_eq_left']

/-- Which check fails first, and how, depends on none behind it. -/
theorem FailsFirst.congr {fault'? : κ → Option ε} (h : FailsFirst fault? checks check e)
    (hsame : ∀ c ∈ upTo checks check, fault'? c = fault? c) :
    FailsFirst fault'? checks check e where
  mem := h.mem
  fails := by
    rw [hsame check (List.mem_append_right _ List.mem_cons_self), h.fails]
  passed c hc := by
    rw [hsame c (List.mem_append_left _ hc), h.passed c hc]

/-! ## Computations -/

omit [DecidableEq κ]

variable {α β : Type} {P : α → Prop} {Q : β → Prop} {x : Except ε α} {f : α → Except ε β}

/-- A computation ends as a series of checks does, and where that ends well its result has a
property. -/
def EndsAs (fault? : κ → Option ε) (checks : List κ) (P : α → Prop) (x : Except ε α) : Prop :=
  match firstFault fault? checks with
  | .ok () => ∃ a, x = .ok a ∧ P a
  | .error e => x = .error e

theorem endsAs_nil {a : α} (ha : P a) : EndsAs fault? [] P (.ok a) :=
  ⟨a, rfl, ha⟩

/-- A computation that fails as its first check does ends as any series from there on. -/
theorem endsAs_cons_of_some (h : fault? first = some e) :
    EndsAs fault? (first :: checks) P (.error e) := by
  rw [EndsAs, firstFault_cons_some h]

theorem EndsAs.cons_of_none (hrest : EndsAs fault? checks P x) (h : fault? first = none) :
    EndsAs fault? (first :: checks) P x := by
  rw [EndsAs, firstFault_cons_none h]
  exact hrest

/-- A computation goes on with other checks where its first part has passed its own. -/
theorem EndsAs.append {more : List κ} (h : EndsAs fault? checks P x)
    (hrest : ∀ a, P a → EndsAs fault? more Q (f a)) :
    EndsAs fault? (checks ++ more) Q (x.bind f) := by
  induction checks with
  | nil =>
    obtain ⟨a, rfl, ha⟩ := h
    exact hrest a ha
  | cons first checks ih =>
    unfold EndsAs at h ih ⊢
    cases hfirst : fault? first with
    | none =>
      rw [firstFault_cons_none hfirst] at h
      rw [List.cons_append, firstFault_cons_none hfirst]
      exact ih h
    | some e =>
      rw [firstFault_cons_some hfirst] at h
      rw [List.cons_append, firstFault_cons_some hfirst]
      rw [show x = .error e from h]
      rfl

/-- A computation may end with steps that do not fail. -/
theorem EndsAs.bind_ok (h : EndsAs fault? checks P x) (hrest : ∀ a, P a → ∃ b, f a = .ok b ∧ Q b) :
    EndsAs fault? checks Q (x.bind f) := by
  rw [← List.append_nil checks]
  refine h.append fun a ha => ?_
  obtain ⟨b, hb, hQ⟩ := hrest a ha
  rw [hb]
  exact endsAs_nil hQ

/-- What a computation that ends as a series of checks does has for a result, and how it fails. -/
theorem EndsAs.cases (h : EndsAs fault? checks P x) :
    (∀ a, x = .ok a → P a) ∧ ∀ e, x = .error e ↔ firstFault fault? checks = .error e := by
  unfold EndsAs at h
  cases hfirst : firstFault fault? checks with
  | ok u =>
    rw [hfirst] at h
    obtain ⟨a, rfl, ha⟩ := h
    exact ⟨fun b hb => Except.ok.inj hb ▸ ha, fun e => ⟨nofun, nofun⟩⟩
  | error e =>
    rw [hfirst] at h
    obtain rfl := h
    refine ⟨nofun, fun e' => ⟨fun h => ?_, fun h => ?_⟩⟩
    · rw [Except.error.inj h]
    · rw [Except.error.inj h]

end WorkloadAuth
