/-!
# Results

When a computation that may fail succeeds or fails, by its parts.

* `Except.ok_bind`, `Except.error_bind`, `Except.bind_eq_ok_iff`, `Except.bind_eq_error_iff`: a
  sequence.
* `Except.error?`, `Except.error?_eq_some_iff`: the failure of a computation, if it fails.
* `Except.toOption_eq_some_iff`, `Except.isOk_iff`: a computation that is known to succeed.
* `Except.mapError_eq_ok_iff`, `Except.mapError_eq_error_iff`: a renamed failure.
* `Except.exists_mapM_eq_ok_iff`, `Except.exists_of_mapM_eq_error`, `Except.exists_of_mem_mapM`: a
  list.
-/

namespace WorkloadAuth

variable {ε ε' α β : Type}

theorem Except.ok_bind (a : α) (f : α → Except ε β) : (.ok a : Except ε α) >>= f = f a := rfl

theorem Except.error_bind (e : ε) (f : α → Except ε β) :
    (.error e : Except ε α) >>= f = .error e := rfl

theorem Except.bind_eq_ok_iff {x : Except ε α} {f : α → Except ε β} {b : β} :
    x >>= f = .ok b ↔ ∃ a, x = .ok a ∧ f a = .ok b := by
  cases x <;> simp [Bind.bind, Except.bind]

theorem Except.bind_eq_error_iff {x : Except ε α} {f : α → Except ε β} {e : ε} :
    x >>= f = .error e ↔ x = .error e ∨ ∃ a, x = .ok a ∧ f a = .error e := by
  cases x <;> simp [Bind.bind, Except.bind]

@[simp] theorem Except.mapError_ok (f : ε → ε') (a : α) :
    (Except.ok a).mapError f = .ok a := rfl

@[simp] theorem Except.mapError_error (f : ε → ε') (e : ε) :
    (Except.error e : Except ε α).mapError f = .error (f e) := rfl

theorem Except.mapError_eq_error_iff {x : Except ε α} {f : ε → ε'} {e : ε'} :
    x.mapError f = .error e ↔ ∃ e', x = .error e' ∧ f e' = e := by
  cases x <;> simp

theorem Except.mapError_eq_ok_iff {x : Except ε α} {f : ε → ε'} {a : α} :
    x.mapError f = .ok a ↔ x = .ok a := by
  cases x <;> simp

theorem Except.toOption_eq_some_iff {x : Except ε α} {a : α} :
    x.toOption = some a ↔ x = .ok a := by
  cases x <;> simp [Except.toOption]

theorem Except.isOk_iff {x : Except ε α} : x.isOk ↔ ∃ a, x = .ok a := by
  cases x <;> simp [Except.toBool]

/-- Why a computation fails, if it does. -/
def Except.error? : Except ε α → Option ε
  | .ok _ => none
  | .error e => some e

@[simp] theorem Except.error?_ok (a : α) :
    Except.error? (.ok a : Except ε α) = none := rfl

@[simp] theorem Except.error?_error (e : ε) :
    Except.error? (.error e : Except ε α) = some e := rfl

theorem Except.error?_eq_some_iff {x : Except ε α} {e : ε} :
    Except.error? x = some e ↔ x = .error e := by
  cases x <;> simp

/-- A list is mapped successfully if each of its elements is. -/
theorem Except.exists_mapM_eq_ok_iff {f : α → Except ε β} {as : List α} :
    (∃ bs, as.mapM f = .ok bs) ↔ ∀ a ∈ as, ∃ b, f a = .ok b := by
  induction as with
  | nil => simp [pure, Except.pure]
  | cons a as ih =>
    simp only [List.mapM_cons, bind_eq_ok_iff, List.mem_cons, forall_eq_or_imp, ← ih]
    constructor
    · rintro ⟨-, b, hb, bs, hbs, -⟩
      exact ⟨⟨b, hb⟩, bs, hbs⟩
    · rintro ⟨⟨b, hb⟩, bs, hbs⟩
      exact ⟨b :: bs, b, hb, bs, hbs, rfl⟩

/-- A list is not mapped because of one of its elements. -/
theorem Except.exists_of_mapM_eq_error {f : α → Except ε β} {as : List α} {e : ε}
    (h : as.mapM f = .error e) : ∃ a ∈ as, f a = .error e := by
  induction as with
  | nil => cases h
  | cons a as ih =>
    rw [List.mapM_cons] at h
    cases hfirst : f a with
    | error e' =>
      rw [hfirst] at h
      cases h
      exact ⟨a, List.mem_cons_self, hfirst⟩
    | ok b =>
      cases hrest : as.mapM f with
      | error e' =>
        rw [hfirst, hrest] at h
        cases h
        obtain ⟨a', ha', hfound⟩ := ih hrest
        exact ⟨a', List.mem_cons_of_mem a ha', hfound⟩
      | ok bs =>
        rw [hfirst, hrest] at h
        cases h

/-- What a list is mapped to comes from its elements. -/
theorem Except.exists_of_mem_mapM {f : α → Except ε β} {as : List α} {bs : List β}
    (h : as.mapM f = .ok bs) {b : β} (hb : b ∈ bs) : ∃ a ∈ as, f a = .ok b := by
  induction as generalizing bs with
  | nil =>
    cases h
    exact absurd hb List.not_mem_nil
  | cons a as ih =>
    simp only [List.mapM_cons, bind_eq_ok_iff] at h
    obtain ⟨b', hb', bs', hbs', h⟩ := h
    cases h
    rcases List.mem_cons.1 hb with rfl | hb
    · exact ⟨a, List.mem_cons_self, hb'⟩
    · obtain ⟨a', ha', hfound⟩ := ih hbs' hb
      exact ⟨a', List.mem_cons_of_mem a ha', hfound⟩

end WorkloadAuth
