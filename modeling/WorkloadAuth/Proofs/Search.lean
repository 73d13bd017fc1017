import WorkloadAuth.Chain.Budget
import WorkloadAuth.Chain.Der

/-!
# Readers and searches

What a reader has read, and what a search has found, if it succeeds.

* `Reader.bind_eq_ok_iff`, `Reader.bind_of_ok`, `Reader.bind_of_error`, `Reader.whole_eq_ok_iff`:
  the parts of a reader.
* `Reader.length_lt_of_expect`: what an element takes.
* `Yields`: a search has a result with some budget.
* `Yields.of_run_bind`, `Yields.of_bind`, `Yields.of_firstOf`, `Yields.of_forIn`: the parts of a
  search.
* `firstOf_congr`: alternatives that are alike.
-/

namespace WorkloadAuth.Chain

variable {α β : Type}

/-! ## Readers -/

namespace Reader

theorem bind_eq_ok_iff {p : Reader α} {f : α → Reader β} {bytes rest : List UInt8} {b : β} :
    (p >>= f) bytes = .ok (b, rest) ↔
      ∃ a between, p bytes = .ok (a, between) ∧ f a between = .ok (b, rest) := by
  change (p bytes).bind (fun found => f found.1 found.2) = .ok (b, rest) ↔ _
  cases p bytes with
  | error fault => simp [Except.bind]
  | ok found =>
    constructor
    · exact fun h => ⟨found.1, found.2, rfl, h⟩
    · rintro ⟨a, between, ⟨⟩, h⟩
      exact h

theorem bind_of_ok {p : Reader α} {bytes rest : List UInt8} {a : α}
    (h : p bytes = .ok (a, rest)) (f : α → Reader β) : (p >>= f) bytes = f a rest := by
  change (p bytes).bind (fun found => f found.1 found.2) = _
  rw [h]
  rfl

theorem bind_of_error {p : Reader α} {bytes : List UInt8} {fault : Fault}
    (h : p bytes = .error fault) (f : α → Reader β) : (p >>= f) bytes = .error fault := by
  change (p bytes).bind (fun found => f found.1 found.2) = _
  rw [h]
  rfl

theorem pure_eq_ok_iff {a a' : α} {bytes rest : List UInt8} :
    (pure a : Reader α) bytes = .ok (a', rest) ↔ a = a' ∧ bytes = rest := by
  change Except.ok (a, bytes) = .ok (a', rest) ↔ _
  simp

theorem fail_ne_ok {fault : Fault} {bytes : List UInt8} {found : α × List UInt8} :
    (fail fault : Reader α) bytes ≠ .ok found := nofun

theorem whole_eq_ok_iff {leftover : Fault} {p : Reader α} {bytes : List UInt8} {a : α} :
    whole leftover p bytes = .ok a ↔ p bytes = .ok (a, []) := by
  change (p bytes).bind (fun found => if found.2.isEmpty then .ok found.1 else .error leftover) =
    .ok a ↔ _
  cases p bytes with
  | error fault => simp [Except.bind]
  | ok found =>
    obtain ⟨a', rest⟩ := found
    cases rest <;> simp [Except.bind]

theorem length_lt_of_length? {bytes rest : List UInt8} {size : Nat}
    (h : length? bytes = some (size, rest)) : rest.length < bytes.length := by
  cases bytes with
  | nil => cases h
  | cons n more =>
    simp only [length?] at h
    split at h
    · cases h
      simp
    split at h
    · rcases more with - | ⟨a, more⟩
      · cases h
      · simp only [Option.ite_none_left_eq_some, Option.some.injEq, Prod.mk.injEq] at h
        obtain ⟨-, -, rfl⟩ := h
        simp only [List.length_cons]
        omega
    split at h
    · rcases more with - | ⟨a, - | ⟨b, more⟩⟩
      · cases h
      · cases h
      · simp only [Option.ite_none_left_eq_some, Option.some.injEq, Prod.mk.injEq] at h
        obtain ⟨-, -, rfl⟩ := h
        simp only [List.length_cons]
        omega
    · cases h

theorem length_lt_of_element? {bytes rest : List UInt8} {found : UInt8 × List UInt8}
    (h : element? bytes = some (found, rest)) : rest.length < bytes.length := by
  cases bytes with
  | nil => cases h
  | cons tag more =>
    simp only [element?] at h
    split at h
    · cases h
    cases hlength : length? more with
    | none => simp [hlength] at h
    | some sized =>
      obtain ⟨size, after⟩ := sized
      simp only [hlength, Option.ite_none_right_eq_some, Option.some.injEq, Prod.mk.injEq] at h
      obtain ⟨-, -, rfl⟩ := h
      have hafter := length_lt_of_length? hlength
      simp only [List.length_drop, List.length_cons]
      omega

/-- An element takes some octets. -/
theorem length_lt_of_expect {tag : Tag} {bytes content rest : List UInt8}
    (h : expect tag bytes = .ok (content, rest)) : rest.length < bytes.length := by
  obtain ⟨⟨found, content'⟩, between, hfound, h⟩ := bind_eq_ok_iff.1 h
  simp only at h
  split at h
  · obtain ⟨-, rfl⟩ := pure_eq_ok_iff.1 h
    cases helement : element? bytes with
    | none => simp [element, helement] at hfound
    | some found' =>
      simp only [element, helement] at hfound
      cases hfound
      exact length_lt_of_element? helement
  · exact absurd h fail_ne_ok

end Reader

/-! ## Searches -/

/-- A search has a result if it may use some budget. -/
def Yields (p : Search α) (a : α) : Prop := ∃ budget, (p.run budget).1 = .ok a

/-- A search that goes on after another one, whether that succeeds or not. -/
theorem Yields.of_run_bind {p : Search α} {next : Except Fault α → StateM Budget (Except Fault β)}
    {b : β} (h : Yields (ExceptT.mk (p.run >>= next)) b) :
    (∃ a, Yields p a ∧ Yields (ExceptT.mk (next (.ok a))) b) ∨
      ∃ fault, Yields (ExceptT.mk (next (.error fault))) b := by
  obtain ⟨budget, h⟩ := h
  change (StateT.bind p.run next budget).1 = Except.ok b at h
  unfold StateT.bind at h
  generalize hp : p.run budget = found at h
  obtain ⟨fault | a, budget'⟩ := found
  · exact .inr ⟨fault, budget', h⟩
  · exact .inl ⟨a, ⟨budget, congrArg Prod.fst hp⟩, budget', h⟩

theorem Yields.of_bind {p : Search α} {f : α → Search β} {b : β} (h : Yields (p >>= f) b) :
    ∃ a, Yields p a ∧ Yields (f a) b := by
  change Yields (ExceptT.mk (p.run >>= ExceptT.bindCont f)) b at h
  obtain ⟨a, ha, hb⟩ | ⟨fault, budget, hfault⟩ := h.of_run_bind
  · exact ⟨a, ha, hb⟩
  · cases hfault

theorem Yields.of_pure {a a' : α} (h : Yields (pure a) a') : a' = a := by
  obtain ⟨budget, h⟩ := h
  cases h
  rfl

theorem not_yields_throw {fault : Fault} {a : α} : ¬Yields (throw fault) a := by
  rintro ⟨budget, h⟩
  cases h

theorem Yields.of_ofExcept {x : Except Fault α} {a : α} (h : Yields (ofExcept x) a) :
    x = .ok a := by
  obtain ⟨budget, h⟩ := h
  exact h

/-- A search of alternatives finds what one of them does. -/
theorem Yields.of_firstOf {step : α → Search β} {fault : Fault} {as : List α} {b : β}
    (h : Yields (firstOf step fault as) b) : ∃ a ∈ as, Yields (step a) b := by
  induction as generalizing fault with
  | nil => exact absurd h not_yields_throw
  | cons a rest ih =>
    obtain ⟨b', hb', budget, hb⟩ | ⟨fault', h⟩ := h.of_run_bind
    · cases hb
      exact ⟨a, List.mem_cons_self, hb'⟩
    · -- The alternative failed: unless its fault ends the search, the others are tried.
      simp only at h
      split at h
      · exact absurd h not_yields_throw
      · obtain ⟨a', ha', hfound⟩ := ih h
        exact ⟨a', List.mem_cons_of_mem a ha', hfound⟩

/-- Alternatives that are alike one by one. -/
theorem firstOf_congr {step step' : α → Search β} {as : List α}
    (h : ∀ a ∈ as, step a = step' a) (fault : Fault) :
    firstOf step fault as = firstOf step' fault as := by
  induction as generalizing fault with
  | nil => rfl
  | cons a rest ih =>
    simp only [firstOf, h a List.mem_cons_self,
      ih fun b hb => h b (List.mem_cons_of_mem a hb)]

/-- A loop that always goes on to the next element goes over all of them. -/
theorem Yields.of_forIn {as : List α} {body : α → PUnit → Search (ForInStep PUnit)} {u : PUnit}
    (h : Yields (forIn as PUnit.unit body) u)
    (hbody : ∀ a step, Yields (body a PUnit.unit) step → step = .yield PUnit.unit) :
    ∀ a ∈ as, Yields (body a PUnit.unit) (.yield PUnit.unit) := by
  induction as with
  | nil => exact fun a ha => absurd ha List.not_mem_nil
  | cons first rest ih =>
    rw [List.forIn_cons] at h
    obtain ⟨step, hfirst, h⟩ := h.of_bind
    obtain rfl := hbody first step hfirst
    intro a ha
    rcases List.mem_cons.1 ha with rfl | ha
    · exact hfirst
    · exact ih h a ha

end WorkloadAuth.Chain
