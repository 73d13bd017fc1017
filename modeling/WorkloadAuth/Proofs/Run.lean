import WorkloadAuth.Dialogue

/-!
# Runs of dialogues

How a run of a dialogue against a state follows from the runs of its parts.

* `Dialogue.runWith_bind`: a run goes on where the run of the first part ends.
* `Dialogue.asked`: the questions of a run, in order; `Dialogue.asked_bind`.
* `Dialogue.outcome`: the result of a run that may fail; `Dialogue.outcome_bind_eq_ok_iff`: it
  succeeds if and only if all parts do.
-/

namespace WorkloadAuth.Dialogue

variable {I : Interface.{0}} {ε α β σ : Type}
variable (answer : (question : I.Question) → σ → I.Answer question × σ)

/-! ## Results and states -/

@[simp] theorem runWith_pure (a : α) (s : σ) :
    (pure a : Dialogue I α).runWith answer s = (a, s) := rfl

@[simp] theorem runWith_perform (q : I.Question) (s : σ) :
    (perform q).runWith answer s = answer q s := rfl

@[simp] theorem runWith_bind (p : Dialogue I α) (f : α → Dialogue I β) (s : σ) :
    (p >>= f).runWith answer s =
      (f (p.runWith answer s).1).runWith answer (p.runWith answer s).2 := by
  change (p.bind f).runWith answer s = _
  induction p generalizing s with
  | done a => rfl
  | ask q next ih => exact ih _ _

@[simp] theorem runWith_map (f : α → β) (p : Dialogue I α) (s : σ) :
    (f <$> p).runWith answer s = (f (p.runWith answer s).1, (p.runWith answer s).2) := by
  rw [← bind_pure_comp, runWith_bind]
  rfl

/-! ## Questions -/

/-- The questions of a run, in order. -/
def asked : Dialogue I α → σ → List I.Question
  | done _, _ => []
  | ask q next, s => q :: (next (answer q s).1).asked (answer q s).2

@[simp] theorem asked_pure (a : α) (s : σ) : (pure a : Dialogue I α).asked answer s = [] := rfl

@[simp] theorem asked_perform (q : I.Question) (s : σ) : (perform q).asked answer s = [q] := rfl

@[simp] theorem asked_bind (p : Dialogue I α) (f : α → Dialogue I β) (s : σ) :
    (p >>= f).asked answer s =
      p.asked answer s ++ (f (p.runWith answer s).1).asked answer (p.runWith answer s).2 := by
  change (p.bind f).asked answer s = _
  induction p generalizing s with
  | done a => rfl
  | ask q next ih => exact congrArg (q :: ·) (ih _ _)

@[simp] theorem asked_map (f : α → β) (p : Dialogue I α) (s : σ) :
    (f <$> p).asked answer s = p.asked answer s := by
  rw [← bind_pure_comp, asked_bind]
  exact List.append_nil _

/-! ## Dialogues that may fail -/

/-- The result of a run that may fail. -/
def outcome (p : ExceptT ε (Dialogue I) α) (s : σ) : Except ε α := (p.run.runWith answer s).1

/-- The state after a run that may fail. -/
def after (p : ExceptT ε (Dialogue I) α) (s : σ) : σ := (p.run.runWith answer s).2

@[simp] theorem outcome_pure (a : α) (s : σ) :
    outcome answer (pure a : ExceptT ε (Dialogue I) α) s = .ok a := rfl

@[simp] theorem outcome_throw (e : ε) (s : σ) :
    outcome answer (throw e : ExceptT ε (Dialogue I) α) s = .error e := rfl

@[simp] theorem outcome_mk (p : Dialogue I (Except ε α)) (s : σ) :
    outcome answer (ExceptT.mk p) s = (p.runWith answer s).1 := rfl

@[simp] theorem outcome_lift (p : Dialogue I α) (s : σ) :
    outcome answer (ExceptT.lift p : ExceptT ε (Dialogue I) α) s =
      .ok (p.runWith answer s).1 := by
  simp [outcome]

/-- A step with a known result asks nothing. -/
theorem mk_pure_ok (a : α) :
    (ExceptT.mk (pure (.ok a)) : ExceptT ε (Dialogue I) α) = pure a := rfl

/-- A run goes on after its first part only if that succeeds. -/
theorem outcome_bind (p : ExceptT ε (Dialogue I) α) (f : α → ExceptT ε (Dialogue I) β) (s : σ) :
    outcome answer (p >>= f) s =
      (outcome answer p s).bind fun a => outcome answer (f a) (after answer p s) := by
  simp only [outcome, after, ExceptT.run_bind, runWith_bind]
  cases (p.run.runWith answer s).1 <;> rfl

theorem outcome_map (f : α → β) (p : ExceptT ε (Dialogue I) α) (s : σ) :
    outcome answer (f <$> p) s = (outcome answer p s).map f := by
  simp only [outcome, ExceptT.run_map, runWith_map]

/-- A run succeeds if and only if its first part does and the rest does with its result. -/
theorem outcome_bind_eq_ok_iff {p : ExceptT ε (Dialogue I) α}
    {f : α → ExceptT ε (Dialogue I) β} {s : σ} {b : β} :
    outcome answer (p >>= f) s = .ok b ↔
      ∃ a, outcome answer p s = .ok a ∧ outcome answer (f a) (after answer p s) = .ok b := by
  rw [outcome_bind]
  cases outcome answer p s <;> simp [Except.bind]

/-- A run with a guard in front succeeds if and only if the guard lets it pass and the rest
succeeds. -/
theorem outcome_guard_eq_ok_iff {c : Prop} [Decidable c] {e : ε} {γ : Type}
    {f : γ → ExceptT ε (Dialogue I) α} {p : ExceptT ε (Dialogue I) α} {s : σ} {a : α} :
    outcome answer (if c then throw e >>= f else p) s = .ok a ↔
      ¬c ∧ outcome answer p s = .ok a := by
  by_cases h : c <;> simp [h]

end WorkloadAuth.Dialogue
