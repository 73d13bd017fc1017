import WorkloadAuth.Proofs.Compositional

/-!
# Transcripts of dialogues

A dialogue that is answered one question at a time leaves a transcript. What it asks and how it ends
can be read off there, whoever gives the answers and whatever happens in between.

* `Answered`, `Dialogue.Follows`: answered questions, and what is left of a dialogue behind them.
* `Dialogue.Follows.of_bind`: the transcript of a sequence is that of its parts.
* `Dialogue.transcript`: the transcript of a run, where moments play no part.
* `Dialogue.Only`: all answered questions of a dialogue have a property.
* `Dialogue.AtMost`: how many answered questions of a kind a dialogue has.
-/

namespace WorkloadAuth

/-- A question with its answer, and the moment at which it was answered. -/
structure Answered (I : Interface.{0}) where
  moment : Nat
  question : I.Question
  answer : I.Answer question

namespace Dialogue

variable {I : Interface.{0}} {ε α β γ : Type}

/-- Some answered questions lead from a dialogue to what is left of it. -/
inductive Follows : Dialogue I α → List (Answered I) → Dialogue I α → Prop where
  | nil (p : Dialogue I α) : Follows p [] p
  | cons (x : Answered I) {next : I.Answer x.question → Dialogue I α} {steps : List (Answered I)}
      {rest : Dialogue I α} : Follows (next x.answer) steps rest →
      Follows (.ask x.question next) (x :: steps) rest

/-! ## Steps -/

/-- One more question is answered. -/
theorem Follows.concat {p : Dialogue I α} {steps : List (Answered I)} {q : I.Question}
    {next : I.Answer q → Dialogue I α} (h : Follows p steps (.ask q next)) (moment : Nat)
    (a : I.Answer q) : Follows p (steps ++ [⟨moment, q, a⟩]) (next a) := by
  generalize hrest : Dialogue.ask q next = rest at h
  induction h with
  | nil p =>
    subst hrest
    exact .cons ⟨moment, q, a⟩ (.nil _)
  | cons x _ ih => exact .cons x (ih hrest)

theorem follows_done {a : α} {steps : List (Answered I)} {rest : Dialogue I α}
    (h : Follows (.done a) steps rest) : steps = [] ∧ rest = .done a := by
  cases h
  exact ⟨rfl, rfl⟩

/-- A single question is not answered yet, or it is all that is asked. -/
theorem follows_perform {q : I.Question} {steps : List (Answered I)}
    {rest : Dialogue I (I.Answer q)} (h : Follows (perform q) steps rest) :
    steps = [] ∨ ∃ moment a, steps = [⟨moment, q, a⟩] ∧ rest = .done a := by
  cases h with
  | nil => exact .inl rfl
  | cons x h =>
    obtain ⟨rfl, rfl⟩ := follows_done h
    exact .inr ⟨x.moment, x.answer, rfl, rfl⟩

/-- The transcript of a sequence belongs to its first part, or that part has ended and the rest of
the transcript belongs to what follows it. -/
theorem Follows.of_bind {p : Dialogue I α} {f : α → Dialogue I β} {steps : List (Answered I)}
    {rest : Dialogue I β} (h : Follows (p >>= f) steps rest) :
    (∃ left, Follows p steps left ∧ rest = left >>= f) ∨
      ∃ first last a, steps = first ++ last ∧ Follows p first (.done a) ∧
        Follows (f a) last rest := by
  induction p generalizing steps with
  | done a => exact .inr ⟨[], steps, a, rfl, .nil _, h⟩
  | ask q next ih =>
    change Follows (.ask q fun a => next a >>= f) steps rest at h
    cases h with
    | nil => exact .inl ⟨.ask q next, .nil _, rfl⟩
    | cons x h =>
      rcases ih _ h with ⟨left, hleft, rfl⟩ | ⟨first, last, a, rfl, hfirst, hlast⟩
      · exact .inl ⟨left, .cons x hleft, rfl⟩
      · exact .inr ⟨x :: first, last, a, rfl, .cons x hfirst, hlast⟩

/-- A sequence that has ended. -/
theorem Follows.of_bind_done {p : Dialogue I α} {f : α → Dialogue I β} {steps : List (Answered I)}
    {b : β} (h : Follows (p >>= f) steps (.done b)) :
    ∃ first last a, steps = first ++ last ∧ Follows p first (.done a) ∧
      Follows (f a) last (.done b) := by
  rcases h.of_bind with ⟨left, hleft, hrest⟩ | hboth
  · cases left with
    | done a => exact ⟨steps, [], a, (List.append_nil _).symm, hleft, hrest ▸ .nil _⟩
    | ask q next => cases hrest
  · exact hboth

/-- A sequence that has succeeded. -/
theorem Follows.of_bind_ok {p : ExceptT ε (Dialogue I) α} {f : α → ExceptT ε (Dialogue I) β}
    {steps : List (Answered I)} {b : β} (h : Follows (p >>= f).run steps (.done (.ok b))) :
    ∃ first last a, steps = first ++ last ∧ Follows p.run first (.done (.ok a)) ∧
      Follows (f a).run last (.done (.ok b)) := by
  obtain ⟨first, last, result, rfl, hfirst, hlast⟩ := Follows.of_bind_done h
  cases result with
  | error e =>
    obtain ⟨-, hlast⟩ := follows_done hlast
    cases hlast
  | ok a => exact ⟨first, last, a, rfl, hfirst, hlast⟩

theorem Follows.of_lift {p : Dialogue I α} {steps : List (Answered I)} {a : α}
    (h : Follows (ExceptT.lift p : ExceptT ε (Dialogue I) α).run steps (.done (.ok a))) :
    Follows p steps (.done a) := by
  obtain ⟨first, last, a', rfl, hfirst, hlast⟩ := Follows.of_bind_done h
  obtain ⟨rfl, hlast⟩ := follows_done hlast
  cases hlast
  rwa [List.append_nil]

/-! ## Runs -/

/-- The transcript of a run against a state. -/
def transcript {σ : Type} (answer : (question : I.Question) → σ → I.Answer question × σ) :
    Dialogue I α → σ → List (Answered I)
  | .done _, _ => []
  | .ask q next, s =>
    ⟨0, q, (answer q s).1⟩ :: (next (answer q s).1).transcript answer (answer q s).2

/-- A run is followed to its end. -/
theorem follows_transcript {σ : Type}
    (answer : (question : I.Question) → σ → I.Answer question × σ) (p : Dialogue I α) (s : σ) :
    Follows p (p.transcript answer s) (.done (p.runWith answer s).1) := by
  induction p generalizing s with
  | done a => exact .nil _
  | ask q next ih => exact .cons ⟨0, q, (answer q s).1⟩ (ih _ _)

/-! ## What is asked -/

/-- All answered questions of a dialogue have a property. -/
def Only (P : Answered I → Prop) (p : Dialogue I α) : Prop :=
  ∀ steps rest, Follows p steps rest → ∀ x ∈ steps, P x

variable {P : Answered I → Prop}

theorem only_done (a : α) : Only P (.done a) := by
  intro steps rest h x hx
  obtain ⟨rfl, -⟩ := follows_done h
  cases hx

theorem only_perform {q : I.Question} (h : ∀ moment a, P ⟨moment, q, a⟩) :
    Only P (perform q) := by
  intro steps rest hfollows x hx
  rcases follows_perform hfollows with rfl | ⟨moment, a, rfl, -⟩
  · cases hx
  · rw [List.mem_singleton.1 hx]
    exact h moment a

theorem Only.bind {p : Dialogue I α} {f : α → Dialogue I β} (h : Only P p)
    (hrest : ∀ a, Only P (f a)) : Only P (p >>= f) := by
  intro steps rest hfollows x hx
  rcases hfollows.of_bind with ⟨left, hleft, -⟩ | ⟨first, last, a, rfl, hfirst, hlast⟩
  · exact h steps left hleft x hx
  · rcases List.mem_append.1 hx with hx | hx
    · exact h first _ hfirst x hx
    · exact hrest a last rest hlast x hx

theorem Only.map {p : Dialogue I α} (h : Only P p) (f : α → β) : Only P (f <$> p) := by
  rw [← bind_pure_comp]
  exact h.bind fun a => only_done (f a)

theorem compositional_only (P : Answered I → Prop) : Compositional fun p => Only P p.run where
  pure a := only_done (Except.ok a)
  throw failure := only_done (Except.error failure)
  bind := by
    intro α β p f h hrest
    refine Only.bind h fun result => ?_
    cases result with
    | error failure => exact only_done _
    | ok a => exact hrest a
  mapError change h := h.map _

/-- A dialogue has at most some answered questions of a kind. -/
def AtMost (kind : I.Question → Bool) (n : Nat) (p : Dialogue I α) : Prop :=
  ∀ steps rest, Follows p steps rest → steps.countP (fun x => kind x.question) ≤ n

variable {kind : I.Question → Bool} {n m : Nat}

theorem atMost_done (a : α) : AtMost kind n (.done a) := by
  intro steps rest h
  obtain ⟨rfl, -⟩ := follows_done h
  exact Nat.zero_le n

theorem atMost_zero {p : Dialogue I α} (h : Only (fun x => kind x.question = false) p) :
    AtMost kind 0 p := by
  intro steps rest hfollows
  refine Nat.le_of_eq (List.countP_eq_zero.2 fun x hx => ?_)
  rw [h steps rest hfollows x hx]
  exact Bool.false_ne_true

theorem atMost_perform (q : I.Question) : AtMost kind 1 (perform q) := by
  intro steps rest h
  rcases follows_perform h with rfl | ⟨moment, a, rfl, -⟩
  · exact Nat.zero_le 1
  · exact List.countP_le_length

theorem AtMost.bind {p : Dialogue I α} {f : α → Dialogue I β} (h : AtMost kind n p)
    (hrest : ∀ a, AtMost kind m (f a)) : AtMost kind (n + m) (p >>= f) := by
  intro steps rest hfollows
  rcases hfollows.of_bind with ⟨left, hleft, -⟩ | ⟨first, last, a, rfl, hfirst, hlast⟩
  · exact Nat.le_add_right_of_le (h steps left hleft)
  · rw [List.countP_append]
    exact Nat.add_le_add (h first _ hfirst) (hrest a last rest hlast)

/-- Nothing of a kind is asked before the rest of a dialogue. -/
theorem Only.bind_atMost {p : Dialogue I α} {f : α → Dialogue I β}
    (h : Only (fun x => kind x.question = false) p) (hrest : ∀ a, AtMost kind n (f a)) :
    AtMost kind n (p >>= f) := by
  rw [← Nat.zero_add n]
  exact (atMost_zero h).bind hrest

theorem AtMost.map {p : Dialogue I α} (h : AtMost kind n p) (f : α → β) :
    AtMost kind n (f <$> p) := by
  rw [← bind_pure_comp]
  exact AtMost.bind (m := 0) h fun a => atMost_done (f a)

/-- A sequence that goes on only if its first part succeeds. -/
theorem AtMost.bind_run {p : ExceptT ε (Dialogue I) α} {f : α → ExceptT ε (Dialogue I) β}
    (h : AtMost kind n p.run) (hrest : ∀ a, AtMost kind m (f a).run) :
    AtMost kind (n + m) (p >>= f).run := by
  refine AtMost.bind h fun result => ?_
  cases result with
  | error e => exact atMost_done _
  | ok a => exact hrest a

theorem Only.bind_run_atMost {p : ExceptT ε (Dialogue I) α} {f : α → ExceptT ε (Dialogue I) β}
    (h : Only (fun x => kind x.question = false) p.run) (hrest : ∀ a, AtMost kind n (f a).run) :
    AtMost kind n (p >>= f).run := by
  rw [← Nat.zero_add n]
  exact (atMost_zero h).bind_run hrest

end Dialogue

end WorkloadAuth
