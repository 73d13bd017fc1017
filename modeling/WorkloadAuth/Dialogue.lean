/-!
# Dialogues

A dialogue is a computation that asks its surroundings questions and goes on with their answers.
What it may ask is an interface. The dialogue itself is pure: the questions of a run are determined
by the answers so far, whoever gives them.

* `Interface`: questions, with the type of answers to each.
* `Dialogue`: the computations over an interface, as a lawful monad.
* `Dialogue.perform`: the dialogue of a single question.
* `Dialogue.run`: a run in a monad that answers questions.
* `Dialogue.runWith`: a run against a state, which answers questions and changes with them.
-/

namespace WorkloadAuth

universe u v

/-- Questions, and the type of answers to each of them. -/
structure Interface where
  Question : Type u
  Answer : Question → Type

/-- A computation that may ask the questions of an interface. -/
inductive Dialogue (I : Interface.{u}) (α : Type v) where
  /-- The computation has ended. -/
  | done (a : α)
  /-- The computation goes on with the answer to a question. -/
  | ask (question : I.Question) (next : I.Answer question → Dialogue I α)

namespace Dialogue

variable {I : Interface.{u}} {α β γ : Type}

/-- Goes on with the result of a dialogue. -/
def bind : Dialogue I α → (α → Dialogue I β) → Dialogue I β
  | done a, f => f a
  | ask question next, f => ask question fun answer => (next answer).bind f

instance : Monad (Dialogue I) where
  pure := done
  bind := bind

@[simp] theorem done_bind (a : α) (f : α → Dialogue I β) : (done a).bind f = f a := rfl

theorem bind_done (p : Dialogue I α) : p.bind done = p := by
  induction p with
  | done => rfl
  | ask question next ih => simp only [bind, ih]

theorem bind_bind (p : Dialogue I α) (f : α → Dialogue I β) (g : β → Dialogue I γ) :
    (p.bind f).bind g = p.bind fun a => (f a).bind g := by
  induction p with
  | done => rfl
  | ask question next ih => simp only [bind, ih]

instance : LawfulMonad (Dialogue I) :=
  LawfulMonad.mk' (Dialogue I) bind_done (fun _ _ => rfl) bind_bind

/-- Asks a single question. -/
def perform (question : I.Question) : Dialogue I (I.Answer question) := ask question done

/-- Runs a dialogue in a monad that answers its questions. -/
def run {m : Type → Type} [Monad m] (answer : (question : I.Question) → m (I.Answer question)) :
    Dialogue I α → m α
  | done a => pure a
  | ask question next => do
    let a ← answer question
    (next a).run answer

/-- Runs a dialogue against a state that answers its questions. -/
def runWith {σ : Type} (answer : (question : I.Question) → σ → I.Answer question × σ) :
    Dialogue I α → σ → α × σ
  | done a, s => (a, s)
  | ask question next, s =>
    let (a, s) := answer question s
    (next a).runWith answer s

end Dialogue

end WorkloadAuth
