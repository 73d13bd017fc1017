import WorkloadAuth.Directory.Reconcile
import WorkloadAuth.Proofs.Run

/-!
# Verdicts of the directory

The comparison of an identity with the directory is decided by the records that look-ups find. Who
makes the look-ups, over which interface, and what is logged beside them plays no part.

* `Dialogue.Parallel`: two dialogues, over interfaces of their own, end alike, and their questions
  look alike; `Dialogue.Parallel.bind`: sequences of parallel dialogues.
* `Directory.parallel_reconcile`: the comparison is parallel to itself over any other interface.
* `Directory.verdict`, `Directory.sought`: the result of the comparison and the records that it
  looks up, as functions of the records that are found.
-/

namespace WorkloadAuth

/-! ## Parallel dialogues -/

namespace Dialogue

variable {I J : Interface.{0}} {ε α β σ τ ω : Type}

/-- Two dialogues have the same result, and what can be seen of their questions is the same,
whatever the states are when they start. -/
structure Parallel (answer : (question : I.Question) → σ → I.Answer question × σ)
    (answer' : (question : J.Question) → τ → J.Answer question × τ)
    (view : I.Question → Option ω) (view' : J.Question → Option ω)
    (p : ExceptT ε (Dialogue I) α) (q : ExceptT ε (Dialogue J) α) : Prop where
  outcome_eq : ∀ s t, outcome answer p s = outcome answer' q t
  seen_eq : ∀ s t, (p.run.asked answer s).filterMap view = (q.run.asked answer' t).filterMap view'

variable {answer : (question : I.Question) → σ → I.Answer question × σ}
  {answer' : (question : J.Question) → τ → J.Answer question × τ}
  {view : I.Question → Option ω} {view' : J.Question → Option ω}

/-- A run asks what its first part does, and then what the rest does if that succeeds. -/
theorem asked_run_bind (p : ExceptT ε (Dialogue I) α) (f : α → ExceptT ε (Dialogue I) β) (s : σ) :
    (p >>= f).run.asked answer s = p.run.asked answer s ++
      match outcome answer p s with
      | .ok a => (f a).run.asked answer (after answer p s)
      | .error _ => [] := by
  simp only [outcome, after, ExceptT.run_bind, asked_bind]
  cases (p.run.runWith answer s).1 <;> rfl

theorem Parallel.bind {p : ExceptT ε (Dialogue I) α} {q : ExceptT ε (Dialogue J) α}
    {f : α → ExceptT ε (Dialogue I) β} {g : α → ExceptT ε (Dialogue J) β}
    (h : Parallel answer answer' view view' p q)
    (hrest : ∀ a, Parallel answer answer' view view' (f a) (g a)) :
    Parallel answer answer' view view' (p >>= f) (q >>= g) := by
  constructor
  · intro s t
    rw [outcome_bind, outcome_bind, h.outcome_eq s t]
    cases outcome answer' q t with
    | error e => rfl
    | ok a => exact (hrest a).outcome_eq _ _
  · intro s t
    rw [asked_run_bind, asked_run_bind, List.filterMap_append, List.filterMap_append,
      h.seen_eq s t, h.outcome_eq s t]
    cases outcome answer' q t with
    | error e => rfl
    | ok a => exact congrArg _ ((hrest a).seen_eq _ _)

theorem Parallel.pure (a : α) :
    Parallel (ε := ε) answer answer' view view' (Pure.pure a) (Pure.pure a) :=
  ⟨fun _ _ => rfl, fun _ _ => rfl⟩

theorem Parallel.throw (e : ε) :
    Parallel (ε := ε) (α := α) answer answer' view view' (MonadExcept.throw e)
      (MonadExcept.throw e) :=
  ⟨fun _ _ => rfl, fun _ _ => rfl⟩

end Dialogue

/-! ## The comparison with the directory -/

namespace Directory

open Dialogue

variable {I J : Interface.{0}} {σ τ ω : Type}
  {answer : (question : I.Question) → σ → I.Answer question × σ}
  {answer' : (question : J.Question) → τ → J.Answer question × τ}
  {view : I.Question → Option ω} {view' : J.Question → Option ω}

theorem parallel_agree (record : RecordKind) (field claimed actual : String) :
    Parallel answer answer' view view' (agree record field claimed actual)
      (agree record field claimed actual) := by
  unfold agree
  split
  · exact .pure ()
  · exact .throw _

/-- Two ways to reach a directory find the same records, and neither the look-ups nor what is
logged can be told apart. -/
structure SameRecords (answer : (question : I.Question) → σ → I.Answer question × σ)
    (answer' : (question : J.Question) → τ → J.Answer question × τ)
    (view : I.Question → Option ω) (view' : J.Question → Option ω)
    (access : Access I) (access' : Access J) : Prop where
  lookUp : ∀ kind id, Parallel answer answer' view view' (ExceptT.mk (access.lookUp kind id))
    (ExceptT.mk (access'.lookUp kind id))
  log : ∀ record record', Parallel (ε := Failure) answer answer' view view'
    (ExceptT.lift (access.log record)) (ExceptT.lift (access'.log record'))

theorem parallel_find {access : Access I} {access' : Access J}
    (h : SameRecords answer answer' view view' access access') (kind : RecordKind) (id : String) :
    Parallel answer answer' view view' (find access kind id) (find access' kind id) := by
  have hfound s t : ((access.lookUp kind id).runWith answer s).1 =
      ((access'.lookUp kind id).runWith answer' t).1 := (h.lookUp kind id).outcome_eq s t
  have hseen s t : ((access.lookUp kind id).asked answer s).filterMap view =
      ((access'.lookUp kind id).asked answer' t).filterMap view' := (h.lookUp kind id).seen_eq s t
  constructor
  · intro s t
    simp only [find, outcome_mk, runWith_bind, hfound s t]
    cases ((access'.lookUp kind id).runWith answer' t).1 <;> rfl
  · intro s t
    simp only [find, ExceptT.run_mk, asked_bind, List.filterMap_append, hfound s t, hseen s t]
    cases ((access'.lookUp kind id).runWith answer' t).1 <;> rfl

/-- The comparison depends on the records that are found. -/
theorem parallel_reconcile {access : Access I} {access' : Access J}
    (h : SameRecords answer answer' view view' access access') (context context' : Log.Context)
    (i : Identity) :
    Parallel answer answer' view view' (reconcile access context i)
      (reconcile access' context' i) := by
  have hfind := parallel_find h
  refine (hfind ..).bind fun inst => (parallel_agree ..).bind fun _ => ?_
  refine (parallel_agree ..).bind fun _ => (hfind ..).bind fun app => ?_
  refine (parallel_agree ..).bind fun _ => (parallel_agree ..).bind fun _ => ?_
  by_cases hruns : app.instances = 0
  · simp only [hruns, if_true]
    exact .throw _
  · simp only [hruns, if_false]
    refine (hfind ..).bind fun org => (parallel_agree ..).bind fun _ => ?_
    refine (hfind ..).bind fun space => (parallel_agree ..).bind fun _ => ?_
    exact (parallel_agree ..).bind fun _ => h.log ..

/-! ## Verdicts -/

/-- The look-ups of records, which are found by a kind and an identifier. -/
@[reducible] def records : Interface := ⟨RecordKind × String, fun q => Found q.1⟩

/-- How records are looked up where nothing is logged. -/
def Access.records : Access records where
  lookUp kind id := .perform (I := Directory.records) (kind, id)
  log _ := pure ()

/-- The answers of a directory that holds some records. -/
def answers (lookUp : (kind : RecordKind) → String → Found kind) (q : records.Question)
    (s : Unit) : records.Answer q × Unit := (lookUp q.1 q.2, s)

/-- The result of the comparison of an identity with some records. -/
def verdict (lookUp : (kind : RecordKind) → String → Found kind) (i : Identity) :
    Except Failure Unit :=
  outcome (answers lookUp) (reconcile .records .root i) ()

/-- The records that the comparison looks up, in order. -/
def sought (lookUp : (kind : RecordKind) → String → Found kind) (i : Identity) :
    List (RecordKind × String) :=
  (reconcile .records .root i).run.asked (answers lookUp) ()

end Directory

end WorkloadAuth
