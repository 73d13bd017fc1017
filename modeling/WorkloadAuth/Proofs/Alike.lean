import WorkloadAuth.Proofs.World

/-!
# Alike dialogues

Two dialogues of an engine are alike in a world if they have the same result and look the same
records up, whatever the states of the world are when they start, and whatever they log. So nothing
but the matcher, the stores and the directory decides on them.

* `Inquiry.lookUps`: the look-ups among some questions.
* `World.Alike`, `World.Alike.bind`: the relation, and sequences of alike dialogues.
* `World.alike_findRole`, `World.alike_validate`: the shared checks of an engine, in any two
  contexts.
-/

namespace WorkloadAuth

open Directory Dialogue

/-- The look-ups among some questions, in order. -/
def Inquiry.lookUps {Client : Type} :
    List (Inquiry Client) → List (Client × RecordKind × String)
  | [] => []
  | .lookUp client kind id :: rest => (client, kind, id) :: lookUps rest
  | _ :: rest => lookUps rest

theorem Inquiry.lookUps_append {Client : Type} (qs rest : List (Inquiry Client)) :
    lookUps (qs ++ rest) = lookUps qs ++ lookUps rest := by
  induction qs with
  | nil => rfl
  | cons q qs ih => cases q <;> simp [lookUps, ih]

namespace World

variable {Client σ α β : Type} (w : World Client σ)

/-- The records that a run looks up. -/
def lookedUp (p : ExceptT Failure (Dialogue (Inquiry.interface Client)) α) (s : σ) :
    List (Client × RecordKind × String) := Inquiry.lookUps (p.run.asked w.answer s)

/-- A run looks up what its first part does, and then what the rest does if that succeeds. -/
theorem lookedUp_bind (p : ExceptT Failure (Dialogue (Inquiry.interface Client)) α)
    (f : α → ExceptT Failure (Dialogue (Inquiry.interface Client)) β) (s : σ) :
    w.lookedUp (p >>= f) s = w.lookedUp p s ++
      match outcome w.answer p s with
      | .ok a => w.lookedUp (f a) (after w.answer p s)
      | .error _ => [] := by
  simp only [lookedUp, outcome, after, ExceptT.run_bind, asked_bind, Inquiry.lookUps_append]
  cases (p.run.runWith w.answer s).1 <;> rfl

theorem lookedUp_map (f : α → β) (p : ExceptT Failure (Dialogue (Inquiry.interface Client)) α)
    (s : σ) : w.lookedUp (f <$> p) s = w.lookedUp p s := by
  simp only [lookedUp, ExceptT.run_map, asked_map]

/-- Two dialogues have the same result and look the same records up. -/
structure Alike (p q : ExceptT Failure (Dialogue (Inquiry.interface Client)) α) : Prop where
  outcome_eq : ∀ s s', outcome w.answer p s = outcome w.answer q s'
  lookedUp_eq : ∀ s s', w.lookedUp p s = w.lookedUp q s'

variable {w}

/-- Sequences are alike if their parts are, where the first part may only have some results. -/
theorem Alike.bind_of_outcome {p q : ExceptT Failure (Dialogue (Inquiry.interface Client)) α}
    {f g : α → ExceptT Failure (Dialogue (Inquiry.interface Client)) β} (h : w.Alike p q)
    (hrest : ∀ s a, outcome w.answer q s = .ok a → w.Alike (f a) (g a)) :
    w.Alike (p >>= f) (q >>= g) := by
  constructor
  · intro s s'
    rw [outcome_bind, outcome_bind, h.outcome_eq s s']
    cases hq : outcome w.answer q s' with
    | error e => rfl
    | ok a => exact (hrest s' a hq).outcome_eq _ _
  · intro s s'
    rw [lookedUp_bind, lookedUp_bind, h.outcome_eq s s', h.lookedUp_eq s s']
    cases hq : outcome w.answer q s' with
    | error e => rfl
    | ok a => exact congrArg _ ((hrest s' a hq).lookedUp_eq _ _)

/-- Sequences are alike if their parts are. -/
theorem Alike.bind {p q : ExceptT Failure (Dialogue (Inquiry.interface Client)) α}
    {f g : α → ExceptT Failure (Dialogue (Inquiry.interface Client)) β} (h : w.Alike p q)
    (hrest : ∀ a, w.Alike (f a) (g a)) : w.Alike (p >>= f) (q >>= g) :=
  h.bind_of_outcome fun _ a _ => hrest a

variable (w)

theorem alike_pure (a : α) : w.Alike (pure a) (pure a) := ⟨fun _ _ => rfl, fun _ _ => rfl⟩

theorem alike_throw (failure : Failure) : w.Alike (α := α) (throw failure) (throw failure) :=
  ⟨fun _ _ => rfl, fun _ _ => rfl⟩

/-- Log records may differ. -/
theorem alike_log (record record' : Log.Record) :
    w.Alike (ExceptT.lift (Inquiry.ask (.log record)))
      (ExceptT.lift (Inquiry.ask (.log record'))) :=
  ⟨fun _ _ => rfl, fun _ _ => rfl⟩

theorem alike_role (scheme : IdentityScheme) (name : String) :
    w.Alike (Engine.attempt ((Engine.asking scheme).role name))
      (Engine.attempt ((Engine.asking scheme).role name)) :=
  ⟨fun _ _ => rfl, fun _ _ => rfl⟩

/-! ## The directory -/

theorem alike_find (client : Client) (kind : RecordKind) (id : String) :
    w.Alike (find (access client) kind id) (find (access client) kind id) := by
  constructor
  · intro s s'
    simp only [find, outcome_mk, runWith_bind, access, runWith_lookUp]
    cases w.lookUp client kind id <;> rfl
  · intro s s'
    simp only [lookedUp, find, ExceptT.run_mk, access, asked_bind, Inquiry.lookUps_append,
      runWith_lookUp]
    cases w.lookUp client kind id <;> rfl

theorem alike_agree (record : RecordKind) (field claimed actual : String) :
    w.Alike (agree record field claimed actual) (agree record field claimed actual) := by
  unfold agree
  split
  · exact w.alike_pure ()
  · exact w.alike_throw _

/-- The comparison with the directory does not depend on the context of its log records. -/
theorem alike_reconcile (client : Client) (context context' : Log.Context) (i : Identity) :
    w.Alike (reconcile (access client) context i) (reconcile (access client) context' i) := by
  refine (w.alike_find ..).bind fun inst => (w.alike_agree ..).bind fun _ => ?_
  refine (w.alike_agree ..).bind fun _ => (w.alike_find ..).bind fun app => ?_
  refine (w.alike_agree ..).bind fun _ => (w.alike_agree ..).bind fun _ => ?_
  by_cases hruns : app.instances = 0
  · simp only [hruns, if_true]
    exact (w.alike_throw _).bind_of_outcome fun s a h => nomatch h
  · simp only [hruns, if_false]
    refine (w.alike_find ..).bind fun org => (w.alike_agree ..).bind fun _ => ?_
    refine (w.alike_find ..).bind fun space => (w.alike_agree ..).bind fun _ => ?_
    exact (w.alike_agree ..).bind fun _ => w.alike_log ..

/-! ## The shared checks of an engine -/

theorem alike_findRole (scheme : IdentityScheme) (name : String) :
    w.Alike ((Engine.asking scheme).findRole name) ((Engine.asking scheme).findRole name) := by
  refine (w.alike_role scheme name).bind fun role => ?_
  cases role with
  | none => exact w.alike_throw _
  | some role => exact w.alike_pure role

/-- A new client looks records up, whatever the context is. -/
theorem alike_connect (scheme : IdentityScheme) (context context' : Log.Context)
    (settings : DirectorySettings) :
    w.Alike (Engine.attempt ((Engine.asking scheme).connect context settings))
      (Engine.attempt ((Engine.asking scheme).connect context' settings)) := by
  constructor
  · intro s s'
    rw [outcome_connect, outcome_connect]
  · intro s s'
    simp only [lookedUp, Engine.attempt, Engine.asking, ExceptT.run_mk, asked_bind,
      Inquiry.lookUps_append, runWith_connect]
    cases w.connect settings <;> rfl

/-- The checks that follow the role do not depend on the context of their log records. -/
theorem alike_validate (scheme : IdentityScheme) (context context' : Log.Context)
    (settings : DirectorySettings) (role : Role) (i : Identity) (remote : String) :
    w.Alike ((Engine.asking scheme).validate context settings role i remote)
      ((Engine.asking scheme).validate context' settings role i remote) := by
  unfold Engine.validate
  cases role.check i remote with
  | error mismatch => exact w.alike_throw _
  | ok u =>
    refine (w.alike_connect scheme context context' settings).bind_of_outcome fun s lookUp h => ?_
    rw [outcome_connect] at h
    cases hclient : w.connect settings with
    | error failure => simp [hclient, Except.map] at h
    | ok client =>
      simp only [hclient, Except.map, Except.ok.injEq] at h
      subst h
      exact w.alike_reconcile client context context' i

end World

end WorkloadAuth
