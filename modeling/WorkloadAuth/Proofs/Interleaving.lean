import WorkloadAuth.Proofs.Decisions
import WorkloadAuth.Proofs.Renewal
import WorkloadAuth.Proofs.StoreJournal

/-!
# Interleavings

While a login or a renewal waits for an answer the store is managed and other tasks go on. Each task
still decides on one configuration and one role, as they are stored when it reads them.

* `Session`, `System`: tasks that are under way and share a store.
* `Action`, `System.run`: what may happen, one answered question at a time.
* `Session.Sound`: what holds of a session whatever else happens.
* `System.Tracked`: what every action preserves.
* `System.one_snapshot`: whatever happens in whatever order, all sessions are sound and the store is
  the one that the operations on it lead to.
-/

namespace WorkloadAuth

open Dialogue

variable {Client : Type}

/-! ## Sessions that share a store -/

/-- A task that is under way: its answered questions, and what is left of its dialogue. -/
structure Session (Client : Type) where
  task : Task
  transcript : List (Answered (Inquiry.interface Client)) := []
  rest : Dialogue (Inquiry.interface Client) task.Ending

/-- Sessions that share a store. -/
structure System (Client : Type) where
  store : Store
  sessions : List (Session Client) := []
  /-- How much has happened so far. -/
  moment : Nat := 0

/-- What may happen. -/
inductive Action (Client : Type) where
  | manage (context : Log.Context) (op : Store.Operation)
  | start (task : Task)
  /-- A session is given the answer to its next question. -/
  | proceed (i : Nat) (reply : (q : Inquiry Client) → q.Answer)

/-- The answer to a question that is answered with `a` unless it is about what is stored. -/
def Store.settle (store : Store) : (q : Inquiry Client) → (a : q.Answer) → q.Answer
  | .configuration, _ => .ok store.configuration
  | .role name, _ => .ok (store.role? name)
  | .now, a => a
  | .failureId, a => a
  | .certificateFor .., a => a
  | .connect .., a => a
  | .lookUp .., a => a
  | .send _, a => a
  | .log _, a => a
  | .count _, a => a

/-- A session after its next question is answered. -/
def Session.proceed (store : Store) (moment : Nat) (reply : (q : Inquiry Client) → q.Answer)
    (s : Session Client) : Session Client :=
  match s.rest with
  | .done _ => s
  | .ask q next =>
    { s with
      transcript := s.transcript ++ [⟨moment, q, store.settle q (reply q)⟩]
      rest := next (store.settle q (reply q)) }

namespace System

/-- The system after something has happened. -/
def step (scheme : IdentityScheme) (sys : System Client) : Action Client → System Client
  | .manage context op =>
    { sys with store := op.apply context sys.store, moment := sys.moment + 1 }
  | .start task =>
    { sys with
      sessions := sys.sessions ++ [{ task, rest := task.dialogue (.asking scheme) }]
      moment := sys.moment + 1 }
  | .proceed i reply =>
    { sys with
      sessions := sys.sessions.mapIdx fun j s =>
        if j = i then s.proceed sys.store sys.moment reply else s
      moment := sys.moment + 1 }

/-- The system after some actions, without sessions at the start. -/
def run (scheme : IdentityScheme) (store : Store) (actions : List (Action Client)) :
    System Client :=
  actions.foldl (step scheme) { store }

end System

/-- The operation on the store that an action is. -/
def Action.operation? : Action Client → Option (Log.Context × Store.Operation)
  | .manage context op => some (context, op)
  | _ => none

/-- The task that an action starts. -/
def Action.task? : Action Client → Option Task
  | .start task => some task
  | _ => none

/-- What is stored after the first of some actions, if only the store is managed. -/
def storeAt (store : Store) (actions : List (Action Client)) (moment : Nat) : Store :=
  Store.run ((actions.take moment).filterMap Action.operation?) store

/-! ## What holds of sessions -/

/-- What a session has read, in order. -/
def Session.readings (s : Session Client) : List (Reading Client) :=
  s.transcript.filterMap Answered.reading?

/-- The credential that a session has ended with, if it has. -/
def Session.credential? (s : Session Client) : Option Credential :=
  match s.rest with
  | .done ending => s.task.credential? ending
  | .ask .. => none

/-- A credential comes from a decision on one configuration and one role. A login has all terms of
the credential from this role, and a renewal the lifetimes and the period. -/
def Session.Decided (scheme : IdentityScheme) (storeAt : Nat → Store) (s : Session Client)
    (credential : Credential) : Prop :=
  match s.task with
  | .login _ request remote =>
    ∃ d : LoginDecision scheme storeAt s.transcript request remote,
      credential.IssuedFor request.role d.snapshot.role d.identity
  | .renew _ old remote =>
    ∃ d : RenewalDecision storeAt s.transcript old remote,
      credential.RefreshedFrom old d.snapshot.role

/-- What a session reads was stored at that moment, it reads the configuration and the role at most
once, and a credential comes from a decision on them. -/
structure Session.Sound (scheme : IdentityScheme) (storeAt : Nat → Store) (s : Session Client) :
    Prop where
  faithful : ∀ r ∈ s.readings, r.Faithful storeAt
  one_configuration : s.transcript.countP (fun x => x.question.isConfiguration) ≤ 1
  one_role : s.transcript.countP (fun x => x.question.isRole) ≤ 1
  decided : ∀ credential, s.credential? = some credential → s.Decided scheme storeAt credential

/-! ## Answers -/

theorem Store.settle_settle (store : Store) (q : Inquiry Client) (a : q.Answer) :
    store.settle q (store.settle q a) = store.settle q a := by
  cases q <;> rfl

/-- What a question reads is faithful if its answer is what was stored. -/
theorem Answered.faithful {storeAt : Nat → Store} {x : Answered (Inquiry.interface Client)}
    {r : Reading Client} (hread : x.reading? = some r)
    (h : (storeAt x.moment).settle x.question x.answer = x.answer) : r.Faithful storeAt := by
  obtain ⟨moment, q, a⟩ := x
  cases q with
  | configuration =>
    cases hread
    exact h.symm
  | role name =>
    cases hread
    exact h.symm
  | connect context settings =>
    cases hread
    exact trivial
  | lookUp client kind id =>
    cases hread
    exact trivial
  | _ => cases hread

/-! ## What is stored at a moment -/

section StoreAt

variable {store : Store} {actions : List (Action Client)}

theorem storeAt_length :
    storeAt store actions actions.length =
      Store.run (actions.filterMap Action.operation?) store := by
  rw [storeAt, List.take_length]

/-- What happens later does not matter. -/
theorem storeAt_concat (a : Action Client) {moment : Nat} (h : moment ≤ actions.length) :
    storeAt store (actions ++ [a]) moment = storeAt store actions moment := by
  rw [storeAt, storeAt, List.take_append_of_le_length h]

end StoreAt

/-! ## Sessions keep to what is stored -/

namespace Session

variable {scheme : IdentityScheme} {store : Store} {storeAt storeAt' : Nat → Store} {now : Nat}
  {s : Session Client}

@[simp] theorem proceed_task (moment : Nat) (reply : (q : Inquiry Client) → q.Answer) :
    (s.proceed store moment reply).task = s.task := by
  unfold proceed
  split <;> rfl

/-- A session is on the way of its task, with answers from before a moment that are faithful to
what was stored. -/
structure Tracked (scheme : IdentityScheme) (storeAt : Nat → Store) (now : Nat)
    (s : Session Client) : Prop where
  follows : Follows (s.task.dialogue (.asking scheme)) s.transcript s.rest
  earlier : ∀ x ∈ s.transcript, x.moment < now
  settled : ∀ x ∈ s.transcript, (storeAt x.moment).settle x.question x.answer = x.answer

/-- What is stored later does not matter. -/
theorem Tracked.congr (h : s.Tracked scheme storeAt now)
    (hstored : ∀ moment < now, storeAt' moment = storeAt moment) :
    s.Tracked scheme storeAt' now where
  follows := h.follows
  earlier := h.earlier
  settled x hx := by
    rw [hstored x.moment (h.earlier x hx)]
    exact h.settled x hx

theorem Tracked.later (h : s.Tracked scheme storeAt now) : s.Tracked scheme storeAt (now + 1) where
  follows := h.follows
  earlier x hx := Nat.lt_succ_of_lt (h.earlier x hx)
  settled := h.settled

theorem tracked_start (task : Task) :
    Tracked scheme storeAt now
      ({ task, rest := task.dialogue (.asking scheme) } : Session Client) where
  follows := .nil _
  earlier _ hx := absurd hx List.not_mem_nil
  settled _ hx := absurd hx List.not_mem_nil

/-- One more answer, by what is stored now. -/
theorem Tracked.proceed (h : s.Tracked scheme storeAt now)
    (reply : (q : Inquiry Client) → q.Answer) :
    (s.proceed (storeAt now) now reply).Tracked scheme storeAt (now + 1) := by
  obtain ⟨task, transcript, rest⟩ := s
  cases rest with
  | done a => exact h.later
  | ask q next =>
    refine ⟨h.follows.concat now _, fun x hx => ?_, fun x hx => ?_⟩
    · rcases List.mem_append.1 hx with hx | hx
      · exact Nat.lt_succ_of_lt (h.earlier x hx)
      · rw [List.mem_singleton.1 hx]
        exact Nat.lt_succ_self now
    · rcases List.mem_append.1 hx with hx | hx
      · exact h.settled x hx
      · rw [List.mem_singleton.1 hx]
        exact Store.settle_settle _ _ _

/-- Sessions on their way are sound. -/
theorem Tracked.sound (h : s.Tracked scheme storeAt now) : s.Sound scheme storeAt := by
  have hfaithful : ∀ r ∈ s.readings, r.Faithful storeAt := by
    intro r hr
    obtain ⟨x, hx, hread⟩ := List.mem_filterMap.1 hr
    exact Answered.faithful hread (h.settled x hx)
  refine ⟨hfaithful, stored_isConfiguration.atMost_dialogue s.task _ _ h.follows,
    stored_isRole.atMost_dialogue s.task _ _ h.follows, ?_⟩
  intro credential hended
  obtain ⟨task, transcript, rest⟩ := s
  cases rest with
  | ask q next => cases hended
  | done ending =>
    cases task with
    | login context request remote =>
      cases ending with
      | issued issued =>
        cases hended
        exact exists_loginDecision h.follows hfaithful
      | refused id => cases hended
      | aborted => cases hended
    | renew context old remote =>
      cases ending with
      | error failure => cases hended
      | ok renewed =>
        cases hended
        exact exists_renewalDecision h.follows hfaithful

end Session

/-! ## Whole systems -/

namespace System

variable {scheme : IdentityScheme} {store : Store} {actions : List (Action Client)}
  {sys : System Client}

theorem step_store (a : Action Client) :
    (sys.step scheme a).store = Store.run ([a].filterMap Action.operation?) sys.store := by
  cases a <;> rfl

/-- No session ever changes its task. -/
theorem step_tasks (a : Action Client) :
    (sys.step scheme a).sessions.map Session.task =
      sys.sessions.map Session.task ++ [a].filterMap Action.task? := by
  cases a with
  | manage context op => exact (List.append_nil _).symm
  | start task => exact List.map_append
  | proceed i reply =>
    refine Eq.trans ?_ (List.append_nil _).symm
    refine List.ext_getElem (by simp [step]) fun j hj hj' => ?_
    simp only [step, List.getElem_map, List.getElem_mapIdx]
    split
    · exact Session.proceed_task _ _
    · rfl

/-- What some actions lead to. -/
structure Tracked (scheme : IdentityScheme) (store : Store) (actions : List (Action Client))
    (sys : System Client) : Prop where
  store_eq : sys.store = Store.run (actions.filterMap Action.operation?) store
  moment_eq : sys.moment = actions.length
  tasks_eq : sys.sessions.map Session.task = actions.filterMap Action.task?
  tracked : ∀ s ∈ sys.sessions, s.Tracked scheme (storeAt store actions) actions.length

theorem tracked_init : Tracked scheme store [] ({ store } : System Client) :=
  ⟨rfl, rfl, rfl, fun _ hs => absurd hs List.not_mem_nil⟩

/-- The sessions after one more action. Only the one that goes on reads what is stored now. -/
theorem Tracked.step_sessions (h : sys.Tracked scheme store actions) (a : Action Client) :
    ∀ s ∈ (sys.step scheme a).sessions,
      s.Tracked scheme (storeAt store (actions ++ [a])) (actions.length + 1) := by
  have hbefore : ∀ s ∈ sys.sessions,
      s.Tracked scheme (storeAt store (actions ++ [a])) actions.length := by
    intro s hs
    exact (h.tracked s hs).congr fun moment hmoment => storeAt_concat a (Nat.le_of_lt hmoment)
  have hnow : storeAt store (actions ++ [a]) actions.length = sys.store := by
    rw [storeAt_concat a (Nat.le_refl _), storeAt_length, h.store_eq]
  intro s hs
  cases a with
  | manage context op => exact (hbefore s hs).later
  | start task =>
    rcases List.mem_append.1 hs with hs | hs
    · exact (hbefore s hs).later
    · rw [List.mem_singleton.1 hs]
      exact Session.tracked_start task
  | proceed i reply =>
    obtain ⟨j, hj, rfl⟩ := List.mem_mapIdx.1 hs
    have hsession := hbefore sys.sessions[j] (List.getElem_mem hj)
    split
    · rw [← hnow, h.moment_eq]
      exact hsession.proceed reply
    · exact hsession.later

theorem Tracked.step (h : sys.Tracked scheme store actions) (a : Action Client) :
    (sys.step scheme a).Tracked scheme store (actions ++ [a]) where
  store_eq := by
    rw [step_store, List.filterMap_append, Store.run_append, h.store_eq]
  moment_eq := by
    rw [List.length_append, ← h.moment_eq]
    cases a <;> rfl
  tasks_eq := by
    rw [step_tasks, List.filterMap_append, h.tasks_eq]
  tracked := by
    rw [List.length_append]
    exact h.step_sessions a

theorem tracked_run (scheme : IdentityScheme) (store : Store) (actions : List (Action Client)) :
    (run scheme store actions).Tracked scheme store actions := by
  induction actions using List.reverseRecOn with
  | nil => exact tracked_init
  | append_singleton actions a ih =>
    rw [run, List.foldl_append]
    exact ih.step a

/-- **One snapshot for each decision.** Whatever happens in whatever order, what is stored is what
the operations on the store lead to, every task that was started has its session, and every session
is sound: it reads the configuration and the role at most once, as they are stored at that moment,
and a credential comes from a decision on one snapshot of them. -/
theorem one_snapshot (scheme : IdentityScheme) (store : Store) (actions : List (Action Client)) :
    (run scheme store actions).store = Store.run (actions.filterMap Action.operation?) store ∧
      (run scheme store actions).sessions.map Session.task = actions.filterMap Action.task? ∧
      ∀ s ∈ (run scheme store actions).sessions, s.Sound scheme (storeAt store actions) := by
  have h := tracked_run scheme store actions
  exact ⟨h.store_eq, h.tasks_eq, fun s hs => (h.tracked s hs).sound⟩

namespace Sample

open World.Sample (world configuration role identity)

/-- What the renewal finds when it reads. -/
def initial : Store := ⟨some configuration, Dictionary.empty.insert "r" role⟩

/-- A renewal. The configuration is cleared after it is read, and the role is deleted before the
directory is asked. -/
def meanwhile : List (Action Unit) :=
  let proceed := Action.proceed 0 fun q => (world.answer q ()).1
  [.start (.renew .root (.issue "r" { role with ttl := 30 } identity) "10.0.0.1"), proceed, proceed,
    .manage .root .clearConfiguration, proceed, .manage .root (.deleteRole "r")] ++
    List.replicate 7 proceed

/-- The renewal still decides on the configuration that it has read, and the lifetime is that of the
role that it has read. -/
theorem renewed_meanwhile :
    (run World.Sample.scheme initial meanwhile).store = Store.empty ∧
      (run World.Sample.scheme initial meanwhile).sessions.map Session.credential? =
        [some (.issue "r" role identity)] ∧
      ∀ s ∈ (run World.Sample.scheme initial meanwhile).sessions,
        s.Sound World.Sample.scheme (storeAt initial meanwhile) := by
  obtain ⟨hstore, -, hsound⟩ := one_snapshot World.Sample.scheme initial meanwhile
  have hempty : Store.run (meanwhile.filterMap Action.operation?) initial = Store.empty := by
    decide +kernel
  have hrenewed : (run World.Sample.scheme initial meanwhile).sessions.map Session.credential? =
      [some (.issue "r" role identity)] := by
    decide +kernel
  exact ⟨hstore.trans hempty, hrenewed, hsound⟩

end Sample

end System

end WorkloadAuth
