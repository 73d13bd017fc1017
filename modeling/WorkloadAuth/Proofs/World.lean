import WorkloadAuth.Engine.Inquiry
import WorkloadAuth.Proofs.Run

/-!
# Worlds

A world answers the questions of an engine. The matcher of signatures, the two stores and the
directory are arbitrary functions, which may fail, and stay as they are while a request is decided.
The clock, the source of failure identifiers, the log and the counters go on with every question.

* `World`, `World.answer`: a world and its answers.
* `World.outcome_findRole`, `World.outcome_validate_eq_ok_iff`: what the shared checks of an engine
  find.
* `Directory.Agrees`, `World.outcome_reconcile_eq_ok_iff`: an identity passes the comparison with
  the directory if and only if four records agree with it.
-/

namespace WorkloadAuth

open Calendar Directory Dialogue

/-! ## The parts of an engine that asks -/

section Asking

variable {Client : Type} (scheme : IdentityScheme)

@[simp] theorem Inquiry.surroundings_log (record : Log.Record) :
    (surroundings : Surroundings (interface Client)).log record = ask (.log record) := rfl

@[simp] theorem Inquiry.surroundings_count (counter : Counter) :
    (surroundings : Surroundings (interface Client)).count counter = ask (.count counter) := rfl

@[simp] theorem Engine.asking_surroundings :
    (asking scheme : Engine (Inquiry.interface Client)).surroundings = Inquiry.surroundings := rfl

@[simp] theorem Engine.asking_clock :
    (asking scheme : Engine (Inquiry.interface Client)).clock = Inquiry.ask .now := rfl

@[simp] theorem Engine.asking_scheme :
    (asking scheme : Engine (Inquiry.interface Client)).scheme = scheme := rfl

@[simp] theorem Engine.asking_configuration :
    (asking scheme : Engine (Inquiry.interface Client)).configuration =
      Inquiry.ask .configuration := rfl

@[simp] theorem Engine.asking_role (name : String) :
    (asking scheme : Engine (Inquiry.interface Client)).role name = Inquiry.ask (.role name) := rfl

@[simp] theorem Engine.asking_certificateFor (signature : String) (data : SignedData) :
    (asking scheme : Engine (Inquiry.interface Client)).certificateFor signature data =
      Inquiry.ask (.certificateFor signature data) := rfl

end Asking

/-! ## Worlds -/

/-- What answers the questions of an engine, against a state of its own. -/
structure World (Client σ : Type) where
  certificateFor : String → SignedData → Except Failure Certificate
  configuration : Except Failure (Option Configuration)
  role : String → Except Failure (Option Role)
  connect : DirectorySettings → Except Failure Client
  lookUp : Client → (kind : RecordKind) → String → Found kind
  /-- The answers to other questions, and the state after any question. -/
  react : (q : Inquiry Client) → σ → q.Answer × σ

namespace World

variable {Client σ : Type} (w : World Client σ)

/-- The answer to a question that would be answered with `a` if it were none to the matcher, the
stores or the directory. -/
def settle : (q : Inquiry Client) → (a : q.Answer) → q.Answer
  | .certificateFor signature data, _ => w.certificateFor signature data
  | .configuration, _ => w.configuration
  | .role name, _ => w.role name
  | .connect _ settings, _ => w.connect settings
  | .lookUp client kind id, _ => w.lookUp client kind id
  | .now, a => a
  | .failureId, a => a
  | .send _, a => a
  | .log _, a => a
  | .count _, a => a

/-- The answer to a question, and the state after it. -/
def answer (q : Inquiry Client) (s : σ) : q.Answer × σ :=
  (w.settle q (w.react q s).1, (w.react q s).2)

/-- The state after a question. -/
def next (q : Inquiry Client) (s : σ) : σ := (w.react q s).2

@[simp] theorem runWith_certificateFor (signature : String) (data : SignedData) (s : σ) :
    runWith w.answer (α := Except Failure Certificate)
        (Inquiry.ask (.certificateFor signature data)) s =
      (w.certificateFor signature data, w.next (.certificateFor signature data) s) := rfl

@[simp] theorem runWith_configuration (s : σ) :
    runWith w.answer (α := Except Failure (Option Configuration)) (Inquiry.ask .configuration) s =
        (w.configuration, w.next .configuration s) := rfl

@[simp] theorem runWith_role (name : String) (s : σ) :
    runWith w.answer (α := Except Failure (Option Role)) (Inquiry.ask (.role name)) s =
        (w.role name, w.next (.role name) s) := rfl

@[simp] theorem runWith_connect (context : Log.Context) (settings : DirectorySettings) (s : σ) :
    runWith w.answer (α := Except Failure Client) (Inquiry.ask (.connect context settings)) s =
        (w.connect settings, w.next (.connect context settings) s) := rfl

@[simp] theorem runWith_lookUp (client : Client) (kind : RecordKind) (id : String) (s : σ) :
    runWith w.answer (α := Found kind) (Inquiry.ask (.lookUp client kind id)) s =
        (w.lookUp client kind id, w.next (.lookUp client kind id) s) := rfl

@[simp] theorem runWith_now (s : σ) :
    runWith w.answer (α := Moment) (Inquiry.ask .now) s = w.react .now s := rfl

@[simp] theorem runWith_failureId (s : σ) :
    runWith w.answer (α := FailureId) (Inquiry.ask .failureId) s = w.react .failureId s := rfl

@[simp] theorem runWith_log (record : Log.Record) (s : σ) :
    runWith w.answer (α := Unit) (Inquiry.ask (.log record)) s = ((), w.next (.log record) s) :=
  rfl

@[simp] theorem runWith_count (counter : Counter) (s : σ) :
    runWith w.answer (α := Unit) (Inquiry.ask (.count counter)) s =
      ((), w.next (.count counter) s) := rfl

/-! ## The directory -/

/-- How a client looks records up. -/
def access (client : Client) : Access (Inquiry.interface Client) where
  lookUp kind id := Inquiry.ask (.lookUp client kind id)
  log record := Inquiry.ask (.log record)

theorem outcome_find_eq_ok_iff (client : Client) (kind : RecordKind) (id : String) (s : σ)
    (record : kind.Record) :
    outcome w.answer (find (access client) kind id) s = .ok record ↔
      w.lookUp client kind id = .ok record := by
  simp only [find, outcome_mk, runWith_bind, access, runWith_lookUp]
  cases w.lookUp client kind id <;> simp

end World

theorem Directory.outcome_agree_eq_ok_iff {I : Interface.{0}} {σ : Type}
    (answer : (question : I.Question) → σ → I.Answer question × σ) (record : RecordKind)
    (field claimed actual : String) (s : σ) (u : Unit) :
    outcome answer (agree (I := I) record field claimed actual) s = .ok u ↔ actual = claimed := by
  unfold agree
  split <;> simp_all

/-- The records of a directory that an identity claims to belong to, and that they agree with it:
the service instance is in its space, the app runs there, and the space is in its organization. -/
structure Directory.Record.Confirm (find : (kind : RecordKind) → String → Found kind)
    (i : Identity) (inst : ServiceInstance) (app : App) (org : Org) (space : Space) : Prop where
  inst_found : find .serviceInstance i.instanceId = .ok inst
  inst_guid : inst.guid = i.instanceId
  inst_space : inst.spaceGuid = i.spaceId
  app_found : find .app i.appId = .ok app
  app_guid : app.guid = i.appId
  app_space : app.spaceGuid = i.spaceId
  app_runs : app.instances ≠ 0
  org_found : find .org i.orgId = .ok org
  org_guid : org.guid = i.orgId
  space_found : find .space i.spaceId = .ok space
  space_guid : space.guid = i.spaceId
  space_org : space.orgGuid = i.orgId

/-- The directory holds records that agree with an identity. -/
def Directory.Agrees (find : (kind : RecordKind) → String → Found kind) (i : Identity) : Prop :=
  ∃ inst app org space, Record.Confirm find i inst app org space

namespace World

variable {Client σ : Type} (w : World Client σ)

/-- An identity passes the comparison with the directory if and only if the directory agrees. -/
theorem outcome_reconcile_eq_ok_iff (client : Client) (context : Log.Context) (i : Identity)
    (s : σ) :
    outcome w.answer (reconcile (access client) context i) s = .ok () ↔
      Agrees (w.lookUp client) i := by
  have hinst s (inst : ServiceInstance) := w.outcome_find_eq_ok_iff client .serviceInstance
    i.instanceId s inst
  have happ s (app : App) := w.outcome_find_eq_ok_iff client .app i.appId s app
  have horg s (org : Org) := w.outcome_find_eq_ok_iff client .org i.orgId s org
  have hspace s (space : Space) := w.outcome_find_eq_ok_iff client .space i.spaceId s space
  simp only [reconcile, outcome_bind_eq_ok_iff, outcome_agree_eq_ok_iff,
    outcome_guard_eq_ok_iff, outcome_lift, hinst, happ, horg, hspace]
  constructor
  · rintro ⟨inst, h1, -, h2, -, h3, app, h4, -, h5, -, h6, h7, org, h8, -, h9, space, h10, -, h11,
      -, h12, -⟩
    exact ⟨inst, app, org, space, h1, h2, h3, h4, h5, h6, h7, h8, h9, h10, h11, h12⟩
  · rintro ⟨inst, app, org, space, h⟩
    exact ⟨inst, h.inst_found, (), h.inst_guid, (), h.inst_space, app, h.app_found, (),
      h.app_guid, (), h.app_space, h.app_runs, org, h.org_found, (), h.org_guid, space,
      h.space_found, (), h.space_guid, (), h.space_org, trivial⟩

/-! ## The shared checks of an engine -/

theorem outcome_findRole_eq_ok_iff (scheme : IdentityScheme) (name : String) (s : σ)
    (role : Role) :
    outcome w.answer ((Engine.asking scheme).findRole name) s = .ok role ↔
      w.role name = .ok (some role) := by
  simp only [Engine.findRole, Engine.attempt, Engine.asking, outcome_bind_eq_ok_iff, outcome_mk,
    runWith_role]
  constructor
  · rintro ⟨found, hfound, hrole⟩
    cases found with
    | none => cases hrole
    | some found =>
      obtain rfl := Except.ok.inj hrole
      exact hfound
  · exact fun h => ⟨some role, h, rfl⟩

/-- A new client looks records up in the directory. -/
theorem outcome_connect (scheme : IdentityScheme) (context : Log.Context)
    (settings : DirectorySettings) (s : σ) :
    outcome w.answer (Engine.attempt ((Engine.asking scheme).connect context settings)) s =
      (w.connect settings).map fun client => (access client).lookUp := by
  simp only [Engine.attempt, Engine.asking, outcome_mk, runWith_bind, runWith_connect]
  cases w.connect settings <;> rfl

/-- The checks that follow the role: it allows the identity, a client is made, and the directory
agrees. -/
theorem outcome_validate_eq_ok_iff (scheme : IdentityScheme) (context : Log.Context)
    (settings : DirectorySettings) (role : Role) (i : Identity) (remote : String) (s : σ)
    (u : Unit) :
    outcome w.answer ((Engine.asking scheme).validate context settings role i remote) s = .ok u ↔
      role.check i remote = .ok () ∧
        ∃ client, w.connect settings = .ok client ∧ Agrees (w.lookUp client) i := by
  unfold Engine.validate
  cases role.check i remote with
  | error mismatch => simp
  | ok u =>
    rw [outcome_bind_eq_ok_iff, outcome_connect]
    cases w.connect settings with
    | error failure => simp [Except.map]
    | ok client =>
      simp only [Except.map, Except.ok.injEq, exists_eq_left', true_and]
      exact w.outcome_reconcile_eq_ok_iff client context i _

end World

end WorkloadAuth
