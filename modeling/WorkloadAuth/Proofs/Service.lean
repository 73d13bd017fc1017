import WorkloadAuth.Proofs.Renewal
import WorkloadAuth.Proofs.SnapshotCodec
import WorkloadAuth.Proofs.StoreJournal

/-!
# Services

An engine decides on logins and renewals by what is stored at that time, while the store is managed
in between.

* `Service`, `Service.Event`, `Service.perform`, `Service.after`: an engine that uses a store, and
  what may happen.
* `Service.store_after`: only the management of the store changes it.
* `Service.Supports`, `Service.supports_of_perform`: what is stored when a credential is returned.
* `Service.credentials_follow`: the credentials of a service follow the roles that are stored.
-/

namespace WorkloadAuth

open Dialogue

variable {I : Interface.{0}} {σ : Type}

/-- An engine that uses a store, and what answers its questions. What it asks about the
configuration and the roles is answered from the store. -/
structure Service (I : Interface.{0}) (σ : Type) where
  engine : Engine I
  answer : Store → (question : I.Question) → σ → I.Answer question × σ
  configuration_eq : ∀ (store : Store) (s : σ),
    (engine.configuration.runWith (answer store) s).1 = .ok store.configuration
  role_eq : ∀ (store : Store) (name : String) (s : σ),
    ((engine.role name).runWith (answer store) s).1 = .ok (store.role? name)

/-- The credential that a login ends with. -/
def LoginOutcome.credential? : LoginOutcome → Option Credential
  | .issued credential => some credential
  | _ => none

namespace Service

/-! ## What may happen -/

/-- What may happen to a service. -/
inductive Event where
  | manage (context : Log.Context) (op : Store.Operation)
  | login (context : Log.Context) (request : LoginRequest) (remote : String)
  | renew (context : Log.Context) (credential : Credential) (remote : String)

/-- The name of the role that a login or a renewal is about. -/
def Event.roleName? : Event → Option String
  | .manage .. => none
  | .login _ request _ => some request.role
  | .renew _ credential _ => credential.metadata.get? MetadataKey.role.text

/-- The operations on the store among some events. -/
def managed : List Event → List (Log.Context × Store.Operation)
  | [] => []
  | .manage context op :: events => (context, op) :: managed events
  | _ :: events => managed events

/-- The credential that is returned when something happens, if one is, and what is stored after
it. -/
def perform (S : Service I σ) : Event → Store × σ → Option Credential × Store × σ
  | .manage context op, (store, s) => (none, op.apply context store, s)
  | .login context request remote, (store, s) =>
    let (ended, s') := (S.engine.login context request remote).runWith (S.answer store) s
    (ended.credential?, store, s')
  | .renew context credential remote, (store, s) =>
    let (ended, s') := (S.engine.renew context credential remote).runWith (S.answer store) s
    (ended.toOption, store, s')

/-- What is stored after some events. -/
def after (S : Service I σ) : List Event → Store × σ → Store × σ
  | [], x => x
  | e :: events, x => S.after events (S.perform e x).2

variable (S : Service I σ)

/-- Logins and renewals leave the store as it is. -/
theorem store_perform (e : Event) (x : Store × σ) :
    (S.perform e x).2.1 = Store.run (managed [e]) x.1 := by
  cases e <;> rfl

theorem managed_append (events events' : List Event) :
    managed (events ++ events') = managed events ++ managed events' := by
  induction events with
  | nil => rfl
  | cons e events ih => cases e <;> simp [managed, ih]

/-- What is stored after some events is what the operations among them leave. -/
theorem store_after (events : List Event) (x : Store × σ) :
    (S.after events x).1 = Store.run (managed events) x.1 := by
  induction events generalizing x with
  | nil => rfl
  | cons e events ih =>
    rw [after, ih, store_perform, ← Store.run_append, ← managed_append]
    rfl

/-! ## Returned credentials -/

/-- A credential that was returned for the role with a name is supported by what is stored: a
configuration and this role, of which it has the lifetimes. -/
structure Supports (store : Store) (name : String) (role : Role) (credential : Credential) :
    Prop where
  named : credential.metadata.get? MetadataKey.role.text = some name
  configured : ∃ c, store.configuration = some c
  stored : store.role? name = some role
  ttl : credential.lease.ttl = role.ttl
  maxTtl : credential.lease.maxTtl = role.maxTtl
  period : credential.period = role.period

/-- The configuration and the roles that an engine finds are the stored ones. -/
theorem outcome_configuration (store : Store) (s : σ) :
    outcome (S.answer store) (Engine.attempt S.engine.configuration) s = .ok store.configuration :=
  S.configuration_eq store s

theorem outcome_role (store : Store) (name : String) (s : σ) :
    outcome (S.answer store) (Engine.attempt (S.engine.role name)) s = .ok (store.role? name) :=
  S.role_eq store name s

theorem role?_of_findRole {store : Store} {name : String} {s : σ} {role : Role}
    (h : outcome (S.answer store) (S.engine.findRole name) s = .ok role) :
    store.role? name = some role := by
  simp only [Engine.findRole, outcome_bind_eq_ok_iff, outcome_role] at h
  obtain ⟨found, hfound, h⟩ := h
  cases found with
  | none => cases h
  | some role' =>
    cases h
    exact Except.ok.inj hfound

/-- The checks of a login succeed with a credential for the stored role. -/
theorem supports_of_examine {store : Store} {context : Log.Context} {request : LoginRequest}
    {received : Calendar.Moment} {remote : String} {s : σ} {credential : Credential}
    (h : outcome (S.answer store) (S.engine.examine context request received remote) s =
      .ok credential) :
    ∃ role, Supports store request.role role credential := by
  simp only [Engine.examine, outcome_bind_eq_ok_iff, outcome_configuration] at h
  obtain ⟨certificate, -, found, hfound, h⟩ := h
  cases found with
  | none => cases h
  | some c =>
    simp only [outcome_bind_eq_ok_iff] at h
    obtain ⟨identity, -, role, hrole, _, -, h⟩ := h
    cases h
    exact ⟨role, Metadata.get?_encode ⟨request.role, identity⟩ .role,
      ⟨c, Except.ok.inj hfound⟩, S.role?_of_findRole hrole, rfl, rfl, rfl⟩

/-- The checks of a renewal succeed with a credential for the stored role. -/
theorem supports_of_attemptRenewal {store : Store} {context : Log.Context}
    {credential renewed : Credential} {remote : String} {s : σ}
    (h : outcome (S.answer store) (S.engine.attemptRenewal context credential remote) s =
      .ok renewed) :
    ∃ name role, credential.metadata.get? MetadataKey.role.text = some name ∧
      Supports store name role renewed := by
  simp only [Engine.attemptRenewal, outcome_bind_eq_ok_iff, outcome_configuration] at h
  obtain ⟨found, hfound, h⟩ := h
  cases found with
  | none => cases h
  | some c =>
    simp only [outcome_bind_eq_ok_iff] at h
    obtain ⟨name, hname, role, hrole, _, -, _, -, _, -, h⟩ := h
    cases h
    have hnamed : credential.metadata.get? MetadataKey.role.text = some name :=
      (Metadata.find_eq_ok_iff.1 (Except.mapError_eq_ok_iff.1 hname)).1
    exact ⟨name, role, hnamed, hnamed, ⟨c, Except.ok.inj hfound⟩, S.role?_of_findRole hrole,
      rfl, rfl, rfl⟩

/-- A screened request that ends with a credential was examined. -/
theorem exists_examine_of_attemptLogin {store : Store} {context : Log.Context}
    {request : LoginRequest} {remote : String} {s : σ} {credential : Credential}
    (h : ((S.engine.attemptLogin context request remote).runWith (S.answer store) s).1 =
      .ok credential) :
    ∃ received s', outcome (S.answer store)
      (S.engine.examine context request received remote) s' = .ok credential := by
  simp only [Engine.attemptLogin, runWith_bind] at h
  split at h
  · cases h
  · rw [runWith_bind, runWith_pure] at h
    exact ⟨_, _, Except.mapError_eq_ok_iff.1 h⟩

/-- A login ends with a credential only if its request does. -/
theorem attemptLogin_of_credential? {store : Store} {context : Log.Context}
    {request : LoginRequest} {remote : String} {s : σ} {credential : Credential}
    (h : ((S.engine.login context request remote).runWith (S.answer store) s).1.credential? =
      some credential) :
    ∃ context' s', ((S.engine.attemptLogin context' request remote).runWith
      (S.answer store) s').1 = .ok credential := by
  simp only [Engine.login, runWith_bind] at h
  generalize hrun : (S.engine.attemptLogin _ request remote).runWith _ _ = checked at h
  obtain ⟨(failure | -) | issued, s'⟩ := checked
  · simp only [runWith_bind, runWith_pure, LoginOutcome.credential?, reduceCtorEq] at h
  · simp only [runWith_pure, LoginOutcome.credential?, reduceCtorEq] at h
  · simp only [runWith_bind, runWith_pure, LoginOutcome.credential?, Option.some.injEq] at h
    exact ⟨_, _, (congrArg Prod.fst hrun).trans (congrArg Except.ok h)⟩

/-- A renewal ends with a credential only if its checks do. -/
theorem attemptRenewal_of_renewed {store : Store} {context : Log.Context} {credential : Credential}
    {remote : String} {s : σ} {renewed : Credential}
    (h : ((S.engine.renew context credential remote).runWith (S.answer store) s).1 =
      .ok renewed) :
    ∃ context' s', outcome (S.answer store)
      (S.engine.attemptRenewal context' credential remote) s' = .ok renewed := by
  simp only [Engine.renew, runWith_bind] at h
  generalize hrun : (S.engine.attemptRenewal _ credential remote).run.runWith _ _ = checked at h
  obtain ⟨failure | renewed', s'⟩ := checked
  · simp only [runWith_bind, runWith_pure, reduceCtorEq] at h
  · exact ⟨_, _, (congrArg Prod.fst hrun).trans h⟩

/-- What is stored when a credential is returned supports it, under the name of the role that the
login or the renewal is about. -/
theorem supports_of_perform {e : Event} {x : Store × σ} {credential : Credential}
    (h : (S.perform e x).1 = some credential) :
    ∃ name role, e.roleName? = some name ∧ Supports x.1 name role credential := by
  cases e with
  | manage context op => cases h
  | login context request remote =>
    obtain ⟨context', s', hattempted⟩ := S.attemptLogin_of_credential? h
    obtain ⟨received, s'', hexamined⟩ := S.exists_examine_of_attemptLogin hattempted
    obtain ⟨role, hsupports⟩ := S.supports_of_examine hexamined
    exact ⟨request.role, role, rfl, hsupports⟩
  | renew context old remote =>
    have hrenewed : ((S.engine.renew context old remote).runWith (S.answer x.1) x.2).1 =
        .ok credential := Except.toOption_eq_some_iff.1 h
    obtain ⟨context', s', hchecked⟩ := S.attemptRenewal_of_renewed hrenewed
    exact S.supports_of_attemptRenewal hchecked

/-! ## Whole runs -/

variable (s₀ : σ)

/-- The store after some events that began with an empty one. -/
def storeAfter (events : List Event) : Store := (S.after events (.empty, s₀)).1

/-- The journal of the store after an operation goes on with the operations that follow. -/
theorem journal_managed (before between : List Event) (context : Log.Context)
    (op : Store.Operation) :
    ∃ failure?, Store.journal (managed (before ++ .manage context op :: between)) .empty =
      Store.journal (managed before) .empty ++ ⟨op, failure?⟩ ::
        Store.journal (managed between) (S.storeAfter s₀ (before ++ [.manage context op])) := by
  have hstore : S.storeAfter s₀ (before ++ [.manage context op]) =
      op.apply context (Store.run (managed before) .empty) := by
    rw [storeAfter, store_after, managed_append, Store.run_append]
    rfl
  rw [managed_append, Store.journal_append, hstore]
  exact ⟨_, rfl⟩

/-- A role that is stored after it was deleted was stored again. -/
theorem exists_puts {before between : List Event} {context : Log.Context} {name : String}
    {role : Role}
    (h : (S.storeAfter s₀ (before ++ .manage context (.deleteRole name) :: between)).role? name =
      some role) :
    ∃ entry ∈ Store.journal (managed between)
        (S.storeAfter s₀ (before ++ [.manage context (.deleteRole name)])),
      entry.Puts name role := by
  rw [storeAfter, store_after, Store.role_run_iff] at h
  obtain ⟨failure?, hjournal⟩ := S.journal_managed s₀ before between context (.deleteRole name)
  rw [hjournal] at h
  exact h.exists_mem (fun hputs => nomatch hputs.2.1) (.inr rfl)

/-- A configuration that is stored after there was none was stored again. -/
theorem exists_configures {before between : List Event} {context : Log.Context}
    {c : Configuration}
    (h : (S.storeAfter s₀
      (before ++ .manage context .clearConfiguration :: between)).configuration = some c) :
    ∃ entry ∈ Store.journal (managed between)
        (S.storeAfter s₀ (before ++ [.manage context .clearConfiguration])),
      entry.Configures c := by
  rw [storeAfter, store_after, Store.configuration_run_iff] at h
  obtain ⟨failure?, hjournal⟩ := S.journal_managed s₀ before between context .clearConfiguration
  rw [hjournal] at h
  exact h.exists_mem (fun hconfigures => hconfigures.2) (.inr rfl)

/-- **Credentials follow the roles.** Whatever happened before a login or a renewal returns a
credential: the credential tells the name of the role that was asked for, and has the lifetimes of
the role that is stored with this name then, the first of which is within the longest one. If the
role was ever deleted, it was stored again since, and if the configuration was ever cleared, one was
stored again since. -/
theorem credentials_follow (events : List Event) (e : Event) (credential : Credential)
    (h : (S.perform e (S.after events (.empty, s₀))).1 = some credential) :
    ∃ name role,
      e.roleName? = some name ∧
      credential.metadata.get? MetadataKey.role.text = some name ∧
      (S.storeAfter s₀ events).role? name = some role ∧ role.name = name ∧
      credential.lease.ttl = role.ttl ∧ credential.lease.maxTtl = role.maxTtl ∧
      credential.period = role.period ∧
      (credential.lease.maxTtl = 0 ∨ credential.lease.ttl ≤ credential.lease.maxTtl) ∧
      (∀ before context between,
        events = before ++ .manage context (.deleteRole name) :: between →
          ∃ entry ∈ Store.journal (managed between)
              (S.storeAfter s₀ (before ++ [.manage context (.deleteRole name)])),
            entry.Puts name role) ∧
      ∀ before context between,
        events = before ++ .manage context .clearConfiguration :: between →
          ∃ c, ∃ entry ∈ Store.journal (managed between)
              (S.storeAfter s₀ (before ++ [.manage context .clearConfiguration])),
            entry.Configures c := by
  obtain ⟨name, role, hasked, hsupports⟩ := S.supports_of_perform h
  obtain ⟨c, hconfigured⟩ := hsupports.configured
  have hadmissible : (S.storeAfter s₀ events).Admissible := by
    rw [storeAfter, store_after]
    exact Store.admissible_run _ Store.admissible_empty
  obtain ⟨hname, hvalid⟩ := hadmissible name role hsupports.stored
  have hlifetimes := (Role.validate_eq_ok_iff.1 hvalid).2
  rw [← hsupports.ttl, ← hsupports.maxTtl] at hlifetimes
  refine ⟨name, role, hasked, hsupports.named, hsupports.stored, hname, hsupports.ttl,
    hsupports.maxTtl, hsupports.period, hlifetimes, ?_, ?_⟩
  · rintro before context between rfl
    exact S.exists_puts s₀ hsupports.stored
  · rintro before context between rfl
    exact ⟨c, S.exists_configures s₀ hconfigured⟩

namespace Sample

open World.Sample (configuration identity role scheme)

/-- The sample world, with a store instead of its configuration and its role. -/
def world (store : Store) : World Unit Unit :=
  { World.Sample.world with
    configuration := .ok store.configuration
    role := fun name => .ok (store.role? name) }

/-- The sample engine, with a store instead of the role and the configuration of its world. -/
def service : Service (Inquiry.interface Unit) Unit where
  engine := .asking scheme
  answer store := (world store).answer
  configuration_eq _ _ := rfl
  role_eq _ _ _ := rfl

/-- The sample role with other lifetimes. -/
def shortened : Role := { role with maxTtl := 40, period := 5, ttl := 30 }

/-- The sample role is stored, deleted, and stored again with other lifetimes. -/
def events : List Event :=
  [.manage .root (.setConfiguration configuration), .manage .root (.putRole role),
    .manage .root (.deleteRole "r"), .manage .root (.putRole { shortened with ttl := 60 }),
    .manage .root (.putRole shortened)]

/-- What is stored then. -/
def stored : Store := ⟨some configuration, Dictionary.empty.insert "r" shortened⟩

theorem after_events : service.after events (.empty, ()) = (stored, ()) := by
  have hrooted : configuration.trustSettings =
      .ok ⟨.clientAuth, [Certificate.Sample.intermediate]⟩ := World.Sample.grounds.rooted
  rw [events, after, perform, Store.Operation.apply_setConfiguration hrooted]
  rfl

/-- A credential with the first lifetimes of the sample role. -/
def credential : Credential := .issue "r" role identity

/-- The credential is renewed with the lifetimes of the role that was stored last, after the role
of that name was deleted. -/
theorem renewed_with_stored_role :
    (service.perform (.renew .root credential "10.0.0.1") (service.after events (.empty, ()))).1 =
        some (credential.refresh shortened) ∧
      (credential.refresh shortened).lease.ttl = 30 ∧
      ∃ entry ∈ Store.journal (managed (events.drop 3)) (service.storeAfter () (events.take 3)),
        entry.Puts "r" shortened := by
  have hrenewed : (service.perform (.renew .root credential "10.0.0.1")
      (service.after events (.empty, ()))).1 = some (credential.refresh shortened) := by
    rw [after_events]
    have hrole : (world stored).role "r" = .ok (some shortened) := by decide +kernel
    have hadmitted := ((world stored).outcome_admission_eq_ok_iff scheme .root
      configuration "r" identity "10.0.0.1" () shortened).2
        ⟨hrole, by decide +kernel, (), rfl, World.agrees_forIdentity identity⟩
    have hmetadata : credential.metadata = Metadata.encode ⟨"r", identity⟩ := rfl
    have hrenewal := ((world stored).renew_eq_admission scheme .root .root "10.0.0.1"
      () () rfl (by decide) (identity.emptyField?_eq_none_iff.1 (by decide)) hmetadata).1
    rw [hadmitted] at hrenewal
    exact Except.toOption_eq_some_iff.2 hrenewal
  obtain ⟨name, role', hasked, -, hstored, -, -, -, -, -, hdeleted, -⟩ :=
    service.credentials_follow () events (.renew .root credential "10.0.0.1") _ hrenewed
  obtain rfl : "r" = name := Option.some.inj hasked
  rw [storeAfter, after_events] at hstored
  obtain rfl : shortened = role' := by
    have hrole : stored.role? "r" = some shortened := by decide +kernel
    exact Option.some.inj (hrole.symm.trans hstored)
  exact ⟨hrenewed, rfl, hdeleted (events.take 2) .root (events.drop 3) rfl⟩

end Sample

end Service

end WorkloadAuth
