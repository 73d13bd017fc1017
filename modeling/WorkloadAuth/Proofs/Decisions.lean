import WorkloadAuth.Proofs.Login
import WorkloadAuth.Proofs.Tasks
import WorkloadAuth.Proofs.Transcript
import WorkloadAuth.Store

/-!
# Decisions

What tasks read, told from their transcripts: a task that ends with a credential has decided on one
configuration and one role, and no task asks twice for either.

* `Reading`, `Answered.reading?`: what is read of the store and of the directory.
* `Snapshot`: one configuration and one role, with all that a decision uses of them.
* `LoginDecision`, `RenewalDecision`: how a credential comes about.
* `exists_loginDecision`, `exists_renewalDecision`: there is a decision for each credential.
* `Stored.atMost_dialogue`: how often a task asks for what is stored.
-/

namespace WorkloadAuth

open Calendar Directory Dialogue

variable {Client : Type}

/-! ## What is read -/

/-- What a session reads of the store and of the directory. -/
inductive Reading (Client : Type) where
  | configuration (moment : Nat) (found : Except Failure (Option Configuration))
  | role (moment : Nat) (name : String) (found : Except Failure (Option Role))
  | connection (settings : DirectorySettings) (result : Except Failure Client)
  | lookUp (client : Client)

/-- What is read of the store is what was stored at that moment. -/
def Reading.Faithful (storeAt : Nat → Store) : Reading Client → Prop
  | configuration moment found => found = .ok (storeAt moment).configuration
  | role moment name found => found = .ok ((storeAt moment).role? name)
  | _ => True

/-- Whether a question is about the configuration. -/
def Inquiry.isConfiguration : Inquiry Client → Bool
  | .configuration => true
  | _ => false

/-- Whether a question is about a role. -/
def Inquiry.isRole : Inquiry Client → Bool
  | .role _ => true
  | _ => false

/-- What is read by a question. -/
def Answered.reading? : Answered (Inquiry.interface Client) → Option (Reading Client)
  | ⟨moment, .configuration, found⟩ => some (.configuration moment found)
  | ⟨moment, .role name, found⟩ => some (.role moment name found)
  | ⟨_, .connect _ settings, result⟩ => some (.connection settings result)
  | ⟨_, .lookUp client _ _, _⟩ => some (.lookUp client)
  | _ => none

/-! ## Decisions -/

/-- One configuration and one role that were stored, all that a decision on an identity uses of
the store and of the directory. -/
structure Snapshot (storeAt : Nat → Store) (readings : List (Reading Client)) (name : String)
    (identity : Identity) (remote : String) where
  /-- When the configuration is read. -/
  configured : Nat
  configuration : Configuration
  /-- When the role is read. -/
  assigned : Nat
  role : Role
  client : Client
  /-- How many records are looked up. -/
  lookUps : Nat
  /-- Nothing is read twice, and the directory is the one that this configuration names. -/
  readings_eq : readings = .configuration configured (.ok (some configuration)) ::
    .role assigned name (.ok (some role)) :: .connection configuration.directory (.ok client) ::
      List.replicate lookUps (.lookUp client)
  configuration_stored : (storeAt configured).configuration = some configuration
  role_stored : (storeAt assigned).role? name = some role
  /-- All constraints are those of this role. -/
  allowed : role.check identity remote = .ok ()

/-- What a login has decided on. -/
structure LoginDecision (scheme : IdentityScheme) (storeAt : Nat → Store)
    (transcript : List (Answered (Inquiry.interface Client))) (request : LoginRequest)
    (remote : String) where
  received : Moment
  certificate : Certificate
  settings : TrustSettings
  presented : List Certificate
  identity : Identity
  snapshot : Snapshot storeAt (transcript.filterMap Answered.reading?) request.role identity remote
  clocked : ∃ moment, ⟨moment, .now, received⟩ ∈ transcript
  matched : ∃ moment, ⟨moment, .certificateFor request.signature request.signedData,
    .ok certificate⟩ ∈ transcript
  /-- The roots and the usage are those of the configuration of the snapshot. -/
  rooted : snapshot.configuration.trustSettings = .ok settings
  readable : Certificate.chainOfPem request.certificate = .ok presented
  trusted : scheme.verify certificate presented settings received = .ok ()
  identified : scheme.identify certificate = .ok identity

/-- What a renewal has decided on. -/
structure RenewalDecision (storeAt : Nat → Store)
    (transcript : List (Answered (Inquiry.interface Client))) (old : Credential)
    (remote : String) where
  name : String
  metadata : Metadata
  named : Engine.roleName old = .ok name
  decoded : Engine.snapshot old = .ok metadata
  snapshot : Snapshot storeAt (transcript.filterMap Answered.reading?) name metadata.identity remote

/-! ## What a dialogue reads -/

section Readings

variable {scheme : IdentityScheme} {context : Log.Context} {remote : String}
  {steps : List (Answered (Inquiry.interface Client))}

/-- The only question that a single question asks. -/
theorem follows_ask_done {q : Inquiry Client} {a : q.Answer}
    (h : Follows (Inquiry.ask q) steps (.done a)) : ∃ moment, steps = [⟨moment, q, a⟩] := by
  rcases follows_perform h with rfl | ⟨moment, a', hsteps, hrest⟩
  · cases h
  · cases hrest
    exact ⟨moment, hsteps⟩

theorem follows_settled {α : Type} {result : Except Failure α} {a : α}
    (h : Follows (Engine.settled (I := Inquiry.interface Client) result).run steps
      (.done (.ok a))) : steps = [] ∧ result = .ok a := by
  obtain ⟨hsteps, hrest⟩ := follows_done h
  cases hrest
  exact ⟨hsteps, rfl⟩

/-- The comparison with the directory reads nothing but by its client. -/
theorem readings_reconcile {client : Client} {identity : Identity}
    {rest : Dialogue (Inquiry.interface Client) (Except Failure Unit)}
    (h : Follows (reconcile ⟨fun kind id => Inquiry.ask (.lookUp client kind id),
      Inquiry.surroundings.log⟩ context identity).run steps rest) :
    ∃ n, steps.filterMap Answered.reading? = List.replicate n (.lookUp client) := by
  let byClient (x : Answered (Inquiry.interface Client)) : Prop :=
    ∀ r, x.reading? = some r → r = .lookUp client
  have honly : Only byClient (reconcile ⟨fun kind id => Inquiry.ask (.lookUp client kind id),
      Inquiry.surroundings.log⟩ context identity).run := by
    refine (compositional_only byClient).reconcile (fun kind id => ?_) (fun record _ => ?_) _ _
    · exact only_perform fun moment a r hr => (Option.some.inj hr).symm
    · exact (only_perform fun moment a r hr => nomatch hr).map _
  refine ⟨_, List.eq_replicate_of_mem fun r hr => ?_⟩
  obtain ⟨x, hx, hread⟩ := List.mem_filterMap.1 hr
  exact honly steps rest h x hx r hread

/-- The checks against a role and the directory read nothing that is stored. -/
theorem readings_validate {settings : DirectorySettings} {role : Role} {identity : Identity}
    (h : Follows ((Engine.asking scheme).validate context settings role identity remote).run steps
      (.done (.ok ()))) :
    role.check identity remote = .ok () ∧ ∃ client n, steps.filterMap Answered.reading? =
      .connection settings (.ok client) :: List.replicate n (.lookUp client) := by
  unfold Engine.validate at h
  split at h
  · obtain ⟨-, hrest⟩ := follows_done h
    cases hrest
  rename_i hcheck
  rw [Engine.attempt_connect_asking, ← bind_pure_comp, bind_assoc] at h
  obtain ⟨first, last, client, rfl, hconnect, hreconcile⟩ := h.of_bind_ok
  rw [pure_bind] at hreconcile
  obtain ⟨moment, rfl⟩ := follows_ask_done hconnect
  obtain ⟨n, hlast⟩ := readings_reconcile hreconcile
  refine ⟨hcheck, client, n, ?_⟩
  rw [List.filterMap_append, hlast]
  rfl

theorem follows_findRole {name : String} {role : Role}
    (h : Follows ((Engine.asking scheme).findRole name).run steps (.done (.ok role))) :
    ∃ moment, steps = [⟨moment, .role name, .ok (some role)⟩] := by
  obtain ⟨first, last, found, rfl, hask, hfound⟩ := h.of_bind_ok
  obtain ⟨moment, rfl⟩ := follows_ask_done hask
  cases found with
  | none =>
    obtain ⟨-, hrest⟩ := follows_done hfound
    cases hrest
  | some found =>
    obtain ⟨rfl, hrest⟩ := follows_done hfound
    cases hrest
    exact ⟨moment, rfl⟩

end Readings

/-! ## Credentials come from decisions -/

section Decided

variable {scheme : IdentityScheme} {storeAt : Nat → Store} {context : Log.Context} {remote : String}
  {steps : List (Answered (Inquiry.interface Client))} {credential : Credential}

/-- What is read faithfully, with checks by one role, is a snapshot. -/
theorem exists_snapshot {readings : List (Reading Client)} {name : String} {identity : Identity}
    {configured assigned lookUps : Nat} {c : Configuration} {role : Role} {client : Client}
    (hreadings : readings = .configuration configured (.ok (some c)) ::
      .role assigned name (.ok (some role)) :: .connection c.directory (.ok client) ::
        List.replicate lookUps (.lookUp client))
    (hfaithful : ∀ r ∈ readings, r.Faithful storeAt)
    (hallowed : role.check identity remote = .ok ()) :
    ∃ s : Snapshot storeAt readings name identity remote, s.configuration = c ∧ s.role = role := by
  have hconfiguration := hfaithful (.configuration configured (.ok (some c))) (by simp [hreadings])
  have hrole := hfaithful (.role assigned name (.ok (some role))) (by simp [hreadings])
  exact ⟨⟨configured, c, assigned, role, client, lookUps, hreadings,
    (Except.ok.inj hconfiguration).symm, (Except.ok.inj hrole).symm, hallowed⟩, rfl, rfl⟩

/-- The checks of a screened request, if they succeed. -/
theorem follows_examine {request : LoginRequest} {received : Moment}
    (h : Follows ((Engine.asking scheme).examine context request received remote).run steps
      (.done (.ok credential))) :
    ∃ moment certificate configured c identity assigned role client n,
      ⟨moment, .certificateFor request.signature request.signedData, .ok certificate⟩ ∈ steps ∧
      steps.filterMap Answered.reading? = .configuration configured (.ok (some c)) ::
        .role assigned request.role (.ok (some role)) :: .connection c.directory (.ok client) ::
          List.replicate n (.lookUp client) ∧
      Engine.authenticate scheme c certificate request received = .ok identity ∧
      role.check identity remote = .ok () ∧
      Credential.issue request.role role identity = credential := by
  obtain ⟨_, _, certificate, rfl, hcertificate, h₁⟩ := h.of_bind_ok
  obtain ⟨moment, rfl⟩ := follows_ask_done hcertificate
  obtain ⟨_, _, found, rfl, hconfiguration, h₂⟩ := h₁.of_bind_ok
  obtain ⟨configured, rfl⟩ := follows_ask_done hconfiguration
  cases found with
  | none =>
    obtain ⟨-, hrest⟩ := follows_done h₂
    cases hrest
  | some c =>
    obtain ⟨_, _, identity, rfl, hidentity, h₃⟩ := h₂.of_bind_ok
    obtain ⟨rfl, hauthentic⟩ := follows_settled hidentity
    obtain ⟨_, _, role, rfl, hrole, h₄⟩ := h₃.of_bind_ok
    obtain ⟨assigned, rfl⟩ := follows_findRole hrole
    obtain ⟨_, _, ⟨⟩, rfl, hvalidate, h₅⟩ := h₄.of_bind_ok
    obtain ⟨hcheck, client, n, hvalidated⟩ := readings_validate hvalidate
    obtain ⟨rfl, hrest⟩ := follows_done h₅
    cases hrest
    refine ⟨moment, certificate, configured, c, identity, assigned, role, client, n,
      List.mem_append_left _ (List.mem_singleton_self _), ?_, hauthentic, hcheck, rfl⟩
    simp only [List.filterMap_append, hvalidated]
    exact congrArg (_ :: _ :: _ :: ·) (List.append_nil _)

/-- The frame of a login reads nothing. -/
theorem follows_concludeLogin {checked : Except Halt Credential}
    (h : Follows ((Engine.asking scheme).concludeLogin context checked) steps
      (.done (.issued credential))) :
    checked = .ok credential ∧ steps.filterMap Answered.reading? = [] := by
  match checked with
  | .ok issued =>
    obtain ⟨first, last, ⟨⟩, rfl, hlog, hlast⟩ := h.of_bind_done
    obtain ⟨moment, rfl⟩ := follows_ask_done hlog
    obtain ⟨rfl, hrest⟩ := follows_done hlast
    cases hrest
    exact ⟨rfl, rfl⟩
  | .error .aborted =>
    obtain ⟨-, hrest⟩ := follows_done h
    cases hrest
  | .error (.failed failure) =>
    obtain ⟨first, last, ⟨⟩, rfl, -, hredact⟩ := h.of_bind_done
    rw [← bind_pure_comp] at hredact
    obtain ⟨_, last, id, rfl, -, hrefused⟩ := hredact.of_bind_done
    obtain ⟨-, hrest⟩ := follows_done hrefused
    cases hrest

/-- A login that issues a credential has decided on a snapshot. -/
theorem exists_loginDecision {request : LoginRequest}
    (h : Follows ((Engine.asking scheme).login context request remote) steps
      (.done (.issued credential)))
    (hfaithful : ∀ r ∈ steps.filterMap Answered.reading?, r.Faithful storeAt) :
    ∃ d : LoginDecision scheme storeAt steps request remote,
      credential.IssuedFor request.role d.snapshot.role d.identity := by
  rw [Engine.login_eq] at h
  obtain ⟨_, checks, ⟨⟩, hsteps, hcount, h₁⟩ := h.of_bind_done
  obtain ⟨counted, rfl⟩ := follows_ask_done hcount
  obtain ⟨_, last, checked, rfl, hchecked, hconclude⟩ := h₁.of_bind_done
  obtain ⟨rfl, hlast⟩ := follows_concludeLogin hconclude
  obtain ⟨_, _, received, rfl, hnow, h₂⟩ := hchecked.of_bind_done
  obtain ⟨clocked, rfl⟩ := follows_ask_done hnow
  split at h₂
  · obtain ⟨-, hrest⟩ := follows_done h₂
    cases hrest
  obtain ⟨examined, _, result, rfl, hexamine, hresult⟩ := h₂.of_bind_done
  obtain ⟨rfl, hrest⟩ := follows_done hresult
  cases result with
  | error failure => cases hrest
  | ok issued =>
    cases hrest
    obtain ⟨matched, certificate, configured, c, identity, assigned, role, client, n, hmatched,
      hexamined, hidentity, hcheck, rfl⟩ := follows_examine hexamine
    obtain ⟨settings, presented, rooted, readable, trusted, identified⟩ :=
      (Engine.authenticate_eq_ok_iff ..).1 hidentity
    have hreadings : steps.filterMap Answered.reading? = examined.filterMap Answered.reading? := by
      simp only [hsteps, List.filterMap_append, hlast, List.append_nil]
      rfl
    obtain ⟨snapshot, rfl, rfl⟩ := exists_snapshot (hreadings.trans hexamined) hfaithful hcheck
    subst hsteps
    exact ⟨⟨received, certificate, settings, presented, identity, snapshot,
      ⟨clocked, by simp⟩, ⟨matched, by simp [hmatched]⟩, rooted, readable, trusted, identified⟩,
      Credential.issuedFor_iff.2 rfl⟩

/-- The checks of a renewal, if they succeed. -/
theorem follows_attemptRenewal {old : Credential}
    (h : Follows ((Engine.asking scheme).attemptRenewal context old remote).run steps
      (.done (.ok credential))) :
    ∃ configured c name assigned role metadata client n,
      steps.filterMap Answered.reading? = .configuration configured (.ok (some c)) ::
        .role assigned name (.ok (some role)) :: .connection c.directory (.ok client) ::
          List.replicate n (.lookUp client) ∧
      Engine.roleName old = .ok name ∧ Engine.snapshot old = .ok metadata ∧
      role.check metadata.identity remote = .ok () ∧ old.refresh role = credential := by
  obtain ⟨_, _, found, rfl, hconfiguration, h₁⟩ := h.of_bind_ok
  obtain ⟨configured, rfl⟩ := follows_ask_done hconfiguration
  cases found with
  | none =>
    obtain ⟨-, hrest⟩ := follows_done h₁
    cases hrest
  | some c =>
    obtain ⟨_, _, name, rfl, hname, h₂⟩ := h₁.of_bind_ok
    obtain ⟨rfl, hnamed⟩ := follows_settled hname
    obtain ⟨_, _, role, rfl, hrole, h₃⟩ := h₂.of_bind_ok
    obtain ⟨assigned, rfl⟩ := follows_findRole hrole
    obtain ⟨_, _, metadata, rfl, hmetadata, h₄⟩ := h₃.of_bind_ok
    obtain ⟨rfl, hdecoded⟩ := follows_settled hmetadata
    obtain ⟨_, _, ⟨⟩, rfl, hvalidate, h₅⟩ := h₄.of_bind_ok
    obtain ⟨hcheck, client, n, hvalidated⟩ := readings_validate hvalidate
    obtain ⟨_, _, ⟨⟩, rfl, hlog, h₆⟩ := h₅.of_bind_ok
    obtain ⟨moment, rfl⟩ := follows_ask_done hlog.of_lift
    obtain ⟨rfl, hrest⟩ := follows_done h₆
    cases hrest
    refine ⟨configured, c, name, assigned, role, metadata, client, n, ?_, hnamed, hdecoded, hcheck,
      rfl⟩
    simp only [List.filterMap_append, hvalidated]
    exact congrArg (_ :: _ :: _ :: ·) (List.append_nil _)

/-- The frame of a renewal reads nothing. -/
theorem follows_concludeRenewal {checked : Except Failure Credential}
    (h : Follows ((Engine.asking scheme).concludeRenewal context checked) steps
      (.done (.ok credential))) : checked = .ok credential ∧ steps = [] := by
  match checked with
  | .ok renewed =>
    obtain ⟨rfl, hrest⟩ := follows_done h
    cases hrest
    exact ⟨rfl, rfl⟩
  | .error failure =>
    obtain ⟨_, _, ⟨⟩, rfl, -, h₁⟩ := h.of_bind_done
    obtain ⟨_, _, ⟨⟩, rfl, -, h₂⟩ := h₁.of_bind_done
    obtain ⟨-, hrest⟩ := follows_done h₂
    cases hrest

/-- A renewal that succeeds has decided on a snapshot. -/
theorem exists_renewalDecision {old : Credential}
    (h : Follows ((Engine.asking scheme).renew context old remote) steps
      (.done (.ok credential)))
    (hfaithful : ∀ r ∈ steps.filterMap Answered.reading?, r.Faithful storeAt) :
    ∃ d : RenewalDecision storeAt steps old remote,
      credential.RefreshedFrom old d.snapshot.role := by
  rw [Engine.renew_eq] at h
  obtain ⟨_, _, ⟨⟩, hsteps, hcount, h₁⟩ := h.of_bind_done
  obtain ⟨counted, rfl⟩ := follows_ask_done hcount
  obtain ⟨checks, _, checked, rfl, hchecked, hconclude⟩ := h₁.of_bind_done
  obtain ⟨rfl, rfl⟩ := follows_concludeRenewal hconclude
  obtain ⟨configured, c, name, assigned, role, metadata, client, n, hchecks, hnamed, hdecoded,
    hcheck, rfl⟩ := follows_attemptRenewal hchecked
  have hreadings : steps.filterMap Answered.reading? = checks.filterMap Answered.reading? := by
    rw [hsteps, List.append_nil]
    rfl
  obtain ⟨snapshot, -, rfl⟩ := exists_snapshot (hreadings.trans hchecks) hfaithful hcheck
  exact ⟨⟨name, metadata, hnamed, hdecoded, snapshot⟩, Credential.refreshedFrom_iff.2 rfl⟩

end Decided

/-! ## How often tasks read -/

section Bounds

variable {kind : Inquiry Client → Bool} {n m : Nat}

/-- All questions of a kind are about what is stored: at most `n` where the configuration is asked
for, and at most `m` where a role is. -/
structure Stored (kind : Inquiry Client → Bool) (n m : Nat) : Prop where
  configuration : AtMost kind n (Inquiry.ask .configuration)
  role : ∀ name, AtMost kind m (Inquiry.ask (.role name))
  other : ∀ q, q.isConfiguration = false → q.isRole = false → kind q = false

theorem stored_isConfiguration : Stored (@Inquiry.isConfiguration Client) 1 0 where
  configuration := atMost_perform _
  role _ := atMost_zero (only_perform fun _ _ => rfl)
  other _ h _ := h

theorem stored_isRole : Stored (@Inquiry.isRole Client) 0 1 where
  configuration := atMost_zero (only_perform fun _ _ => rfl)
  role _ := atMost_perform _
  other _ _ h := h

namespace Stored

variable {scheme : IdentityScheme} {context : Log.Context} {remote : String}

/-- The other questions are not of the kind. -/
theorem quiet (h : Stored kind n m) {q : Inquiry Client}
    (hconfiguration : q.isConfiguration = false) (hrole : q.isRole = false) :
    Only (fun x => kind x.question = false) (Inquiry.ask q) :=
  only_perform fun _ _ => h.other q hconfiguration hrole

theorem quiet_validate (h : Stored kind n m) (settings : DirectorySettings) (role : Role)
    (identity : Identity) : Only (fun x => kind x.question = false)
      ((Engine.asking scheme).validate context settings role identity remote).run := by
  refine (compositional_only _).validate (Engine.attempt_connect_asking scheme context settings)
    (h.quiet rfl rfl) (fun client lookedUp id => h.quiet rfl rfl) (fun record _ => ?_) _ _ _
  exact (h.quiet rfl rfl).map _

theorem atMost_findRole (h : Stored kind n m) (name : String) :
    AtMost kind m ((Engine.asking scheme).findRole name).run := by
  refine AtMost.bind_run (m := 0) (h.role name) fun found => ?_
  cases found with
  | none => exact atMost_done _
  | some role => exact atMost_done _

theorem atMost_examine (h : Stored kind n m) (request : LoginRequest) (received : Moment) :
    AtMost kind (n + m) ((Engine.asking scheme).examine context request received remote).run := by
  refine Only.bind_run_atMost (h.quiet rfl rfl) fun certificate => ?_
  refine AtMost.bind_run h.configuration fun found => ?_
  cases found with
  | none => exact atMost_done _
  | some c =>
    refine Only.bind_run_atMost (only_done _) fun identity => ?_
    refine AtMost.bind_run (m := 0) (h.atMost_findRole _) fun role => ?_
    exact Only.bind_run_atMost (h.quiet_validate _ _ _) fun _ => atMost_done _

theorem quiet_concludeLogin (h : Stored kind n m) (checked : Except Halt Credential) :
    Only (fun x => kind x.question = false)
      ((Engine.asking scheme).concludeLogin context checked) := by
  match checked with
  | .ok credential => exact (h.quiet rfl rfl).bind fun _ => only_done _
  | .error .aborted => exact only_done _
  | .error (.failed failure) =>
    refine (h.quiet rfl rfl).bind fun _ => Only.map ?_ _
    exact (h.quiet rfl rfl).bind fun id => (h.quiet rfl rfl).bind fun _ => only_done id

theorem atMost_login (h : Stored kind n m) (request : LoginRequest) :
    AtMost kind (n + m) ((Engine.asking scheme).login context request remote) := by
  rw [Engine.login_eq]
  refine Only.bind_atMost (h.quiet rfl rfl) fun _ => ?_
  refine AtMost.bind (m := 0) ?_ fun checked => atMost_zero (h.quiet_concludeLogin checked)
  refine Only.bind_atMost (h.quiet rfl rfl) fun received => ?_
  split
  · exact atMost_done _
  · exact AtMost.bind (m := 0) (h.atMost_examine _ _) fun _ => atMost_done _

theorem atMost_attemptRenewal (h : Stored kind n m) (old : Credential) :
    AtMost kind (n + m) ((Engine.asking scheme).attemptRenewal context old remote).run := by
  refine AtMost.bind_run h.configuration fun found => ?_
  cases found with
  | none => exact atMost_done _
  | some c =>
    refine Only.bind_run_atMost (only_done _) fun name => ?_
    refine AtMost.bind_run (m := 0) (h.atMost_findRole _) fun role => ?_
    refine Only.bind_run_atMost (only_done _) fun metadata => ?_
    refine Only.bind_run_atMost (h.quiet_validate _ _ _) fun _ => ?_
    exact Only.bind_run_atMost ((h.quiet rfl rfl).map _) fun _ => atMost_done _

theorem quiet_concludeRenewal (h : Stored kind n m) (checked : Except Failure Credential) :
    Only (fun x => kind x.question = false)
      ((Engine.asking scheme).concludeRenewal context checked) := by
  match checked with
  | .ok renewed => exact only_done _
  | .error failure =>
    exact (h.quiet rfl rfl).bind fun _ => (h.quiet rfl rfl).bind fun _ => only_done _

theorem atMost_renew (h : Stored kind n m) (old : Credential) :
    AtMost kind (n + m) ((Engine.asking scheme).renew context old remote) := by
  rw [Engine.renew_eq]
  refine Only.bind_atMost (h.quiet rfl rfl) fun _ => ?_
  exact AtMost.bind (m := 0) (h.atMost_attemptRenewal old) fun checked =>
    atMost_zero (h.quiet_concludeRenewal checked)

/-- Every task asks for the configuration and for a role at most once. -/
theorem atMost_dialogue (h : Stored kind n m) (t : Task) :
    AtMost kind (n + m) (t.dialogue (.asking scheme)) := by
  cases t with
  | login context request remote => exact h.atMost_login request
  | renew context credential remote => exact h.atMost_renew credential

end Stored

end Bounds

end WorkloadAuth
