import WorkloadAuth.Engine.Login
import WorkloadAuth.Proofs.Result
import WorkloadAuth.Proofs.World

/-!
# When a login succeeds

* `Window.Contains`, `Window.check_eq_ok_iff`: the replay window, as an interval of instants.
* `Grounds`: everything that a login rests on.
* `login_issued_iff`: a login issues a credential if and only if there are grounds for it, and then
  the credential is that of the identity and the role they name.
-/

namespace WorkloadAuth

open Calendar Directory Dialogue

/-! ## The window -/

/-- The calendar has both ends of the window of a request, and the signature was made between
them. -/
structure Window.Contains (received signed : Moment) : Prop where
  earliest_inCalendar : Moment.InCalendar { received with nanos := received.nanos - maxAge }
  latest_inCalendar : Moment.InCalendar { received with nanos := received.nanos + maxSkew }
  not_old : received.nanos - maxAge ≤ signed.nanos
  not_early : signed.nanos ≤ received.nanos + maxSkew

theorem Window.check_eq_ok_iff (signed received : Moment) (raw : String) :
    Window.check signed received raw = .ok () ↔ Window.Contains received signed := by
  simp only [Window.check, Moment.add?, ← Int.sub_eq_add_neg]
  by_cases he : Moment.InCalendar { received with nanos := received.nanos - maxAge }
  · by_cases hold : signed.nanos < received.nanos - maxAge
    · simp only [he, hold, if_true, reduceCtorEq, false_iff]
      exact fun h => absurd h.not_old (by omega)
    by_cases hl : Moment.InCalendar { received with nanos := received.nanos + maxSkew }
    · by_cases hearly : received.nanos + maxSkew < signed.nanos
      · simp only [he, hold, hl, hearly, if_true, if_false, reduceCtorEq, false_iff]
        exact fun h => absurd h.not_early (by omega)
      · simp only [he, hold, hl, hearly, if_true, if_false, true_iff]
        exact ⟨he, hl, by omega, by omega⟩
    · simp only [he, hold, hl, if_true, if_false, reduceCtorEq, false_iff]
      exact fun h => hl h.latest_inCalendar
  · simp only [he, if_false, reduceCtorEq, false_iff]
    exact fun h => he h.earliest_inCalendar

/-! ## Before the engine asks -/

theorem LoginRequest.emptyField?_eq_none_iff (request : LoginRequest) :
    request.emptyField? = none ↔ ∀ field, request.value field ≠ "" := by
  simp only [emptyField?, List.find?_eq_none, fieldOrder, beq_iff_eq]
  constructor
  · intro h field
    exact h field (by cases field <;> decide)
  · exact fun h field _ => h field

/-- A request is screened successfully if no field is empty and the signing time can be read and
lies in the window. -/
theorem Engine.screen_eq_ok_iff (request : LoginRequest) (received : Moment) :
    screen request received = .ok () ↔
      (∀ field, request.value field ≠ "") ∧
        ∃ signed, SigningTime.parse? request.signingTime = some signed ∧
          Window.Contains received signed := by
  rw [← LoginRequest.emptyField?_eq_none_iff]
  unfold screen
  cases request.emptyField? with
  | some field => simp
  | none =>
    cases SigningTime.parse? request.signingTime with
    | none => simp
    | some signed =>
      simp only [Option.some.injEq, exists_eq_left', true_and,
        ← Window.check_eq_ok_iff signed received request.signingTime]
      cases Window.check signed received request.signingTime <;> simp

/-- The owner of a certificate is authenticated if the roots and the presented certificates can be
read, the certificate is trusted, and it tells an identity. -/
theorem Engine.authenticate_eq_ok_iff (scheme : IdentityScheme) (c : Configuration)
    (certificate : Certificate) (request : LoginRequest) (received : Moment)
    (identity : Identity) :
    authenticate scheme c certificate request received = .ok identity ↔
      ∃ settings others, c.trustSettings = .ok settings ∧
        Certificate.chainOfPem request.certificate = .ok others ∧
        scheme.verify certificate others settings received = .ok () ∧
        scheme.identify certificate = .ok identity := by
  simp only [authenticate, presented, Except.bind_eq_ok_iff, Except.mapError_eq_ok_iff]
  constructor
  · rintro ⟨settings, hsettings, others, hothers, ⟨⟩, hverify, hidentify⟩
    exact ⟨settings, others, hsettings, hothers, hverify, hidentify⟩
  · rintro ⟨settings, others, hsettings, hothers, hverify, hidentify⟩
    exact ⟨settings, hsettings, others, hothers, (), hverify, hidentify⟩

@[simp] theorem Engine.outcome_settled {I : Interface.{0}} {σ α : Type}
    (answer : (question : I.Question) → σ → I.Answer question × σ) (result : Except Failure α)
    (s : σ) : outcome answer (settled result) s = result := rfl

/-! ## Grounds -/

/-- What a login rests on: a request received at a moment from a remote address, and all that is
found out about it in a world. -/
structure Grounds {Client σ : Type} (w : World Client σ) (scheme : IdentityScheme)
    (request : LoginRequest) (received : Moment) (remote : String) where
  signed : Moment
  certificate : Certificate
  configuration : Configuration
  settings : TrustSettings
  presented : List Certificate
  identity : Identity
  role : Role
  client : Client
  /-- No field of the request is empty. -/
  complete : ∀ field, request.value field ≠ ""
  /-- The signing time can be read. -/
  parsed : SigningTime.parse? request.signingTime = some signed
  /-- It lies in the window around the time of receipt. -/
  timely : Window.Contains received signed
  /-- The signature was made over these very texts with the key of the certificate. -/
  matched : w.certificateFor request.signature
    ⟨request.certificate, request.role, request.signingTime⟩ = .ok certificate
  configured : w.configuration = .ok (some configuration)
  /-- The roots can be read. -/
  rooted : configuration.trustSettings = .ok settings
  /-- The certificates of the request can be read. -/
  readable : Certificate.chainOfPem request.certificate = .ok presented
  /-- The matched certificate is trusted at the time of receipt. -/
  trusted : scheme.verify certificate presented settings received = .ok ()
  /-- The matched certificate tells the identity. -/
  identified : scheme.identify certificate = .ok identity
  stored : w.role request.role = .ok (some role)
  allowed : role.check identity remote = .ok ()
  /-- A client can be made from the settings of the same configuration. -/
  connected : w.connect configuration.directory = .ok client
  agreed : Agrees (w.lookUp client) identity

/-- The credential for which there are grounds. -/
def Grounds.credential {Client σ : Type} {w : World Client σ} {scheme : IdentityScheme}
    {request : LoginRequest} {received : Moment} {remote : String}
    (g : Grounds w scheme request received remote) : Credential :=
  .issue request.role g.role g.identity

/-! ## Logins -/

namespace World

variable {Client σ : Type} (w : World Client σ)

/-- The checks of a screened request, in terms of what the world tells. -/
theorem outcome_examine_eq_ok_iff (scheme : IdentityScheme) (context : Log.Context)
    (request : LoginRequest) (received : Moment) (remote : String) (s : σ)
    (credential : Credential) :
    outcome w.answer ((Engine.asking scheme).examine context request received remote) s =
        .ok credential ↔
      ∃ certificate c identity role client,
        w.certificateFor request.signature request.signedData = .ok certificate ∧
        w.configuration = .ok (some c) ∧
        Engine.authenticate scheme c certificate request received = .ok identity ∧
        w.role request.role = .ok (some role) ∧
        role.check identity remote = .ok () ∧
        w.connect c.directory = .ok client ∧
        Agrees (w.lookUp client) identity ∧
        Credential.issue request.role role identity = credential := by
  have hcertificate : outcome w.answer (Engine.attempt ((Engine.asking scheme).certificateFor
      request.signature request.signedData)) s =
        w.certificateFor request.signature request.signedData := rfl
  have hconfiguration (s : σ) : outcome w.answer
      (Engine.attempt (Engine.asking scheme).configuration) s = w.configuration := rfl
  simp only [Engine.examine, outcome_bind_eq_ok_iff, hcertificate, hconfiguration]
  refine exists_congr fun certificate => ?_
  rcases w.configuration with failure | (_ | c)
  · simp
  · simp
  · simp only [outcome_bind_eq_ok_iff, outcome_findRole_eq_ok_iff, outcome_validate_eq_ok_iff,
      Engine.outcome_settled, outcome_pure, Option.some.injEq, Except.ok.injEq, exists_eq_left',
      exists_const, exists_and_left, and_assoc]
    constructor
    · rintro ⟨hcertificate, identity, hidentity, role, hrole, hcheck, ⟨client, hclient, hagrees⟩,
        hissue⟩
      exact ⟨hcertificate, identity, hidentity, role, hrole, hcheck, client, hclient, hagrees,
        hissue⟩
    · rintro ⟨hcertificate, identity, hidentity, role, hrole, hcheck, client, hclient, hagrees,
        hissue⟩
      exact ⟨hcertificate, identity, hidentity, role, hrole, hcheck, ⟨client, hclient, hagrees⟩,
        hissue⟩

/-- The checks of a request succeed if the screen lets it pass and those that follow do. -/
theorem runWith_attemptLogin_eq_ok_iff (scheme : IdentityScheme) (context : Log.Context)
    (request : LoginRequest) (remote : String) (s : σ) (credential : Credential) :
    (((Engine.asking scheme).attemptLogin context request remote).runWith w.answer s).1 =
        .ok credential ↔
      Engine.screen request (w.react .now s).1 = .ok () ∧
        outcome w.answer ((Engine.asking scheme).examine context request (w.react .now s).1 remote)
          (w.react .now s).2 = .ok credential := by
  simp only [Engine.attemptLogin, Engine.asking_clock, runWith_bind, runWith_now]
  cases Engine.screen request (w.react .now s).1 with
  | error halt => simp
  | ok u => simp [Except.mapError_eq_ok_iff, outcome]

/-- A login issues a credential if and only if the checks of its request succeed. -/
theorem runWith_login_eq_issued_iff (scheme : IdentityScheme) (context : Log.Context)
    (request : LoginRequest) (remote : String) (s : σ) (credential : Credential) :
    (((Engine.asking scheme).login context request remote).runWith w.answer s).1 =
        .issued credential ↔
      (((Engine.asking scheme).attemptLogin (Engine.loginContext context request remote) request
        remote).runWith w.answer (w.next (.count .loginCount) s)).1 = .ok credential := by
  simp only [Engine.login, Engine.asking_surroundings, Inquiry.surroundings_count, runWith_bind,
    runWith_count]
  generalize ((Engine.asking scheme).attemptLogin _ request remote).runWith w.answer _ = checked
  obtain ⟨(failure | -) | issued, s'⟩ := checked <;> simp

/-- The time at which a request is received: what the clock shows when it is asked, which is after
the login is counted. -/
def receivedAt (s : σ) : Moment := (w.react .now (w.next (.count .loginCount) s)).1

/-- A login that issues a credential has grounds for it. -/
theorem grounds_of_issued {scheme : IdentityScheme} {context : Log.Context}
    {request : LoginRequest} {remote : String} {s : σ} {credential : Credential}
    (h : (((Engine.asking scheme).login context request remote).runWith w.answer s).1 =
      .issued credential) :
    ∃ g : Grounds w scheme request (w.receivedAt s) remote, g.credential = credential := by
  rw [runWith_login_eq_issued_iff, runWith_attemptLogin_eq_ok_iff, Engine.screen_eq_ok_iff,
    outcome_examine_eq_ok_iff] at h
  simp only [Engine.authenticate_eq_ok_iff] at h
  obtain ⟨⟨complete, signed, parsed, timely⟩, certificate, c, identity, role, client, matched,
    configured, ⟨settings, presented, rooted, readable, trusted, identified⟩, stored, allowed,
    connected, agreed, rfl⟩ := h
  exact ⟨⟨signed, certificate, c, settings, presented, identity, role, client, complete, parsed,
    timely, matched, configured, rooted, readable, trusted, identified, stored, allowed, connected,
    agreed⟩, rfl⟩

/-- Where there are grounds, a login issues the credential that they are for. -/
theorem issued_of_grounds {scheme : IdentityScheme} {request : LoginRequest} {remote : String}
    {s : σ} (g : Grounds w scheme request (w.receivedAt s) remote) (context : Log.Context) :
    (((Engine.asking scheme).login context request remote).runWith w.answer s).1 =
      .issued g.credential := by
  rw [runWith_login_eq_issued_iff, runWith_attemptLogin_eq_ok_iff, Engine.screen_eq_ok_iff,
    outcome_examine_eq_ok_iff]
  simp only [Engine.authenticate_eq_ok_iff]
  exact ⟨⟨g.complete, g.signed, g.parsed, g.timely⟩, g.certificate, g.configuration, g.identity,
    g.role, g.client, g.matched, g.configured,
    ⟨g.settings, g.presented, g.rooted, g.readable, g.trusted, g.identified⟩, g.stored, g.allowed,
    g.connected, g.agreed, rfl⟩

/-- **Soundness and completeness of logins.** A login issues a credential if and only if there are
grounds for it at the time of receipt, and the credential is the one that they are grounds for. -/
theorem login_issued_iff (scheme : IdentityScheme) (context : Log.Context)
    (request : LoginRequest) (remote : String) (s : σ) (credential : Credential) :
    (((Engine.asking scheme).login context request remote).runWith w.answer s).1 =
        .issued credential ↔
      ∃ g : Grounds w scheme request (w.receivedAt s) remote, g.credential = credential := by
  constructor
  · exact w.grounds_of_issued
  · rintro ⟨g, rfl⟩
    exact w.issued_of_grounds g context

end World

end WorkloadAuth
