import WorkloadAuth.Directory.Inventory
import WorkloadAuth.Engine.Renewal
import WorkloadAuth.Proofs.Alike
import WorkloadAuth.Proofs.CertificateText
import WorkloadAuth.Proofs.Login
import WorkloadAuth.Proofs.Snapshot
import WorkloadAuth.Proofs.Trust

/-!
# Renewals and logins

A login that knows an identity, and the renewal of a credential with the snapshot of this identity,
make the same checks.

* `Engine.admission`: these checks.
* `World.alike_examine`: a login makes them after the certificate told the identity.
* `World.alike_attemptRenewal`: a renewal makes them after the snapshot is read.
* `World.renewal_agrees_with_login`: what follows for the results of both.
* `World.Sample.grounds`: a login whose credential is renewed.
-/

namespace WorkloadAuth

open Calendar Directory Dialogue

/-- The checks of an identity for the role with a name: there is the role and allows the identity,
a client can be made, and the directory agrees. -/
def Engine.admission {I : Interface.{0}} (e : Engine I) (context : Log.Context)
    (c : Configuration) (name : String) (identity : Identity) (remote : String) :
    ExceptT Failure (Dialogue I) Role := do
  let role ← e.findRole name
  e.validate context c.directory role identity remote
  pure role

/-- A new credential has the lifetimes of its role. -/
theorem Credential.refresh_issue (name : String) (role : Role) (i : Identity) :
    (issue name role i).refresh role = issue name role i := rfl

theorem IdentityScheme.x509_verify_eq_ok_iff {algorithms : List Chain.Algorithm}
    {reader : CertificateFault → String} {c : Certificate} {presented : List Certificate}
    {settings : TrustSettings} {now : Moment} :
    (x509 algorithms reader).verify c presented settings now = .ok () ↔
      c.verify algorithms presented settings now = .ok () :=
  Except.mapError_eq_ok_iff

theorem IdentityScheme.x509_identify_eq_ok_iff {algorithms : List Chain.Algorithm}
    {reader : CertificateFault → String} {c : Certificate} {i : Identity} :
    (x509 algorithms reader).identify c = .ok i ↔ c.identity = .ok i :=
  Except.mapError_eq_ok_iff

namespace World

variable {Client σ α : Type} (w : World Client σ)

/-- Asking for the configuration looks nothing up. -/
theorem alike_configuration_bind (scheme : IdentityScheme) {found : Option Configuration}
    {f : Option Configuration → ExceptT Failure (Dialogue (Inquiry.interface Client)) α}
    {q : ExceptT Failure (Dialogue (Inquiry.interface Client)) α}
    (hconfiguration : w.configuration = .ok found) (h : w.Alike (f found) q) :
    w.Alike (Engine.attempt (Engine.asking scheme).configuration >>= f) q := by
  have houtcome (s : σ) : outcome w.answer
      (Engine.attempt (Engine.asking scheme).configuration) s = .ok found := hconfiguration
  constructor
  · intro s s'
    rw [outcome_bind, houtcome]
    exact h.outcome_eq _ _
  · intro s s'
    rw [lookedUp_bind, houtcome]
    exact h.lookedUp_eq _ _

theorem alike_certificateFor_bind (scheme : IdentityScheme) {signature : String}
    {data : SignedData} {certificate : Certificate}
    {f : Certificate → ExceptT Failure (Dialogue (Inquiry.interface Client)) α}
    {q : ExceptT Failure (Dialogue (Inquiry.interface Client)) α}
    (hcertificate : w.certificateFor signature data = .ok certificate)
    (h : w.Alike (f certificate) q) :
    w.Alike (Engine.attempt ((Engine.asking scheme).certificateFor signature data) >>= f) q := by
  have houtcome (s : σ) : outcome w.answer
      (Engine.attempt ((Engine.asking scheme).certificateFor signature data)) s =
        .ok certificate := hcertificate
  constructor
  · intro s s'
    rw [outcome_bind, houtcome]
    exact h.outcome_eq _ _
  · intro s s'
    rw [lookedUp_bind, houtcome]
    exact h.lookedUp_eq _ _

theorem alike_log_bind (record : Log.Record) (a : α) :
    w.Alike (ExceptT.lift (Inquiry.ask (.log record)) >>= fun _ => pure a) (pure a) :=
  ⟨fun _ _ => rfl, fun _ _ => rfl⟩

/-! ## Logins -/

/-- A login that knows the identity makes the checks of its admission, and issues a credential if
they succeed. -/
theorem alike_examine (scheme : IdentityScheme) (context context' : Log.Context)
    (request : LoginRequest) (received : Moment) (remote : String) {certificate : Certificate}
    {c : Configuration} {i : Identity}
    (hcertificate : w.certificateFor request.signature request.signedData = .ok certificate)
    (hconfiguration : w.configuration = .ok (some c))
    (hidentity : Engine.authenticate scheme c certificate request received = .ok i) :
    w.Alike ((Engine.asking scheme).examine context request received remote)
      ((Credential.issue request.role · i) <$>
        (Engine.asking scheme).admission context' c request.role i remote) := by
  refine w.alike_certificateFor_bind scheme hcertificate
    (w.alike_configuration_bind scheme hconfiguration ?_)
  have hsettled : Engine.settled (I := Inquiry.interface Client)
      (Engine.authenticate scheme c certificate request received) = pure i := by
    rw [hidentity]
    rfl
  simp only [Engine.asking_scheme, hsettled, pure_bind, Engine.admission, map_bind,
    map_pure]
  refine (w.alike_findRole scheme _).bind fun role => ?_
  exact (w.alike_validate scheme ..).bind fun _ => w.alike_pure _

/-! ## Renewals -/

theorem alike_attemptRenewal (scheme : IdentityScheme) (context context' : Log.Context)
    (remote : String) {credential : Credential} {c : Configuration} {name : String} {i : Identity}
    (hconfiguration : w.configuration = .ok (some c)) (hname : name ≠ "") (hcomplete : i.Complete)
    (hmetadata : credential.metadata = Metadata.encode ⟨name, i⟩) :
    w.Alike ((Engine.asking scheme).attemptRenewal context credential remote)
      (credential.refresh <$>
        (Engine.asking scheme).admission context' c name i remote) := by
  refine w.alike_configuration_bind scheme hconfiguration ?_
  have hfind := Metadata.find_encode ⟨name, i⟩ (show Metadata.value ⟨name, i⟩ .role ≠ "" from hname)
  have hrole : Engine.roleName credential = .ok name := by
    rw [Engine.roleName, hmetadata, hfind]
    rfl
  have hsnapshot : Engine.snapshot credential = .ok ⟨name, i⟩ := by
    rw [Engine.snapshot, hmetadata, Metadata.decode_encode hname hcomplete]
    rfl
  simp only [hrole, hsnapshot, mk_pure_ok, pure_bind, Engine.admission, map_bind,
    map_pure]
  refine (w.alike_findRole scheme _).bind fun role => ?_
  exact (w.alike_validate scheme ..).bind fun _ => w.alike_log_bind ..

/-- A renewal ends as its checks do. -/
theorem runWith_renew (scheme : IdentityScheme) (context : Log.Context) (credential : Credential)
    (remote : String) (s : σ) :
    (((Engine.asking scheme).renew context credential remote).runWith w.answer s).1 =
      outcome w.answer ((Engine.asking scheme).attemptRenewal
        (Engine.renewalContext context credential remote) credential remote)
          (w.next (.count .renewCount) s) := by
  simp only [Engine.renew, Engine.asking_surroundings, Inquiry.surroundings_count, runWith_bind,
    runWith_count, outcome]
  generalize ((Engine.asking scheme).attemptRenewal _ credential remote).run.runWith w.answer _ =
    checked
  obtain ⟨failure | renewed, s'⟩ := checked <;> simp

/-- A renewal looks up what its checks do. -/
theorem lookUps_renew (scheme : IdentityScheme) (context : Log.Context) (credential : Credential)
    (remote : String) (s : σ) :
    Inquiry.lookUps (((Engine.asking scheme).renew context credential remote).asked w.answer s) =
      w.lookedUp ((Engine.asking scheme).attemptRenewal
        (Engine.renewalContext context credential remote) credential remote)
          (w.next (.count .renewCount) s) := by
  simp only [Engine.renew, Engine.asking_surroundings, Inquiry.surroundings_count, asked_bind,
    runWith_count, lookedUp, Inquiry.lookUps_append]
  generalize ((Engine.asking scheme).attemptRenewal _ credential remote).run.runWith w.answer _ =
    checked
  obtain ⟨failure | renewed, s'⟩ := checked
  · exact List.append_nil _
  · exact List.append_nil _

/-! ## A sample -/

/-- The records that are made for an identity agree with it. -/
theorem agrees_forIdentity (i : Identity) :
    Agrees (fun kind id => ((Inventory.forIdentity i).lookUp kind id).1) i := by
  refine ⟨⟨i.instanceId, i.spaceId⟩, ⟨i.appId, 1, i.spaceId⟩, ⟨i.orgId⟩, ⟨i.spaceId, i.orgId⟩, ?_⟩
  constructor <;>
    simp [Inventory.lookUp, Inventory.get?, Inventory.forIdentity, Inventory.insertServiceInstance,
      Inventory.insertApp, Inventory.insertOrg, Inventory.insertSpace]

namespace Sample

open Certificate.Sample (leaf intermediate algorithm moment)

/-- The identity that the sample certificate tells. -/
def identity : Identity := ⟨"i", "o", "s", "a", .v4 0x0a000001⟩

/-- A role for a single app. -/
def role : Role := { name := "r", boundAppIds := ["a"], ttl := 60 }

def configuration : Configuration where
  directory := { apiAddress := "https://api.example", password := "p", username := "u" }
  identityCertificates := [intermediate.toPem]
  requiredUsage := .clientAuth

/-- A request that is signed at the moment of the sample. -/
def request : LoginRequest where
  certificate := leaf.toPem
  role := "r"
  signature := "signature"
  signingTime := "2001-09-09T01:46:40Z"

/-- A world with one certificate, one role, and the records of one identity. -/
def world : World Unit Unit where
  certificateFor _ _ := .ok leaf
  configuration := .ok (some configuration)
  role name := .ok (if name = "r" then some role else none)
  connect _ := .ok ()
  lookUp _ kind id := ((Inventory.forIdentity identity).lookUp kind id).1
  react
    | .now, s => (moment, s)
    | .failureId, s => (.ofRandom 0, s)
    | .certificateFor .., s => (.ok leaf, s)
    | .configuration, s => (.ok (some configuration), s)
    | .role _, s => (.ok (some role), s)
    | .connect .., s => (.ok (), s)
    | .lookUp _ kind id, s => (((Inventory.forIdentity identity).lookUp kind id).1, s)
    | .send _, s => (.error (.of (.foreign .http "connection refused")), s)
    | .log _, s => ((), s)
    | .count _, s => ((), s)

/-- The scheme of X.509 certificates with the algorithm of the sample certificates. -/
def scheme : IdentityScheme := .x509 [algorithm] fun _ => "Parsing Error: InvalidCertificate"

/-- The login of the sample has grounds. -/
def grounds : Grounds world scheme request (world.receivedAt ()) "10.0.0.1" where
  signed := moment
  certificate := leaf
  configuration := configuration
  settings := ⟨.clientAuth, [intermediate]⟩
  presented := [leaf]
  identity := identity
  role := role
  client := ()
  complete
    | .role => by decide
    | .signature => by decide
    | .certificate => leaf.toPem_ne_empty
    | .signingTime => by decide
  parsed := by decide +kernel
  timely := ⟨by decide +kernel, by decide +kernel, by decide +kernel, by decide +kernel⟩
  matched := rfl
  configured := rfl
  rooted := Configuration.trustSettings_toPem rfl (by decide +kernel)
  readable := Certificate.chainOfPem_toPem (c := leaf) (by decide +kernel)
  trusted := IdentityScheme.x509_verify_eq_ok_iff.2 (by decide +kernel)
  identified := IdentityScheme.x509_identify_eq_ok_iff.2 (by decide +kernel)
  stored := rfl
  allowed := by decide +kernel
  connected := rfl
  agreed := agrees_forIdentity identity

end Sample

/-! ## Both -/

/-- The checks of an admission succeed with the role if it allows the identity and the directory
agrees. -/
theorem outcome_admission_eq_ok_iff (scheme : IdentityScheme) (context : Log.Context)
    (c : Configuration) (name : String) (i : Identity) (remote : String) (s : σ) (role : Role) :
    outcome w.answer ((Engine.asking scheme).admission context c name i remote) s = .ok role ↔
      w.role name = .ok (some role) ∧ role.check i remote = .ok () ∧
        ∃ client, w.connect c.directory = .ok client ∧ Agrees (w.lookUp client) i := by
  simp only [Engine.admission, outcome_bind_eq_ok_iff, outcome_findRole_eq_ok_iff,
    outcome_validate_eq_ok_iff, outcome_pure, Except.ok.injEq]
  constructor
  · rintro ⟨role, hrole, -, hvalid, rfl⟩
    exact ⟨hrole, hvalid⟩
  · rintro ⟨hrole, hvalid⟩
    exact ⟨role, hrole, (), hvalid, rfl⟩

/-- A renewal ends as the admission of the identity in the snapshot does, and looks the same records
up. -/
theorem renew_eq_admission (scheme : IdentityScheme) (context context' : Log.Context)
    (remote : String) (s s' : σ) {credential : Credential} {c : Configuration} {name : String}
    {i : Identity} (hconfiguration : w.configuration = .ok (some c)) (hname : name ≠ "")
    (hcomplete : i.Complete) (hmetadata : credential.metadata = Metadata.encode ⟨name, i⟩) :
    (((Engine.asking scheme).renew context credential remote).runWith w.answer s).1 =
        (outcome w.answer ((Engine.asking scheme).admission context' c name i remote) s').map
          credential.refresh ∧
      Inquiry.lookUps (((Engine.asking scheme).renew context credential remote).asked w.answer s) =
        w.lookedUp ((Engine.asking scheme).admission context' c name i remote) s' := by
  have h := w.alike_attemptRenewal scheme (Engine.renewalContext context credential remote)
    context' remote hconfiguration hname hcomplete hmetadata
  rw [runWith_renew, lookUps_renew, h.outcome_eq _ s', h.lookedUp_eq _ s', outcome_map,
    lookedUp_map]
  exact ⟨rfl, rfl⟩

/-- **Renewals agree with logins.** The renewal of a credential with the snapshot of an identity and
the admission of this identity, which is the rest of a login that knows it, have the same result
and look the same records up. So a credential that was just issued is renewed without a change. -/
theorem renewal_agrees_with_login (remote : String) :
    (∀ (scheme : IdentityScheme) (context context' : Log.Context) (s s' : σ)
        (credential : Credential) (c : Configuration) (name : String) (i : Identity),
      w.configuration = .ok (some c) → name ≠ "" → i.Complete →
      credential.metadata = Metadata.encode ⟨name, i⟩ →
        (((Engine.asking scheme).renew context credential remote).runWith w.answer s).1 =
            (outcome w.answer ((Engine.asking scheme).admission context' c name i remote) s').map
              credential.refresh ∧
          Inquiry.lookUps
              (((Engine.asking scheme).renew context credential remote).asked w.answer s) =
            w.lookedUp ((Engine.asking scheme).admission context' c name i remote) s') ∧
    (∀ (scheme : IdentityScheme) (context context' : Log.Context) (s s' : σ)
        (request : LoginRequest) (received : Moment) (certificate : Certificate)
        (c : Configuration) (i : Identity),
      w.certificateFor request.signature request.signedData = .ok certificate →
      w.configuration = .ok (some c) →
      Engine.authenticate scheme c certificate request received = .ok i →
        outcome w.answer ((Engine.asking scheme).examine context request received remote) s =
            (outcome w.answer
              ((Engine.asking scheme).admission context' c request.role i remote) s').map
                (Credential.issue request.role · i) ∧
          w.lookedUp ((Engine.asking scheme).examine context request received remote) s =
            w.lookedUp ((Engine.asking scheme).admission context' c request.role i remote) s') ∧
    (∀ (algorithms : List Chain.Algorithm) (reader : CertificateFault → String)
        (context context' : Log.Context) (s s' : σ) (request : LoginRequest)
        (credential : Credential),
      (((Engine.asking (.x509 algorithms reader)).login context request remote).runWith
          w.answer s).1 = .issued credential →
        (((Engine.asking (.x509 algorithms reader)).renew context' credential remote).runWith
          w.answer s').1 = .ok credential) := by
  refine ⟨?_, ?_, ?_⟩
  · intro scheme context context' s s' credential c name i hconfiguration hname hcomplete hmetadata
    exact w.renew_eq_admission scheme context context' remote s s' hconfiguration hname hcomplete
      hmetadata
  · intro scheme context context' s s' request received certificate c i hcertificate
      hconfiguration hidentity
    have h := w.alike_examine scheme context context' request received remote hcertificate
      hconfiguration hidentity
    rw [h.outcome_eq s s', h.lookedUp_eq s s', outcome_map, lookedUp_map]
    exact ⟨rfl, rfl⟩
  · intro algorithms reader context context' s s' request credential hissued
    obtain ⟨g, rfl⟩ := w.grounds_of_issued hissued
    have hcomplete : g.identity.Complete :=
      Certificate.identity_complete (IdentityScheme.x509_identify_eq_ok_iff.1 g.identified)
    have hadmission := (w.outcome_admission_eq_ok_iff (.x509 algorithms reader) context'
      g.configuration request.role g.identity remote s' g.role).2
        ⟨g.stored, g.allowed, g.client, g.connected, g.agreed⟩
    have hname : request.role ≠ "" := g.complete .role
    have hmetadata : g.credential.metadata = Metadata.encode ⟨request.role, g.identity⟩ := rfl
    rw [(w.renew_eq_admission (.x509 algorithms reader) context' context' remote s' s' g.configured
      hname hcomplete hmetadata).1, hadmission]
    exact congrArg Except.ok (Credential.refresh_issue request.role g.role g.identity)

namespace Sample

open Certificate.Sample (leaf algorithm moment)

/-- The sample login issues a credential, which is renewed without a change. -/
theorem renewed_after_login :
    (((Engine.asking scheme).login .root request "10.0.0.1").runWith
        world.answer ()).1 = .issued grounds.credential ∧
      (((Engine.asking scheme).renew .root grounds.credential "10.0.0.1").runWith
        world.answer ()).1 = .ok grounds.credential ∧
      Inquiry.lookUps (((Engine.asking scheme).renew .root grounds.credential
          "10.0.0.1").asked world.answer ()) =
        world.lookedUp ((Engine.asking scheme).admission .root configuration "r"
          identity "10.0.0.1") () ∧
      world.lookedUp ((Engine.asking scheme).examine .root request moment
          "10.0.0.1") () =
        world.lookedUp ((Engine.asking scheme).admission .root configuration "r"
          identity "10.0.0.1") () := by
  obtain ⟨hrenewal, hlogin, hunchanged⟩ := world.renewal_agrees_with_login "10.0.0.1"
  have hissued := world.issued_of_grounds grounds .root
  have hidentity : Engine.authenticate scheme configuration leaf request moment =
      .ok identity :=
    (Engine.authenticate_eq_ok_iff ..).2 ⟨_, _, grounds.rooted, grounds.readable, grounds.trusted,
      grounds.identified⟩
  refine ⟨hissued, ?_, ?_, ?_⟩
  · exact hunchanged [algorithm] _ .root .root () () request grounds.credential hissued
  · exact (hrenewal scheme .root .root () () grounds.credential configuration "r"
      identity rfl (by decide) (identity.emptyField?_eq_none_iff.1 (by decide)) rfl).2
  · exact (hlogin scheme .root .root () () request moment leaf configuration identity
      rfl rfl hidentity).2

end Sample

end World

end WorkloadAuth
