import WorkloadAuth.Proofs.FirstFault
import WorkloadAuth.Proofs.Refusals
import WorkloadAuth.Proofs.SnapshotCodec

/-!
# The checks of a renewal

A renewal reads the stored configuration and role, the snapshot in the metadata of the credential,
and the records of the directory. Each of its checks can be said without the others, and the first
one that finds a fault tells why the renewal is refused.

* `RenewalStage`, `RenewalStage.order`: the checks, in the order in which they are made.
* `Renewal`: all that a renewal reads; `Renewal.result`: how it ends.
* `Renewal.fault?`: what a check finds.
* `Renewal.endsAs_result`: a renewal ends with its first fault.
* `Renewal.result_decides`: when a credential is renewed, what is changed of it, and why it is
  refused.
-/

namespace WorkloadAuth

open Directory Dialogue Net

/-! ## Checks -/

/-- The checks of a renewal. -/
inductive RenewalStage where
  /-- The store tells a configuration. -/
  | configuration
  /-- A text of the snapshot is there, and not empty. -/
  | text (key : MetadataKey)
  /-- The store tells the role. -/
  | role
  /-- The address can be read. -/
  | address
  /-- The role allows the identity and the remote address. -/
  | constraints
  /-- A client of the directory can be made. -/
  | client
  /-- The directory agrees with the identity. -/
  | directory
  deriving DecidableEq, Repr

namespace RenewalStage

/-- The checks of a snapshot whose role is known. -/
def snapshot : List RenewalStage :=
  [.text .ipAddress, .address, .text .instanceId, .text .orgId, .text .spaceId, .text .appId]

/-- The checks of an identity that is known. -/
def validation : List RenewalStage := [.constraints, .client, .directory]

/-- The checks, in the order in which they are made. -/
def order : List RenewalStage := .configuration :: .text .role :: .role :: (snapshot ++ validation)

end RenewalStage

/-- A renewal of a credential for a workload at a remote address, in a state of a world. -/
structure Renewal (Client σ : Type) where
  world : World Client σ
  scheme : IdentityScheme
  context : Log.Context
  credential : Credential
  remote : String
  state : σ

namespace Renewal

variable {Client σ : Type} (r : Renewal Client σ)

/-- How a renewal ends. -/
def result : Except Failure Credential :=
  (((Engine.asking r.scheme).renew r.context r.credential r.remote).runWith r.world.answer
    r.state).1

/-- A text of the snapshot, if it is there and not empty. -/
def text? (key : MetadataKey) : Option String :=
  (r.credential.metadata.get? key.text).filter (· ≠ "")

/-- The role of the snapshot, if the store tells it now. -/
def role? : Option Role := (r.text? .role).bind fun name => (r.world.role name).toOption.join

/-- The address of the snapshot. -/
def address? : Option IpAddress := (r.text? .ipAddress).bind IpAddress.parse?

/-- The identity of the snapshot. -/
def identity? : Option Identity := do
  some ⟨← r.text? .instanceId, ← r.text? .orgId, ← r.text? .spaceId, ← r.text? .appId,
    ← r.address?⟩

/-- The configuration, if the store tells one. -/
def configuration? : Option Configuration := r.world.configuration.toOption.join

/-- The client of the directory, if one can be made from the settings of the configuration. -/
def client? : Option Client :=
  r.configuration?.bind fun c => (r.world.connect c.directory).toOption

/-- What a check finds. A check of something that is missing finds nothing. -/
def fault? : RenewalStage → Option Failure
  | .configuration =>
    match r.world.configuration with
    | .error failure => some failure
    | .ok none => some (.of .noDirectory)
    | .ok (some _) => none
  | .text key =>
    match r.text? key with
    | none => some (.of (.missingMetadata key))
    | some _ => none
  | .role =>
    (r.text? .role).bind fun name =>
      match r.world.role name with
      | .error failure => some failure
      | .ok none => some (.of (.noMatchingRole name))
      | .ok (some _) => none
  | .address =>
    (r.text? .ipAddress).bind fun text =>
      match IpAddress.parse? text with
      | none => some (.of (.invalidMetadata .ipAddress text))
      | some _ => none
  | .constraints =>
    r.role?.bind fun role =>
      r.identity?.bind fun i =>
        (Except.error? (role.check i r.remote)).map fun m => .of (.roleMismatch m)
  | .client => r.configuration?.bind fun c => Except.error? (r.world.connect c.directory)
  | .directory =>
    r.client?.bind fun client =>
      r.identity?.bind fun i => Except.error? (verdict (r.world.lookUp client) i)

/-! ## Snapshots -/

variable {r}

theorem ne_empty_of_text? {key : MetadataKey} {text : String} (h : r.text? key = some text) :
    text ≠ "" := by
  have hfilter := (Option.filter_eq_some_iff.1 h).2
  simpa using hfilter

theorem text?_eq_some_iff {key : MetadataKey} {text : String} :
    r.text? key = some text ↔ Metadata.find r.credential.metadata key = .ok text := by
  rw [Metadata.find_eq_ok_iff, text?, Option.filter_eq_some_iff]
  simp

theorem find_of_none {key : MetadataKey} (h : r.text? key = none) :
    Metadata.find r.credential.metadata key = .error (.missing key) := by
  unfold text? at h
  unfold Metadata.find
  cases hfound : r.credential.metadata.get? key.text with
  | none => rfl
  | some text =>
    rw [hfound, Option.filter_eq_none_iff] at h
    have hempty : text = "" := by simpa using h text rfl
    exact if_pos hempty

/-- A text that is looked for in a snapshot makes its check, and leads to the other ones. -/
theorem endsAs_find {α : Type} {P : α → Prop} {key : MetadataKey} {checks : List RenewalStage}
    {f : String → Except MetadataFault α}
    (h : ∀ text, r.text? key = some text →
      EndsAs r.fault? checks P ((f text).mapError fun fault => .of fault.cause)) :
    EndsAs r.fault? (.text key :: checks) P
      ((Metadata.find r.credential.metadata key >>= f).mapError fun fault => .of fault.cause) := by
  cases htext : r.text? key with
  | none =>
    rw [find_of_none htext]
    exact endsAs_cons_of_some (by simp only [fault?, htext, MetadataFault.cause])
  | some text =>
    rw [text?_eq_some_iff.1 htext]
    exact (h text htext).cons_of_none (by rw [fault?, htext])

/-- The snapshot of a credential that names a role is read as its checks have it. -/
theorem endsAs_snapshot {name : String} (hrole : r.text? .role = some name) :
    EndsAs r.fault? RenewalStage.snapshot
      (fun m => m.role = name ∧ r.identity? = some m.identity) (Engine.snapshot r.credential) := by
  unfold Engine.snapshot Metadata.decode
  rw [text?_eq_some_iff.1 hrole, Except.ok_bind]
  refine endsAs_find fun text htext => ?_
  cases hparse : IpAddress.parse? text with
  | none => exact endsAs_cons_of_some (by simp [fault?, htext, hparse, MetadataFault.cause])
  | some address =>
    refine EndsAs.cons_of_none ?_ (by simp [fault?, htext, hparse])
    refine endsAs_find fun instanceId hinstance => endsAs_find fun orgId horg => ?_
    refine endsAs_find fun spaceId hspace => endsAs_find fun appId happ => ?_
    have hmake : Identity.make instanceId orgId spaceId appId address =
        .ok ⟨instanceId, orgId, spaceId, appId, address⟩ :=
      Identity.make_eq_ok_iff.2 ⟨rfl, ne_empty_of_text? hinstance, ne_empty_of_text? horg,
        ne_empty_of_text? hspace, ne_empty_of_text? happ⟩
    rw [hmake]
    exact endsAs_nil ⟨rfl, by
      simp [identity?, address?, hinstance, horg, hspace, happ, htext, hparse]⟩

/-! ## Renewals -/

theorem endsAs_roleName :
    EndsAs r.fault? [.text .role] (fun name => r.text? .role = some name)
      (Engine.roleName r.credential) := by
  cases htext : r.text? .role with
  | none =>
    have hname : Engine.roleName r.credential = .error (.of (.missingMetadata .role)) := by
      rw [Engine.roleName, find_of_none htext]
      rfl
    rw [hname]
    exact endsAs_cons_of_some (by simp only [fault?, htext])
  | some name =>
    have hname : Engine.roleName r.credential = .ok name := by
      rw [Engine.roleName, text?_eq_some_iff.1 htext]
      rfl
    rw [hname]
    exact EndsAs.cons_of_none (endsAs_nil rfl) (by simp only [fault?, htext])

theorem endsAs_findRole {name : String} (scheme : IdentityScheme) (s : σ)
    (htext : r.text? .role = some name) :
    EndsAs r.fault? [.role] (fun role => r.role? = some role)
      (outcome r.world.answer ((Engine.asking scheme).findRole name) s) := by
  rw [World.outcome_findRole]
  rcases hrole : r.world.role name with failure | (_ | role)
  · exact endsAs_cons_of_some (by simp [fault?, htext, hrole])
  · exact endsAs_cons_of_some (by simp [fault?, htext, hrole])
  · have hstored : r.role? = some role := by simp [role?, htext, hrole, Except.toOption]
    exact EndsAs.cons_of_none (endsAs_nil hstored) (by simp [fault?, htext, hrole])

/-- An identity that is known is validated as its checks have it. -/
theorem endsAs_validate {c : Configuration} {role : Role} {i : Identity} (scheme : IdentityScheme)
    (context : Log.Context) (s : σ) (hconfiguration : r.configuration? = some c)
    (hrole : r.role? = some role) (hidentity : r.identity? = some i) :
    EndsAs r.fault? RenewalStage.validation (fun _ => True)
      (outcome r.world.answer
        ((Engine.asking scheme).validate context c.directory role i r.remote) s) := by
  unfold Engine.validate
  cases hcheck : role.check i r.remote with
  | error mismatch => exact endsAs_cons_of_some (by simp [fault?, hrole, hidentity, hcheck])
  | ok u =>
    refine EndsAs.cons_of_none ?_ (by simp [fault?, hrole, hidentity, hcheck])
    rw [outcome_bind, World.outcome_connect]
    cases hconnect : r.world.connect c.directory with
    | error failure => exact endsAs_cons_of_some (by simp [fault?, hconfiguration, hconnect])
    | ok client =>
      refine EndsAs.cons_of_none ?_ (by simp [fault?, hconfiguration, hconnect])
      have hclient : r.client? = some client := by
        simp [client?, hconfiguration, hconnect, Except.toOption]
      change EndsAs r.fault? [.directory] _
        (outcome r.world.answer (reconcile (World.access client) context i) _)
      rw [World.outcome_reconcile]
      cases hverdict : verdict (r.world.lookUp client) i with
      | error failure =>
        exact endsAs_cons_of_some (by simp [fault?, hclient, hidentity, hverdict])
      | ok u =>
        exact (endsAs_nil trivial).cons_of_none (by simp [fault?, hclient, hidentity, hverdict])

variable (r)

/-- A renewal ends with its first fault. Where there is none, the credential gets the lifetimes of
the role. -/
theorem endsAs_result :
    EndsAs r.fault? RenewalStage.order
      (fun renewed => ∃ role, r.role? = some role ∧ renewed = r.credential.refresh role)
      r.result := by
  rw [result, World.runWith_renew, Engine.attemptRenewal, outcome_bind]
  change EndsAs _ _ _ (Except.bind r.world.configuration _)
  rcases hconfiguration : r.world.configuration with failure | (_ | c)
  · exact endsAs_cons_of_some (by simp only [fault?, hconfiguration])
  · exact endsAs_cons_of_some (by simp only [fault?, hconfiguration])
  · refine EndsAs.cons_of_none ?_ (by simp only [fault?, hconfiguration])
    have hstored : r.configuration? = some c := by
      simp [configuration?, hconfiguration, Except.toOption]
    show EndsAs _ _ _ (outcome _ (_ >>= _) _)
    rw [outcome_bind]
    refine endsAs_roleName.append fun name hname => ?_
    rw [outcome_bind]
    refine (endsAs_findRole _ _ hname).append fun role hrole => ?_
    rw [outcome_bind]
    refine (endsAs_snapshot hname).append fun m hm => ?_
    rw [outcome_bind]
    refine (endsAs_validate _ _ _ hstored hrole hm.2).bind_ok fun _ _ => ?_
    exact ⟨_, rfl, role, hrole, rfl⟩

/-- When a renewal succeeds, and what it changes. -/
theorem result_eq_ok_iff {renewed : Credential} :
    r.result = .ok renewed ↔
      ∃ c m role client,
        r.world.configuration = .ok (some c) ∧
        Metadata.RecordedIn m r.credential.metadata ∧
        r.world.role m.role = .ok (some role) ∧
        role.check m.identity r.remote = .ok () ∧
        r.world.connect c.directory = .ok client ∧
        Agrees (r.world.lookUp client) m.identity ∧
        renewed = r.credential.refresh role := by
  have hconfiguration (s : σ) : outcome (ε := Failure) r.world.answer
      (Engine.attempt (Engine.asking r.scheme).configuration) s = r.world.configuration := rfl
  rw [result, World.runWith_renew]
  simp only [Engine.attemptRenewal, outcome_bind_eq_ok_iff, hconfiguration]
  rcases hstored : r.world.configuration with failure | (_ | c)
  · simp
  · simp
  · simp only [outcome_bind_eq_ok_iff, outcome_mk, runWith_pure, World.outcome_findRole_eq_ok_iff,
      World.outcome_validate_eq_ok_iff, outcome_pure, outcome_lift, Except.ok.injEq,
      Option.some.injEq, exists_const, Engine.roleName, Engine.snapshot,
      Except.mapError_eq_ok_iff, ← Metadata.decode_eq_ok_iff, exists_eq_left']
    constructor
    · rintro ⟨name, hname, role, hrole, m, hm, ⟨hcheck, client, hclient, hagrees⟩, -, rfl⟩
      have hkept := (Metadata.decode_eq_ok_iff.1 hm).kept .role (by decide)
      obtain rfl : m.role = name :=
        Option.some.inj (hkept.symm.trans (Metadata.find_eq_ok_iff.1 hname).1)
      exact ⟨c, m, role, client, rfl, hm, hrole, hcheck, hclient, hagrees, rfl⟩
    · rintro ⟨c, m, role, client, rfl, hm, hrole, hcheck, hclient, hagrees, rfl⟩
      have hrecorded := Metadata.decode_eq_ok_iff.1 hm
      have hname := Metadata.find_eq_ok_iff.2
        ⟨hrecorded.kept .role (by decide), hrecorded.filled .role⟩
      exact ⟨m.role, hname, role, hrole, m, hm, ⟨hcheck, client, hclient, hagrees⟩, trivial, rfl⟩

theorem result_eq_error_iff {failure : Failure} :
    r.result = .error failure ↔
      ∃ stage, FailsFirst r.fault? RenewalStage.order stage failure := by
  rw [r.endsAs_result.cases.2 failure, firstFault_eq_error_iff]

/-- What a renewal comes to, the role or the first fault, depends on nothing but its world, the
metadata of the credential and the remote address. -/
theorem exists_verdict :
    ∃ verdict : Except Failure Role, ∀ r' : Renewal Client σ, r'.world = r.world →
      r'.remote = r.remote → r'.credential.metadata = r.credential.metadata →
        r'.result = verdict.map r'.credential.refresh := by
  have htext {r' : Renewal Client σ} (hmetadata : r'.credential.metadata = r.credential.metadata)
      (key : MetadataKey) : r'.text? key = r.text? key := by
    rw [text?, text?, hmetadata]
  have hfault {r' : Renewal Client σ} (hworld : r'.world = r.world) (hremote : r'.remote = r.remote)
      (hmetadata : r'.credential.metadata = r.credential.metadata) : r'.fault? = r.fault? := by
    funext c
    cases c <;>
      simp only [fault?, role?, identity?, address?, configuration?, client?, htext hmetadata,
        hworld, hremote]
  have hends := r.endsAs_result
  unfold EndsAs at hends
  cases hfirst : firstFault r.fault? RenewalStage.order with
  | error failure =>
    refine ⟨.error failure, fun r' hworld hremote hmetadata => ?_⟩
    have hends' := r'.endsAs_result
    rw [EndsAs, hfault hworld hremote hmetadata, hfirst] at hends'
    exact hends'
  | ok u =>
    rw [hfirst] at hends
    obtain ⟨-, -, role, hrole, -⟩ := hends
    refine ⟨.ok role, fun r' hworld hremote hmetadata => ?_⟩
    have hends' := r'.endsAs_result
    rw [EndsAs, hfault hworld hremote hmetadata, hfirst] at hends'
    obtain ⟨-, hresult, role', hrole', rfl⟩ := hends'
    rw [role?, htext hmetadata, hworld, ← role?, hrole] at hrole'
    obtain rfl := Option.some.inj hrole'
    exact hresult

/-- **Renewal, end to end.** A credential is renewed if and only if a configuration is stored, the
metadata hold a snapshot, its role is stored and allows its identity, a client can be made, and the
directory agrees. Only the lifetimes of the credential change then, to those of the role. Otherwise
the renewal fails as the first of its checks that does. What it comes to depends on the metadata of
the credential alone, and to renew the result once more changes nothing. -/
theorem result_decides :
    (∀ renewed, r.result = .ok renewed ↔
      ∃ c m role client,
        r.world.configuration = .ok (some c) ∧
        Metadata.RecordedIn m r.credential.metadata ∧
        r.world.role m.role = .ok (some role) ∧
        role.check m.identity r.remote = .ok () ∧
        r.world.connect c.directory = .ok client ∧
        Agrees (r.world.lookUp client) m.identity ∧
        renewed =
          { r.credential with
            lease := { r.credential.lease with maxTtl := role.maxTtl, ttl := role.ttl }
            period := role.period }) ∧
    (∀ failure, r.result = .error failure ↔
      ∃ stage, FailsFirst r.fault? RenewalStage.order stage failure) ∧
    (∃ verdict : Except Failure Role, ∀ r' : Renewal Client σ, r'.world = r.world →
      r'.remote = r.remote → r'.credential.metadata = r.credential.metadata →
        r'.result = verdict.map r'.credential.refresh) ∧
    (∀ r' : Renewal Client σ, r'.world = r.world → r'.remote = r.remote →
      r.result = .ok r'.credential → r'.result = .ok r'.credential) := by
  refine ⟨fun renewed => r.result_eq_ok_iff, fun failure => r.result_eq_error_iff,
    r.exists_verdict, fun r' hworld hremote hrenewed => ?_⟩
  obtain ⟨c, m, role, client, hc, hm, hrole, hcheck, hclient, hagrees, hrefresh⟩ :=
    r.result_eq_ok_iff.1 hrenewed
  refine r'.result_eq_ok_iff.2 ⟨c, m, role, client, ?_⟩
  have hmetadata : r'.credential.metadata = r.credential.metadata := by
    rw [hrefresh]
    rfl
  rw [hworld, hremote, hmetadata]
  refine ⟨hc, hm, hrole, hcheck, hclient, hagrees, ?_⟩
  rw [hrefresh]
  rfl

namespace Sample

open World.Sample (role configuration)

/-- A credential that was not issued: its metadata have another text of the address, and more than
a snapshot. -/
def foreign : Credential where
  aliasName := "other"
  boundNetworks := []
  displayName := ""
  lease := ⟨7, false, 7⟩
  metadata := .ofList [("app_id", "a"), ("instance_id", "i"), ("ip_address", "::ffff:a00:1"),
    ("note", ""), ("org_id", "o"), ("role", "r"), ("space_id", "s")]
  period := 7
  policies := ["root"]

/-- The snapshot in them: its address is an IPv4 address inside IPv6. -/
def snapshot : Metadata := ⟨"r", ⟨"i", "o", "s", "a", .v6 0xffff0a000001⟩⟩

/-- Its renewal by the workload. -/
def renewal : Renewal Unit Unit where
  world := World.Sample.world
  scheme := World.Sample.scheme
  context := .root
  credential := foreign
  remote := "10.0.0.1"
  state := ()

/-- The credential once it is renewed. -/
def renewed : Credential := foreign.refresh role

/-- The renewal of a credential that names no stored role, and has no address either. -/
def roleless : Renewal Unit Unit :=
  { renewal with credential := { foreign with metadata := .ofList [("role", "q")] } }

/-- What was not issued is renewed as well, keeps all but its lifetimes, and is renewed again
without a change. Of two faults the first one is told. -/
theorem renewed_without_login :
    renewal.result = .ok renewed ∧
      ({ renewal with credential := renewed } : Renewal Unit Unit).result = .ok renewed ∧
      renewed.lease = ⟨role.maxTtl, false, 60⟩ ∧ renewed.policies = ["root"] ∧
      roleless.result = .error (.of (.noMatchingRole "q")) := by
  obtain ⟨hok, -, -, hagain⟩ := renewal.result_decides
  have hrecorded : snapshot.RecordedIn foreign.metadata :=
    { kept := fun key hkey => by
        cases key
        case ipAddress => exact absurd rfl hkey
        all_goals decide +kernel
      filled := fun key => by cases key <;> decide +kernel
      addressed := ⟨"::ffff:a00:1", by decide +kernel, by decide +kernel⟩ }
  have hrenewed : renewal.result = .ok renewed :=
    (hok renewed).2 ⟨configuration, snapshot, role, (), rfl, hrecorded, rfl, by decide +kernel,
      rfl, World.agrees_forIdentity snapshot.identity, rfl⟩
  obtain ⟨-, herror, -⟩ := roleless.result_decides
  have hfails : FailsFirst roleless.fault? RenewalStage.order .role (.of (.noMatchingRole "q")) :=
    { mem := by decide
      fails := by decide +kernel
      passed := by decide +kernel }
  exact ⟨hrenewed, hagain { renewal with credential := renewed } rfl rfl hrenewed, rfl, rfl,
    (herror _).2 ⟨.role, hfails⟩⟩

end Sample

end Renewal

end WorkloadAuth
