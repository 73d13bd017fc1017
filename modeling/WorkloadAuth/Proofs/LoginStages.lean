import WorkloadAuth.Proofs.Login
import WorkloadAuth.Proofs.Reconciliation

/-!
# Stages of a login

A login goes through stages, each of which may end it. They read the request, what parts of the
engine tell, and what earlier stages have found.

* `LoginStage`, `LoginStage.index`: the stages and their order.
* `LoginAttempt`: all that the stages of a login read; `LoginAttempt.halt?`: why a stage ends the
  login, if it does.
* `LoginAttempt.HaltsAt`: the first stage that ends a login; `HaltsAt.unique`: there is at most one.
* `LoginAttempt.ends_screen`, `LoginAttempt.ends_authenticate`: the checks that ask nothing end as
  the stages do that they consist of.
* `LoginAttempt.SameUpTo`, `LoginAttempt.HaltsAt.congr`: which stage ends a login first, and why,
  depends on nothing that only later stages read.
-/

namespace WorkloadAuth

open Calendar Directory Dialogue

/-- Whether the roots of a configuration can be read depends on their texts only. -/
theorem Configuration.error?_trustSettings {c d : Configuration}
    (h : c.identityCertificates = d.identityCertificates) :
    Except.error? c.trustSettings = Except.error? d.trustSettings := by
  unfold trustSettings
  rw [h]
  rcases rootsFrom 0 d.identityCertificates with fault | (_ | ⟨root, roots⟩) <;> rfl

/-! ## Stages -/

/-- The stages of a login. -/
inductive LoginStage where
  /-- A field of the request is not empty. -/
  | field (field : LoginField)
  /-- The signing time can be read. -/
  | signingTime
  /-- It lies in the window around the time of receipt. -/
  | window
  /-- The matcher knows with whose key the signature was made. -/
  | signature
  /-- The store tells a configuration. -/
  | configuration
  /-- Its roots can be read. -/
  | roots
  /-- The certificates of the request can be read. -/
  | presented
  /-- The matched certificate is trusted. -/
  | trust
  /-- It tells an identity. -/
  | identity
  /-- The store tells the role. -/
  | role
  /-- It allows the identity and the remote address. -/
  | constraints
  /-- A client of the directory can be made. -/
  | client
  /-- The directory agrees with the identity. -/
  | directory
  deriving DecidableEq, Repr

/-- The place of a stage in the order in which they follow each other. -/
def LoginStage.index : LoginStage → Nat
  | .field .role => 0
  | .field .signature => 1
  | .field .certificate => 2
  | .field .signingTime => 3
  | .signingTime => 4
  | .window => 5
  | .signature => 6
  | .configuration => 7
  | .roots => 8
  | .presented => 9
  | .trust => 10
  | .identity => 11
  | .role => 12
  | .constraints => 13
  | .client => 14
  | .directory => 15

theorem LoginStage.index_injective : Function.Injective index := by
  intro s t h
  rcases s with (_ | _ | _ | _) | _ <;> rcases t with (_ | _ | _ | _) | _ <;>
    first | rfl | exact absurd h (by decide)

/-- The directory stage is the last one. -/
theorem LoginStage.index_le_directory (t : LoginStage) : t.index ≤ directory.index := by
  rcases t with (_ | _ | _ | _) | _ <;> decide

/-! ## What the stages read -/

/-- A login with all that its stages read: what its world tells, how certificates are verified, the
request, the time of receipt and the remote address. -/
structure LoginAttempt (Client σ : Type) where
  world : World Client σ
  scheme : IdentityScheme
  request : LoginRequest
  received : Moment
  remote : String

namespace LoginAttempt

variable {Client σ τ : Type} (a : LoginAttempt Client σ)

/-- What the matcher says of the signature. -/
def matched : Except Failure Certificate :=
  a.world.certificateFor a.request.signature a.request.signedData

/-- The configuration, if the store tells one. -/
def configuration? : Option Configuration := a.world.configuration.toOption.join

/-- What certificates are verified with, if the configuration tells it. -/
def settings? : Option TrustSettings :=
  a.configuration?.bind fun c => c.trustSettings.toOption

/-- The identity that the matched certificate tells. -/
def identity? : Option Identity := a.matched.toOption.bind fun c => (a.scheme.identify c).toOption

/-- What the store says of the role that is asked for. -/
def assigned : Except Failure (Option Role) := a.world.role a.request.role

/-- The role that is asked for, if the store tells it. -/
def role? : Option Role := a.assigned.toOption.join

/-- The client of the directory, if one can be made from the settings of the configuration. -/
def client? : Option Client :=
  a.configuration?.bind fun c => (a.world.connect c.directory).toOption

/-- Why a stage ends the login, if it does. A stage that is not reached, since what it reads is
missing, does not end it. -/
def halt? : LoginStage → Option Halt
  | .field f => if a.request.value f = "" then some (.failed (.of (.missingField f))) else none
  | .signingTime =>
    match SigningTime.parse? a.request.signingTime with
    | none => some (.failed (.of (.unreadableSigningTime a.request.signingTime)))
    | some _ => none
  | .window =>
    (SigningTime.parse? a.request.signingTime).bind fun signed =>
      (Except.error? (Window.check signed a.received a.request.signingTime)).map Window.Fault.halt
  | .signature => (Except.error? a.matched).map .failed
  | .configuration =>
    match a.world.configuration with
    | .error failure => some (.failed failure)
    | .ok none => some (.failed (.of .noRoots))
    | .ok (some _) => none
  | .roots =>
    a.configuration?.bind fun c =>
      (Except.error? c.trustSettings).map fun fault => .failed (.of fault.cause)
  | .presented => (Except.error? (Engine.presented a.request)).map .failed
  | .trust =>
    a.matched.toOption.bind fun c =>
      a.settings?.bind fun settings =>
        (Engine.presented a.request).toOption.bind fun others =>
          (Except.error? (a.scheme.verify c others settings a.received)).map .failed
  | .identity =>
    a.matched.toOption.bind fun c => (Except.error? (a.scheme.identify c)).map .failed
  | .role =>
    match a.assigned with
    | .error failure => some (.failed failure)
    | .ok none => some (.failed (.of (.noMatchingRole a.request.role)))
    | .ok (some _) => none
  | .constraints =>
    a.role?.bind fun role =>
      a.identity?.bind fun i =>
        (Except.error? (role.check i a.remote)).map fun m => .failed (.of (.roleMismatch m))
  | .client =>
    a.configuration?.bind fun c => (Except.error? (a.world.connect c.directory)).map .failed
  | .directory =>
    a.client?.bind fun client =>
      a.identity?.bind fun i =>
        (Except.error? (verdict (a.world.lookUp client) i)).map .failed

/-- No stage before a given one ends the login. -/
def Reaches (stage : LoginStage) : Prop :=
  ∀ t : LoginStage, t.index < stage.index → a.halt? t = none

/-- A stage is the first one that ends the login. -/
structure HaltsAt (stage : LoginStage) (halt : Halt) : Prop where
  reached : a.Reaches stage
  halts : a.halt? stage = some halt

variable {a}

theorem identity?_eq {c : Certificate} {i : Identity} (hmatched : a.matched = .ok c)
    (hidentified : a.scheme.identify c = .ok i) : a.identity? = some i := by
  simp [identity?, hmatched, hidentified, Except.toOption]

theorem Reaches.haltsAt {stage : LoginStage} {halt : Halt} (h : a.Reaches stage)
    (hhalts : a.halt? stage = some halt) : a.HaltsAt stage halt := ⟨h, hhalts⟩

/-- A stage that does not end the login leads to the next one. -/
theorem Reaches.next {stage after : LoginStage} (h : a.Reaches stage)
    (hpassed : a.halt? stage = none) (hafter : after.index = stage.index + 1) :
    a.Reaches after := by
  intro t ht
  rcases Nat.lt_or_ge t.index stage.index with hlt | hge
  · exact h t hlt
  · rw [LoginStage.index_injective (show t.index = stage.index by omega)]
    exact hpassed

/-- A stage that a login reaches is not behind the first one that ends it. -/
theorem HaltsAt.index_le {stage reached : LoginStage} {halt : Halt} (h : a.HaltsAt stage halt)
    (hreached : a.Reaches reached) : reached.index ≤ stage.index := by
  rcases Nat.lt_or_ge stage.index reached.index with hlt | hge
  · exact absurd (hreached _ hlt) (by simp [h.halts])
  · exact hge

/-- At most one stage is the first that ends a login. -/
theorem HaltsAt.unique {stage stage' : LoginStage} {halt halt' : Halt} (h : a.HaltsAt stage halt)
    (h' : a.HaltsAt stage' halt') : stage = stage' ∧ halt = halt' := by
  have hindex : stage.index = stage'.index :=
    Nat.le_antisymm (h'.index_le h.reached) (h.index_le h'.reached)
  obtain rfl := LoginStage.index_injective hindex
  exact ⟨rfl, Option.some.inj (h.halts.symm.trans h'.halts)⟩

/-! ## Screens and authentications -/

theorem halt?_field {f : LoginField} (h : a.request.value f ≠ "") : a.halt? (.field f) = none :=
  if_neg h

/-- The fields in front of the first empty one have a value. -/
theorem value_ne_of_emptyField? {request : LoginRequest} {f g : LoginField}
    (h : request.emptyField? = some f)
    (hlt : (LoginStage.field g).index < (LoginStage.field f).index) : request.value g ≠ "" := by
  obtain ⟨-, before, later, horder, hbefore⟩ := List.find?_eq_some_iff_append.1 h
  have hmem : g ∈ before := by
    rcases before with _ | ⟨b₀, _ | ⟨b₁, _ | ⟨b₂, _ | ⟨b₃, before⟩⟩⟩⟩ <;>
      simp only [LoginRequest.fieldOrder, List.nil_append, List.cons_append, List.cons.injEq]
        at horder <;>
      cases g <;> cases f <;> simp_all [LoginStage.index]
  simpa using hbefore g hmem

/-- The first empty field of a request is the first stage that ends the login. -/
theorem haltsAt_emptyField {f : LoginField} (h : a.request.emptyField? = some f) :
    a.HaltsAt (.field f) (.failed (.of (.missingField f))) := by
  refine ⟨fun t ht => ?_, if_pos (by simpa using (List.find?_eq_some_iff_append.1 h).1)⟩
  cases t with
  | field g => exact halt?_field (value_ne_of_emptyField? h ht)
  | _ => exact absurd ht (by cases f <;> decide)

/-- A request whose fields have values reaches the reading of the signing time. -/
theorem reaches_signingTime (h : ∀ f, a.request.value f ≠ "") : a.Reaches .signingTime := by
  intro t ht
  cases t with
  | field g => exact halt?_field (h g)
  | _ => exact absurd ht (by decide)

/-- The screen of a request ends as the first six stages do. -/
theorem ends_screen (a : LoginAttempt Client σ) :
    match Engine.screen a.request a.received with
    | .ok () => a.Reaches .signature
    | .error halt => ∃ stage : LoginStage, stage.index ≤ LoginStage.window.index ∧
        a.HaltsAt stage halt := by
  unfold Engine.screen
  cases hfields : a.request.emptyField? with
  | some f => exact ⟨.field f, by cases f <;> decide, haltsAt_emptyField hfields⟩
  | none =>
    have hreached := reaches_signingTime ((LoginRequest.emptyField?_eq_none_iff _).1 hfields)
    cases hparsed : SigningTime.parse? a.request.signingTime with
    | none => exact ⟨.signingTime, by decide, hreached, by simp only [halt?, hparsed]⟩
    | some signed =>
      have hreached : a.Reaches .window := hreached.next (by simp only [halt?, hparsed]) rfl
      simp only
      cases hwindow : Window.check signed a.received a.request.signingTime with
      | error fault => exact ⟨.window, Nat.le_refl _, hreached, by simp [halt?, hparsed, hwindow]⟩
      | ok u => exact hreached.next (by simp [halt?, hparsed, hwindow]) rfl

/-- The authentication of the owner of a certificate ends as the stages from the roots to the
identity do. -/
theorem ends_authenticate {c : Configuration} {certificate : Certificate}
    (hconfigured : a.configuration? = some c) (hmatched : a.matched = .ok certificate)
    (hreached : a.Reaches .roots) :
    match Engine.authenticate a.scheme c certificate a.request a.received with
    | .ok i => a.identity? = some i ∧ a.Reaches .role
    | .error failure => ∃ stage : LoginStage, stage.index ≤ LoginStage.identity.index ∧
        a.HaltsAt stage (.failed failure) := by
  cases hrooted : c.trustSettings with
  | error fault =>
    simp only [Engine.authenticate, hrooted, Except.mapError_error, Except.error_bind]
    exact ⟨.roots, by decide, hreached, by simp [halt?, hconfigured, hrooted]⟩
  | ok settings =>
    have hreached : a.Reaches .presented :=
      hreached.next (by simp [halt?, hconfigured, hrooted]) rfl
    have hsettings : a.settings? = some settings := by
      simp [settings?, hconfigured, hrooted, Except.toOption]
    cases hpresented : Engine.presented a.request with
    | error failure =>
      simp only [Engine.authenticate, hrooted, hpresented, Except.mapError_ok, Except.ok_bind,
        Except.error_bind]
      exact ⟨.presented, by decide, hreached, by simp [halt?, hpresented]⟩
    | ok others =>
      have hreached : a.Reaches .trust := hreached.next (by simp [halt?, hpresented]) rfl
      simp only [Engine.authenticate, hrooted, hpresented, Except.mapError_ok, Except.ok_bind]
      have htrust : a.halt? .trust =
          (Except.error? (a.scheme.verify certificate others settings a.received)).map .failed := by
        simp [halt?, hmatched, hsettings, hpresented, Except.toOption]
      cases hverified : a.scheme.verify certificate others settings a.received with
      | error failure =>
        exact ⟨.trust, by decide, hreached, by simp [htrust, hverified]⟩
      | ok u =>
        have hreached : a.Reaches .identity := hreached.next (by simp [htrust, hverified]) rfl
        have hidentity : a.halt? .identity =
            (Except.error? (a.scheme.identify certificate)).map .failed := by
          simp [halt?, hmatched, Except.toOption]
        simp only [Except.ok_bind]
        cases hidentified : a.scheme.identify certificate with
        | error failure =>
          exact ⟨.identity, by decide, hreached, by simp [hidentity, hidentified]⟩
        | ok i =>
          exact ⟨identity?_eq hmatched hidentified,
            hreached.next (by simp [hidentity, hidentified]) rfl⟩

/-! ## Logins with the same inputs -/

/-- A stage reads the same in two logins, where earlier stages have found the same. -/
def SameInput (a : LoginAttempt Client σ) (b : LoginAttempt Client τ) : LoginStage → Prop
  | .field f => a.request.value f = b.request.value f
  | .signingTime => a.request.signingTime = b.request.signingTime
  | .window => a.received = b.received
  | .signature => a.matched = b.matched
  | .configuration =>
    a.world.configuration.map Option.isSome = b.world.configuration.map Option.isSome
  | .roots =>
    a.configuration?.map Configuration.identityCertificates =
      b.configuration?.map Configuration.identityCertificates
  | .presented => a.request.certificate = b.request.certificate
  | .trust =>
    a.configuration?.map Configuration.requiredUsage =
        b.configuration?.map Configuration.requiredUsage ∧
      a.scheme.verify = b.scheme.verify
  | .identity => a.scheme.identify = b.scheme.identify
  | .role => a.request.role = b.request.role ∧ a.assigned = b.assigned
  | .constraints => a.remote = b.remote
  | .client =>
    a.configuration?.map Configuration.directory =
        b.configuration?.map Configuration.directory ∧
      a.world.connect = b.world.connect
  | .directory => a.world.lookUp = b.world.lookUp

/-- The stages up to a given one read the same in two logins. -/
def SameUpTo (a : LoginAttempt Client σ) (b : LoginAttempt Client τ) (stage : LoginStage) : Prop :=
  ∀ t : LoginStage, t.index ≤ stage.index → a.SameInput b t

variable {b : LoginAttempt Client τ} {stage : LoginStage}

theorem SameUpTo.mono {t : LoginStage} (h : a.SameUpTo b stage) (ht : t.index ≤ stage.index) :
    a.SameUpTo b t := fun u hu => h u (Nat.le_trans hu ht)

theorem SameUpTo.settings?_eq (h : a.SameUpTo b .trust) : a.settings? = b.settings? := by
  have hroots := h .roots (by decide)
  have husage := (h .trust (by decide)).1
  simp only [SameInput] at hroots
  unfold settings? Configuration.trustSettings
  cases hc : a.configuration? <;> cases hd : b.configuration? <;> simp_all

theorem SameUpTo.identity?_eq (h : a.SameUpTo b .identity) : a.identity? = b.identity? := by
  have hmatched : a.matched = b.matched := h .signature (by decide)
  have hidentify : a.scheme.identify = b.scheme.identify := h .identity (by decide)
  rw [identity?, identity?, hmatched, hidentify]

theorem SameUpTo.role?_eq (h : a.SameUpTo b .role) : a.role? = b.role? := by
  have hassigned : a.assigned = b.assigned := (h .role (by decide)).2
  rw [role?, role?, hassigned]

theorem SameUpTo.client?_eq (h : a.SameUpTo b .client) : a.client? = b.client? := by
  obtain ⟨hdirectory, hconnect⟩ := h .client (by decide)
  unfold client?
  cases hc : a.configuration? <;> cases hd : b.configuration? <;> simp_all

/-- A stage ends one of two logins as it does the other if it and those in front of it read the
same. -/
theorem SameUpTo.halt?_eq (h : a.SameUpTo b stage) : a.halt? stage = b.halt? stage := by
  have hself := h stage (Nat.le_refl _)
  cases stage with
  | field f => simp only [halt?, show a.request.value f = b.request.value f from hself]
  | signingTime => simp only [halt?, show a.request.signingTime = b.request.signingTime from hself]
  | window =>
    have hsigned : a.request.signingTime = b.request.signingTime := h .signingTime (by decide)
    simp only [halt?, hsigned, show a.received = b.received from hself]
  | signature => simp only [halt?, show a.matched = b.matched from hself]
  | configuration =>
    simp only [SameInput] at hself
    rcases hc : a.world.configuration with failure | (_ | c) <;>
      rcases hd : b.world.configuration with failure' | (_ | d) <;>
        simp_all [halt?, Except.map]
  | roots =>
    simp only [SameInput] at hself
    unfold halt?
    cases hc : a.configuration? with
    | none => cases hd : b.configuration? <;> simp_all
    | some c =>
      cases hd : b.configuration? with
      | none => simp_all
      | some d =>
        rw [hc, hd] at hself
        exact congrArg (Option.map _) (Configuration.error?_trustSettings (Option.some.inj hself))
  | presented =>
    have hcertificate : a.request.certificate = b.request.certificate := hself
    simp only [halt?, Engine.presented, hcertificate]
  | trust =>
    have hmatched : a.matched = b.matched := h .signature (by decide)
    have hcertificate : a.request.certificate = b.request.certificate := h .presented (by decide)
    have hreceived : a.received = b.received := h .window (by decide)
    simp only [halt?, hmatched, h.settings?_eq, Engine.presented, hcertificate, hself.2, hreceived]
  | identity =>
    have hmatched : a.matched = b.matched := h .signature (by decide)
    simp only [halt?, hmatched, show a.scheme.identify = b.scheme.identify from hself]
  | role => simp only [halt?, hself.1, hself.2]
  | constraints =>
    simp only [halt?, (h.mono (t := .role) (by decide)).role?_eq,
      (h.mono (t := .identity) (by decide)).identity?_eq, show a.remote = b.remote from hself]
  | client =>
    obtain ⟨hdirectory, hconnect⟩ := hself
    cases hc : a.configuration? <;> cases hd : b.configuration? <;> simp_all [halt?]
  | directory =>
    simp only [halt?, (h.mono (t := .client) (by decide)).client?_eq,
      (h.mono (t := .identity) (by decide)).identity?_eq,
      show a.world.lookUp = b.world.lookUp from hself]

/-- Which stages a login reaches depends on nothing that only later stages read. -/
theorem Reaches.congr (h : a.Reaches stage) (hsame : ∀ t : LoginStage, t.index < stage.index →
    a.SameInput b t) : b.Reaches stage := by
  intro t ht
  have hupTo : a.SameUpTo b t := fun u hu => hsame u (Nat.lt_of_le_of_lt hu ht)
  rw [← hupTo.halt?_eq]
  exact h t ht

/-- The first stage that ends a login depends on nothing that only later stages read. -/
theorem HaltsAt.congr {halt : Halt} (h : a.HaltsAt stage halt) (hsame : a.SameUpTo b stage) :
    b.HaltsAt stage halt where
  reached := h.reached.congr fun t ht => hsame t (Nat.le_of_lt ht)
  halts := by
    rw [← hsame.halt?_eq]
    exact h.halts

end LoginAttempt

end WorkloadAuth
