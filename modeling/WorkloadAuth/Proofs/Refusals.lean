import WorkloadAuth.Proofs.LoginStages
import WorkloadAuth.Proofs.Reconciliation
import WorkloadAuth.Proofs.Renewal

/-!
# Refused logins

A login is refused because of the first of its stages that fails, whatever else is wrong with it,
and no later stage has consulted the part of the engine that it would have.

* `Inquiry.stage?`: the stage that asks a question.
* `LoginAttempt.Ends`: some checks end as the first stage that ends the login has it, and no later
  stage has asked anything.
* `World.ends_attemptLogin`: the checks of a login do.
* `Login.RefusedAt`: a login is refused because of a stage, whose failure is redacted.
* `Login.refused_at_first_stage`: each refused login is, and so is any other one for which the
  stages up to this one read the same; both ask the directory for the same.
-/

namespace WorkloadAuth

open Calendar Directory Dialogue

/-! ## Questions of the stages -/

/-- The stage that asks a question of a part of the engine. -/
def Inquiry.stage? {Client : Type} : Inquiry Client → Option LoginStage
  | .certificateFor .. => some .signature
  | .configuration => some .configuration
  | .role _ => some .role
  | .connect .. => some .client
  | .lookUp .. => some .directory
  | .now => none
  | .failureId => none
  | .send _ => none
  | .log _ => none
  | .count _ => none

/-- What a directory is asked for. -/
inductive DirectoryCall (Client : Type) where
  /-- A client is made from some settings. -/
  | connect (settings : DirectorySettings)
  | lookUp (client : Client) (kind : RecordKind) (id : String)

/-- What a question asks a directory for. -/
def Inquiry.directoryCall? {Client : Type} : Inquiry Client → Option (DirectoryCall Client)
  | .connect _ settings => some (.connect settings)
  | .lookUp client kind id => some (.lookUp client kind id)
  | _ => none

/-- What some questions ask a directory for, in order. -/
def Inquiry.directoryCalls {Client : Type} (asked : List (Inquiry Client)) :
    List (DirectoryCall Client) := asked.filterMap directoryCall?

theorem Inquiry.directoryCalls_connect_cons {Client : Type} (context : Log.Context)
    (settings : DirectorySettings) (asked : List (Inquiry Client)) :
    directoryCalls (.connect context settings :: asked) =
      .connect settings :: directoryCalls asked := rfl

namespace LoginAttempt

variable {Client σ τ : Type} {a : LoginAttempt Client σ}

/-- What a directory is asked for if a stage is the first that ends the login. -/
def calls (a : LoginAttempt Client σ) : LoginStage → List (DirectoryCall Client)
  | .client => a.configuration?.toList.map fun c => .connect c.directory
  | .directory =>
    (a.configuration?.toList.map fun c => .connect c.directory) ++
      a.client?.toList.flatMap fun client =>
        a.identity?.toList.flatMap fun i =>
          (sought (a.world.lookUp client) i).map fun (kind, id) => .lookUp client kind id
  | _ => []

/-- How some checks of a login end: successfully if no stage ends the login, and otherwise as the
first stage that does so has it. Then no later stage has asked anything. -/
inductive Ends (a : LoginAttempt Client σ) {α : Type} :
    Except Halt α → List (Inquiry Client) → Prop where
  | passed {result : α} {asked : List (Inquiry Client)} (passes : ∀ t, a.halt? t = none) :
    Ends a (.ok result) asked
  | halted {stage : LoginStage} {halt : Halt} {asked : List (Inquiry Client)}
    (haltsAt : a.HaltsAt stage halt)
    (consulted : ∀ q ∈ asked, ∀ t ∈ q.stage?, t.index ≤ stage.index)
    (calls_eq : Inquiry.directoryCalls asked = a.calls stage) : Ends a (.error halt) asked

theorem calls_of_lt {stage : LoginStage} (h : stage.index < LoginStage.client.index) :
    a.calls stage = [] := by
  cases stage <;> first | rfl | exact absurd h (by decide)

/-- A question, which is none to the directory, of a stage that the login reaches, or of none. -/
structure MayAsk (a : LoginAttempt Client σ) (q : Inquiry Client) : Prop where
  reached : ∀ t ∈ q.stage?, a.Reaches t
  elsewhere : q.directoryCall? = none

/-- What the directory is asked for up to a stage depends on what the stages up to it read. -/
theorem SameUpTo.calls_eq {b : LoginAttempt Client τ} {stage : LoginStage}
    (h : a.SameUpTo b stage) : a.calls stage = b.calls stage := by
  cases stage with
  | client =>
    have hdirectory := (h .client (Nat.le_refl _)).1
    simp only [calls]
    cases hc : a.configuration? <;> cases hd : b.configuration? <;> simp_all
  | directory =>
    have hdirectory := (h .client (by decide)).1
    have hlookUp : a.world.lookUp = b.world.lookUp := h .directory (Nat.le_refl _)
    simp only [calls, (h.mono (t := .client) (by decide)).client?_eq, hlookUp,
      (h.mono (t := .identity) (by decide)).identity?_eq]
    cases hc : a.configuration? <;> cases hd : b.configuration? <;> simp_all
  | _ => rfl

namespace Ends

variable {α : Type} {asked : List (Inquiry Client)}

/-- A stage in front of the client ends a login without a question. -/
theorem of_haltsAt {stage : LoginStage} {halt : Halt} (h : a.HaltsAt stage halt)
    (hlt : stage.index < LoginStage.client.index) :
    Ends a (.error halt : Except Halt α) [] :=
  .halted h (fun _ hq => absurd hq List.not_mem_nil) (calls_of_lt hlt).symm

/-- Questions in front, which are none to the directory and which stages ask that the login reaches,
change nothing. -/
theorem append {result : Except Halt α} {before : List (Inquiry Client)} (h : Ends a result asked)
    (hbefore : ∀ q ∈ before, a.MayAsk q) : Ends a result (before ++ asked) := by
  cases h with
  | passed passes => exact .passed passes
  | halted haltsAt consulted calls_eq =>
    refine .halted haltsAt ?_ ?_
    · intro q hq t ht
      rcases List.mem_append.1 hq with hmem | hmem
      · exact haltsAt.index_le ((hbefore q hmem).reached t ht)
      · exact consulted q hmem t ht
    · have hnone : Inquiry.directoryCalls before = [] :=
        List.filterMap_eq_nil_iff.2 fun q hq => (hbefore q hq).elsewhere
      rw [← calls_eq, Inquiry.directoryCalls, List.filterMap_append]
      exact congrArg (· ++ _) hnone

end Ends

end LoginAttempt

/-! ## Runs -/

namespace World

variable {Client σ : Type} (w : World Client σ)

/-- A client that asks a world finds the records of the world. -/
theorem sameRecords_access (client : Client) :
    SameRecords (I := Inquiry.interface Client) w.answer (answers (w.lookUp client))
      Inquiry.directoryCall? (fun q => some (.lookUp client q.1 q.2)) (access client)
      Access.records where
  lookUp _ _ := ⟨fun _ _ => rfl, fun _ _ => rfl⟩
  log _ _ := ⟨fun _ _ => rfl, fun _ _ => rfl⟩

theorem outcome_reconcile (client : Client) (context : Log.Context) (i : Identity) (s : σ) :
    outcome w.answer (reconcile (access client) context i) s = verdict (w.lookUp client) i :=
  (parallel_reconcile (w.sameRecords_access client) context .root i).outcome_eq s ()

theorem directoryCalls_reconcile (client : Client) (context : Log.Context) (i : Identity) (s : σ) :
    Inquiry.directoryCalls ((reconcile (access client) context i).run.asked w.answer s) =
      (sought (w.lookUp client) i).map fun (kind, id) => .lookUp client kind id := by
  refine ((parallel_reconcile (w.sameRecords_access client) context .root i).seen_eq s ()).trans ?_
  rw [sought, ← List.filterMap_eq_map]
  rfl

theorem asked_connect (scheme : IdentityScheme) (context : Log.Context)
    (settings : DirectorySettings) (s : σ) :
    (Engine.attempt ((Engine.asking scheme).connect context settings)).run.asked w.answer s =
      [.connect context settings] := by
  simp only [Engine.attempt, Engine.asking, ExceptT.run_mk, asked_bind, runWith_connect]
  cases w.connect settings <;> rfl

theorem asked_findRole (scheme : IdentityScheme) (name : String) (s : σ) :
    ((Engine.asking scheme).findRole name).run.asked w.answer s = [.role name] := by
  simp only [Engine.findRole, Engine.attempt, asked_run_bind, outcome_mk, Engine.asking_role,
    runWith_role]
  rcases w.role name with failure | (_ | role) <;> rfl

theorem outcome_findRole (scheme : IdentityScheme) (name : String) (s : σ) :
    outcome w.answer ((Engine.asking scheme).findRole name) s =
      match w.role name with
      | .error failure => .error failure
      | .ok none => .error (.of (.noMatchingRole name))
      | .ok (some role) => .ok role := by
  simp only [Engine.findRole, Engine.attempt, outcome_bind, outcome_mk, Engine.asking_role,
    runWith_role]
  rcases w.role name with failure | (_ | role) <;> rfl

end World

namespace LoginAttempt

variable {Client σ : Type} {a : LoginAttempt Client σ}

/-- A login that the last stage does not end is not ended by any. -/
theorem Reaches.passes (h : a.Reaches .directory) (hpassed : a.halt? .directory = none)
    (t : LoginStage) : a.halt? t = none := by
  rcases Nat.lt_or_eq_of_le t.index_le_directory with hlt | heq
  · exact h t hlt
  · rw [LoginStage.index_injective heq]
    exact hpassed

variable {α β : Type} {p : ExceptT Failure (Dialogue (Inquiry.interface Client)) α}
  {f : α → ExceptT Failure (Dialogue (Inquiry.interface Client)) β} {s : σ}

/-- How checks that some dialogue makes end, against a state of the world. -/
def EndsFrom (a : LoginAttempt Client σ)
    (p : ExceptT Failure (Dialogue (Inquiry.interface Client)) α) (s : σ) : Prop :=
  Ends a ((outcome a.world.answer p s).mapError .failed) (p.run.asked a.world.answer s)

theorem EndsFrom.of_throw {failure : Failure} {stage : LoginStage}
    (h : a.HaltsAt stage (.failed failure)) (hlt : stage.index < LoginStage.client.index) :
    a.EndsFrom (throw failure : ExceptT Failure (Dialogue (Inquiry.interface Client)) α) s :=
  .of_haltsAt h hlt

/-- Checks go on after a part of them that succeeds. -/
theorem EndsFrom.of_ok {result : α} (hp : outcome a.world.answer p s = .ok result)
    (hasked : ∀ q ∈ p.run.asked a.world.answer s, a.MayAsk q)
    (h : a.EndsFrom (f result) (after a.world.answer p s)) : a.EndsFrom (p >>= f) s := by
  unfold EndsFrom
  rw [outcome_bind, asked_run_bind, hp]
  exact h.append hasked

/-- Checks end with a part of them that does not succeed. -/
theorem EndsFrom.of_error {failure : Failure} {stage : LoginStage}
    (hp : outcome a.world.answer p s = .error failure)
    (hasked : ∀ q ∈ p.run.asked a.world.answer s, a.MayAsk q)
    (h : a.HaltsAt stage (.failed failure)) (hlt : stage.index < LoginStage.client.index) :
    a.EndsFrom (p >>= f) s := by
  unfold EndsFrom
  rw [outcome_bind, asked_run_bind, hp]
  exact (Ends.of_haltsAt h hlt).append hasked

/-- A result that is made of that of the checks at their end changes nothing. -/
theorem EndsFrom.map (h : a.EndsFrom p s) (g : α → β) : a.EndsFrom (g <$> p) s := by
  unfold EndsFrom at h ⊢
  rw [outcome_map, ExceptT.run_map, asked_map]
  cases houtcome : outcome a.world.answer p s with
  | error failure =>
    rw [houtcome] at h
    cases h with
    | halted haltsAt consulted calls_eq => exact .halted haltsAt consulted calls_eq
  | ok result =>
    rw [houtcome] at h
    cases h with
    | passed passes => exact .passed passes

/-- The checks that follow the role end as the last three stages do. -/
theorem ends_validate (context : Log.Context) {c : Configuration} {role : Role} {i : Identity}
    (s : σ) (hconfigured : a.configuration? = some c) (hrole : a.role? = some role)
    (hidentity : a.identity? = some i) (hreached : a.Reaches .constraints) :
    a.EndsFrom ((Engine.asking a.scheme).validate context c.directory role i a.remote) s := by
  have hconstraints : a.halt? .constraints =
      (Except.error? (role.check i a.remote)).map fun m => .failed (.of (.roleMismatch m)) := by
    simp [halt?, hrole, hidentity]
  have hconnecting : a.halt? .client =
      (Except.error? (a.world.connect c.directory)).map .failed := by
    simp [halt?, hconfigured]
  unfold Engine.validate
  cases hallowed : role.check i a.remote with
  | error mismatch =>
    exact .of_throw (hreached.haltsAt (by simp [hconstraints, hallowed])) (by decide)
  | ok u =>
    have hreached : a.Reaches .client := hreached.next (by simp [hconstraints, hallowed]) rfl
    simp only [EndsFrom, outcome_bind, asked_run_bind, World.asked_connect, World.outcome_connect]
    cases hconnected : a.world.connect c.directory with
    | error failure =>
      refine .halted (hreached.haltsAt (by simp [hconnecting, hconnected])) ?_ ?_
      · simp [Except.map, Inquiry.stage?]
      · simp [Except.map, Inquiry.directoryCalls, Inquiry.directoryCall?, calls, hconfigured]
    | ok client =>
      have hreached : a.Reaches .directory := hreached.next (by simp [hconnecting, hconnected]) rfl
      have hclient : a.client? = some client := by
        simp [client?, hconfigured, hconnected, Except.toOption]
      have hdirectory : a.halt? .directory =
          (Except.error? (verdict (a.world.lookUp client) i)).map .failed := by
        simp [halt?, hclient, hidentity]
      change Ends a ((outcome a.world.answer (reconcile (World.access client) context i) _).mapError
        .failed) (.connect context c.directory ::
          (reconcile (World.access client) context i).run.asked a.world.answer _)
      rw [World.outcome_reconcile]
      cases hverdict : verdict (a.world.lookUp client) i with
      | ok u => exact .passed (hreached.passes (by simp [hdirectory, hverdict]))
      | error failure =>
        refine .halted (hreached.haltsAt (by simp [hdirectory, hverdict]))
          (fun _ _ t _ => t.index_le_directory) ?_
        rw [Inquiry.directoryCalls_connect_cons, World.directoryCalls_reconcile]
        simp [calls, hconfigured, hclient, hidentity]

/-- The admission of an identity ends as the stages from the role on do. -/
theorem ends_admission (context : Log.Context) {c : Configuration} {i : Identity} (s : σ)
    (hconfigured : a.configuration? = some c) (hidentity : a.identity? = some i)
    (hreached : a.Reaches .role) :
    a.EndsFrom ((Engine.asking a.scheme).admission context c a.request.role i a.remote) s := by
  have hfinding : a.halt? .role = match a.world.role a.request.role with
    | .error failure => some (.failed failure)
    | .ok none => some (.failed (.of (.noMatchingRole a.request.role)))
    | .ok (some _) => none := rfl
  have hfound := a.world.outcome_findRole a.scheme a.request.role s
  have hasked : ∀ q ∈ ((Engine.asking a.scheme).findRole a.request.role).run.asked a.world.answer s,
      a.MayAsk q := by
    rw [World.asked_findRole]
    simpa using ⟨by simpa [Inquiry.stage?] using hreached, rfl⟩
  rcases hrole : a.world.role a.request.role with failure | (_ | role) <;> rw [hrole] at hfound
  · exact .of_error hfound hasked (hreached.haltsAt (by simp [hfinding, hrole])) (by decide)
  · exact .of_error hfound hasked (hreached.haltsAt (by simp [hfinding, hrole])) (by decide)
  · refine .of_ok hfound hasked ?_
    have hreached : a.Reaches .constraints := hreached.next (by simp [hfinding, hrole]) rfl
    have hassigned : a.role? = some role := by simp [role?, assigned, hrole, Except.toOption]
    exact (ends_validate context _ hconfigured hassigned hidentity hreached).map fun _ => role

/-- The checks of a screened request end as the stages from the signature on do. -/
theorem ends_examine (a : LoginAttempt Client σ) (context : Log.Context) (s : σ)
    (hreached : a.Reaches .signature) :
    a.EndsFrom ((Engine.asking a.scheme).examine context a.request a.received a.remote) s := by
  have hmatched : outcome a.world.answer (Engine.attempt ((Engine.asking a.scheme).certificateFor
      a.request.signature a.request.signedData)) s = a.matched := rfl
  have hasked : ∀ q ∈ (Engine.attempt ((Engine.asking a.scheme).certificateFor
      a.request.signature a.request.signedData)).run.asked a.world.answer s, a.MayAsk q := by
    change ∀ q ∈ [Inquiry.certificateFor _ _], a.MayAsk q
    simpa using ⟨by simpa [Inquiry.stage?] using hreached, rfl⟩
  cases hmatching : a.matched with
  | error failure =>
    exact .of_error (hmatched.trans hmatching) hasked
      (hreached.haltsAt (by simp [halt?, hmatching])) (by decide)
  | ok certificate =>
    have hreached : a.Reaches .configuration := hreached.next (by simp [halt?, hmatching]) rfl
    have hconfiguration (s : σ) : outcome a.world.answer
        (Engine.attempt (Engine.asking a.scheme).configuration) s = a.world.configuration := rfl
    have hreading (s : σ) : ∀ q ∈ (Engine.attempt (Engine.asking a.scheme).configuration).run.asked
        a.world.answer s, a.MayAsk q := by
      change ∀ q ∈ [Inquiry.configuration], a.MayAsk q
      simpa using ⟨by simpa [Inquiry.stage?] using hreached, rfl⟩
    refine .of_ok (hmatched.trans hmatching) hasked ?_
    rcases hread : a.world.configuration with failure | (_ | c)
    · exact .of_error ((hconfiguration _).trans hread) (hreading _)
        (hreached.haltsAt (by simp [halt?, hread])) (by decide)
    · refine .of_ok ((hconfiguration _).trans hread) (hreading _) ?_
      exact .of_throw (hreached.haltsAt (by simp [halt?, hread])) (by decide)
    · refine .of_ok ((hconfiguration _).trans hread) (hreading _) ?_
      have hconfigured : a.configuration? = some c := by
        simp [configuration?, hread, Except.toOption]
      have hauthenticated := ends_authenticate hconfigured hmatching
        (hreached.next (by simp [halt?, hread]) rfl)
      cases hresult : Engine.authenticate a.scheme c certificate a.request a.received with
      | error failure =>
        rw [hresult] at hauthenticated
        obtain ⟨stage, hle, hhalts⟩ := hauthenticated
        exact .of_error ((Engine.outcome_settled ..).trans hresult)
          (fun _ hq => absurd hq List.not_mem_nil) hhalts (Nat.lt_of_le_of_lt hle (by decide))
      | ok i =>
        rw [hresult] at hauthenticated
        obtain ⟨hidentity, hreached⟩ := hauthenticated
        refine .of_ok ((Engine.outcome_settled ..).trans hresult)
          (fun _ hq => absurd hq List.not_mem_nil) ?_
        simpa only [Engine.admission, map_bind, map_pure] using
          (ends_admission context _ hconfigured hidentity hreached).map
            (Credential.issue a.request.role · i)

end LoginAttempt

namespace World

variable {Client σ : Type} (w : World Client σ)

/-- The checks of a login end as its stages do. -/
theorem ends_attemptLogin (scheme : IdentityScheme) (context : Log.Context)
    (request : LoginRequest) (remote : String) (s : σ) :
    LoginAttempt.Ends ⟨w, scheme, request, (w.react .now s).1, remote⟩
      (((Engine.asking scheme).attemptLogin context request remote).runWith w.answer s).1
      (((Engine.asking scheme).attemptLogin context request remote).asked w.answer s) := by
  let a : LoginAttempt Client σ := ⟨w, scheme, request, (w.react .now s).1, remote⟩
  have hclock : ∀ q ∈ [Inquiry.now], a.MayAsk q := by
    simpa using ⟨by simp [Inquiry.stage?], rfl⟩
  have hscreened := a.ends_screen
  simp only [Engine.attemptLogin, Engine.asking_clock, runWith_bind, runWith_now, asked_bind]
  refine .append ?_ hclock
  cases hscreen : Engine.screen request (w.react .now s).1 with
  | error halt =>
    rw [show Engine.screen a.request a.received = .error halt from hscreen] at hscreened
    obtain ⟨stage, hle, hhalts⟩ := hscreened
    exact .of_haltsAt hhalts (Nat.lt_of_le_of_lt hle (by decide))
  | ok u =>
    rw [show Engine.screen a.request a.received = .ok () from hscreen] at hscreened
    have hexamined := a.ends_examine context (w.react .now s).2 hscreened
    simp only [runWith_bind, asked_bind, runWith_pure, asked_pure, List.append_nil]
    exact hexamined

end World

/-! ## Refusals -/

/-- A login in a world, against a state of it. -/
structure Login (Client σ : Type) where
  world : World Client σ
  scheme : IdentityScheme
  context : Log.Context
  request : LoginRequest
  remote : String
  state : σ

namespace Login

variable {Client σ τ : Type} (l : Login Client σ)

/-- How a login ends. -/
def result : LoginOutcome :=
  (((Engine.asking l.scheme).login l.context l.request l.remote).runWith l.world.answer l.state).1

/-- The questions of a login, in order. -/
def asked : List (Inquiry Client) :=
  ((Engine.asking l.scheme).login l.context l.request l.remote).asked l.world.answer l.state

/-- What the stages of a login read. -/
def attempt : LoginAttempt Client σ :=
  ⟨l.world, l.scheme, l.request, l.world.receivedAt l.state, l.remote⟩

/-- The checks of a login. -/
def checks : Dialogue (Inquiry.interface Client) (Except Halt Credential) :=
  (Engine.asking l.scheme).attemptLogin (Engine.loginContext l.context l.request l.remote) l.request
    l.remote

/-- The state in which the checks of a login are made. -/
def counted : σ := l.world.next (.count .loginCount) l.state

/-- The result of the checks, and the state after them. -/
def checked : Except Halt Credential × σ := l.checks.runWith l.world.answer l.counted

/-- How a failure is redacted. -/
def redaction (failure : Failure) : Dialogue (Inquiry.interface Client) FailureId :=
  (Engine.asking l.scheme).redact (Engine.loginContext l.context l.request l.remote) failure

/-- The state in which a failure is redacted: it is counted after the checks. -/
def failed : σ := l.world.next (.count .loginFailed) l.checked.2

/-- How a login goes on after its checks. -/
def finish : Except Halt Credential → Dialogue (Inquiry.interface Client) LoginOutcome
  | .ok credential => do
    Inquiry.ask (.log ((Engine.loginContext l.context l.request l.remote).record .info
      "Workload authenticated"
      [[("instance_id", credential.displayName)], [("app_id", credential.aliasName)]]))
    pure (.issued credential)
  | .error .aborted => pure .aborted
  | .error (.failed failure) => do
    Inquiry.ask (.count .loginFailed)
    LoginOutcome.refused <$> l.redaction failure

theorem login_eq :
    (Engine.asking l.scheme).login l.context l.request l.remote = (do
      Inquiry.ask (.count .loginCount)
      let checked ← l.checks
      l.finish checked) := by
  unfold Engine.login finish
  rfl

theorem result_eq : l.result = ((l.finish l.checked.1).runWith l.world.answer l.checked.2).1 := by
  rw [result, login_eq, runWith_bind, runWith_bind]
  rfl

theorem asked_eq :
    l.asked = .count .loginCount :: (l.checks.asked l.world.answer l.counted ++
      (l.finish l.checked.1).asked l.world.answer l.checked.2) := by
  rw [asked, login_eq, asked_bind, asked_bind]
  rfl

theorem ends_checks : l.attempt.Ends l.checked.1 (l.checks.asked l.world.answer l.counted) :=
  l.world.ends_attemptLogin l.scheme _ l.request l.remote l.counted

/-- A login is refused because of a stage, which is the first one that ends it. The failure of this
stage is redacted, and no later stage has asked anything. -/
structure RefusedAt (stage : LoginStage) (failure : Failure) : Prop where
  haltsAt : l.attempt.HaltsAt stage (.failed failure)
  result_eq : l.result = .refused ((l.redaction failure).runWith l.world.answer l.failed).1
  asked_eq : l.asked = .count .loginCount :: (l.checks.asked l.world.answer l.counted ++
    .count .loginFailed :: (l.redaction failure).asked l.world.answer l.failed)
  consulted : ∀ q ∈ l.asked, ∀ t ∈ q.stage?, t.index ≤ stage.index
  calls_eq : Inquiry.directoryCalls l.asked = l.attempt.calls stage

variable {l}

/-- A login consults nothing, and asks the directory for nothing, but for its checks. -/
theorem consulted_of_asked_eq {failure : Failure} {before : List (Inquiry Client)}
    (h : l.asked = .count .loginCount :: (before ++
      .count .loginFailed :: (l.redaction failure).asked l.world.answer l.failed)) :
    (∀ q ∈ l.asked, ∀ t ∈ q.stage?, q ∈ before) ∧
      Inquiry.directoryCalls l.asked = Inquiry.directoryCalls before := by
  have hredacted : (l.redaction failure).asked l.world.answer l.failed = [.failureId, .log _] := rfl
  rw [h, hredacted]
  constructor
  · intro q hq t ht
    simp only [List.mem_cons, List.mem_append, List.not_mem_nil, or_false] at hq
    rcases hq with rfl | hmem | rfl | rfl | rfl
    · cases ht
    · exact hmem
    · cases ht
    · cases ht
    · cases ht
  · rw [Inquiry.directoryCalls, List.filterMap_cons_none rfl, List.filterMap_append]
    exact List.append_nil _

/-- A login whose checks fail is refused because of the first stage that ends it. -/
theorem refusedAt_of_checked {failure : Failure} (h : l.checked.1 = .error (.failed failure)) :
    ∃ stage, l.RefusedAt stage failure := by
  have hends := l.ends_checks
  have hresult := l.result_eq
  have hasked := l.asked_eq
  rw [h] at hends hresult hasked
  have hresult : l.result = .refused ((l.redaction failure).runWith l.world.answer l.failed).1 :=
    hresult
  have hasked : l.asked = .count .loginCount :: (l.checks.asked l.world.answer l.counted ++
      .count .loginFailed :: (l.redaction failure).asked l.world.answer l.failed) := by
    rw [hasked, finish, asked_bind, asked_map]
    rfl
  obtain ⟨hstages, hcalls⟩ := consulted_of_asked_eq hasked
  cases hends with
  | @halted stage _ _ haltsAt consulted calls_eq =>
    exact ⟨stage, haltsAt, hresult, hasked, fun q hq t ht => consulted q (hstages q hq t ht) t ht,
      hcalls.trans calls_eq⟩

/-- The checks of a login fail as the first stage that ends it does. -/
theorem checked_of_haltsAt {stage : LoginStage} {halt : Halt} (h : l.attempt.HaltsAt stage halt) :
    l.checked.1 = .error halt := by
  have hends := l.ends_checks
  generalize l.checked.1 = result at hends
  cases hends with
  | passed passes => exact absurd h.halts (by simp [passes])
  | halted haltsAt => rw [(h.unique haltsAt).2]

/-- A login is refused if a failure of a stage is what ends it first. -/
theorem refusedAt_of_haltsAt {stage : LoginStage} {failure : Failure}
    (h : l.attempt.HaltsAt stage (.failed failure)) : l.RefusedAt stage failure := by
  obtain ⟨stage', hrefused⟩ := refusedAt_of_checked (checked_of_haltsAt h)
  rw [(h.unique hrefused.haltsAt).1]
  exact hrefused

/-- No stage ends a login for which there are grounds. -/
theorem halt?_of_grounds
    (g : Grounds l.world l.scheme l.request (l.world.receivedAt l.state) l.remote)
    (t : LoginStage) : l.attempt.halt? t = none := by
  have hissued : l.result = .issued g.credential := l.world.issued_of_grounds g l.context
  have hends := l.ends_checks
  rw [result_eq] at hissued
  rcases hchecked : l.checked.1 with (failure | _) | credential
  · rw [hchecked] at hissued
    cases hissued
  · rw [hchecked] at hissued
    cases hissued
  · rw [hchecked] at hends
    cases hends with
    | passed passes => exact passes t

theorem checked_of_refused {id : FailureId} (h : l.result = .refused id) :
    ∃ failure, l.checked.1 = .error (.failed failure) := by
  rw [result_eq] at h
  rcases hchecked : l.checked.1 with (failure | _) | credential
  · exact ⟨failure, rfl⟩
  · rw [hchecked] at h
    cases h
  · rw [hchecked] at h
    cases h

/-- **The first failing stage decides.** A login that is refused is so because of the first stage
that ends it: this failure is redacted, and no later stage has asked anything. Any other login, for
which the stages up to this one read the same, is refused for the same failure, and asks the
directory for the same. -/
theorem refused_at_first_stage (l : Login Client σ) {id : FailureId} (h : l.result = .refused id) :
    ∃ stage failure, l.RefusedAt stage failure ∧
      ∀ {τ : Type} (other : Login Client τ), l.attempt.SameUpTo other.attempt stage →
        other.RefusedAt stage failure ∧
          Inquiry.directoryCalls other.asked = Inquiry.directoryCalls l.asked := by
  obtain ⟨failure, hchecked⟩ := checked_of_refused h
  obtain ⟨stage, hrefused⟩ := refusedAt_of_checked hchecked
  refine ⟨stage, failure, hrefused, fun other hsame => ?_⟩
  have hother : other.RefusedAt stage failure := refusedAt_of_haltsAt (hrefused.haltsAt.congr hsame)
  refine ⟨hother, ?_⟩
  rw [hother.calls_eq, hrefused.calls_eq, hsame.calls_eq]

end Login

namespace World.Sample

/-- The sample login. -/
def login : Login Unit Unit where
  world := world
  scheme := scheme
  context := .root
  request := request
  remote := "10.0.0.1"
  state := ()

/-- The sample login with a role for another app. -/
def misbound : Login Unit Unit :=
  { login with world := { world with
    role := fun name =>
      .ok (if name = "r" then some { role with boundAppIds := ["b"] } else none) } }

/-- The same login where the directory cannot be reached either. -/
def unreachable : Login Unit Unit :=
  { misbound with world := { misbound.world with
    connect := fun _ => .error (.of (.foreign .http "connection refused")) } }

/-- The same login while no role can be read. -/
def outage : Login Unit Unit :=
  { unreachable with world := { unreachable.world with
    role := fun _ => .error (.of (.foreign .other "the store is away")) } }

/-- A login with two faults is refused for the first one, as it is without the second, and the
directory is not asked. While the store of roles is away, it is refused for that. -/
theorem refused_misbound :
    (∃ id, unreachable.result = .refused id) ∧
      (∃ failure, unreachable.RefusedAt .constraints failure ∧
        misbound.RefusedAt .constraints failure ∧ Inquiry.directoryCalls misbound.asked = []) ∧
      outage.RefusedAt .role (.of (.foreign .other "the store is away")) := by
  have hreached : unreachable.attempt.Reaches .role := by
    refine LoginAttempt.Reaches.congr (a := login.attempt)
      (fun t _ => Login.halt?_of_grounds (l := login) grounds t) fun t ht => ?_
    cases t <;> first | exact absurd ht (by decide) | exact ⟨rfl, rfl⟩ | rfl
  have houtage : outage.attempt.Reaches .role := by
    refine hreached.congr fun t ht => ?_
    cases t <;> first | exact absurd ht (by decide) | exact ⟨rfl, rfl⟩ | rfl
  have hhalts : unreachable.attempt.HaltsAt .constraints
      (.failed (.of (.roleMismatch (.attribute .app "a" ["b"])))) := by
    have hidentity : unreachable.attempt.identity? = some identity :=
      LoginAttempt.identity?_eq grounds.matched grounds.identified
    refine (hreached.next (by decide) rfl).haltsAt ?_
    simp only [LoginAttempt.halt?, hidentity]
    decide +kernel
  have hrefused := Login.refusedAt_of_haltsAt hhalts
  obtain ⟨stage, failure, hfirst, hother⟩ := unreachable.refused_at_first_stage hrefused.result_eq
  obtain ⟨rfl, -⟩ := hfirst.haltsAt.unique hhalts
  have hsame : unreachable.attempt.SameUpTo misbound.attempt .constraints := by
    intro t ht
    cases t <;> first | exact absurd ht (by decide) | exact ⟨rfl, rfl⟩ | rfl
  obtain ⟨honly, hcalls⟩ := hother misbound hsame
  exact ⟨⟨_, hrefused.result_eq⟩, ⟨failure, hfirst, honly, hcalls.trans hfirst.calls_eq⟩,
    Login.refusedAt_of_haltsAt (houtage.haltsAt rfl)⟩

end World.Sample

end WorkloadAuth
