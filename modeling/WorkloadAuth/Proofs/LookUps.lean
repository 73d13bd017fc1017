import Mathlib.Data.List.Infix
import WorkloadAuth.Proofs.Decisions
import WorkloadAuth.Proofs.Renewal
import WorkloadAuth.Proofs.SnapshotCodec

/-!
# Look-ups of tasks

A task looks nothing up but the records of the one identity that it has established, in a fixed
order, and none of their identifiers is empty. This holds at any point of a task, whoever answers
its questions, and however it ends.

* `Identity.claims`: the records of an identity, by their identifiers.
* `Dialogue.Seeks`, `Dialogue.Seeks.bind`: the look-ups of a dialogue.
* `Directory.seeks_reconcile`: the comparison with the directory looks up the claims of an identity.
* `Task.Establishes`: how a task comes to know an identity.
* `Task.looks_up_own_claims`: the look-ups of a task.
-/

namespace WorkloadAuth

open Calendar Directory Dialogue

variable {Client : Type}

/-! ## What is looked up -/

/-- The records that an identity claims, in the order in which they are looked up. -/
def Identity.claims (i : Identity) : List (RecordKind × String) :=
  [(.serviceInstance, i.instanceId), (.app, i.appId), (.org, i.orgId), (.space, i.spaceId)]

theorem Identity.Complete.ne_empty {i : Identity} (h : i.Complete) {claim : RecordKind × String}
    (hmem : claim ∈ i.claims) : claim.2 ≠ "" := by
  obtain ⟨hinstance, horg, hspace, happ⟩ := h
  simp only [Identity.claims, List.mem_cons, List.not_mem_nil, or_false] at hmem
  rcases hmem with rfl | rfl | rfl | rfl
  · exact hinstance
  · exact happ
  · exact horg
  · exact hspace

/-- What is looked up by a question, and by which client. -/
def Answered.lookUp? : Answered (Inquiry.interface Client) → Option (Client × RecordKind × String)
  | ⟨_, .lookUp client kind id, _⟩ => some (client, kind, id)
  | _ => none

/-- The look-ups of a transcript, in order. -/
def lookUps (steps : List (Answered (Inquiry.interface Client))) :
    List (Client × RecordKind × String) := steps.filterMap Answered.lookUp?

theorem lookUps_append (first last : List (Answered (Inquiry.interface Client))) :
    lookUps (first ++ last) = lookUps first ++ lookUps last :=
  List.filterMap_append

namespace Dialogue

variable {α β : Type} {xs ys : List (Client × RecordKind × String)}
  {steps : List (Answered (Inquiry.interface Client))}

/-! ## Dialogues without look-ups -/

/-- A dialogue looks nothing up. -/
def Unseeking (p : Dialogue (Inquiry.interface Client) α) : Prop :=
  Only (fun x => x.lookUp? = none) p

theorem Unseeking.lookUps_eq {p : Dialogue (Inquiry.interface Client) α} (h : Unseeking p)
    {rest : Dialogue (Inquiry.interface Client) α} (hfollows : Follows p steps rest) :
    lookUps steps = [] :=
  List.filterMap_eq_nil_iff.2 (h steps rest hfollows)

/-! ## Dialogues with look-ups -/

/-- A dialogue looks some records up in order: the first ones at any point of it, and all of them if
it succeeds. -/
structure Seeks (xs : List (Client × RecordKind × String))
    (p : ExceptT Failure (Dialogue (Inquiry.interface Client)) α) : Prop where
  begun : ∀ {steps rest}, Follows p.run steps rest → lookUps steps <+: xs
  ended : ∀ {steps a}, Follows p.run steps (.done (.ok a)) → lookUps steps = xs

theorem Unseeking.seeks {p : ExceptT Failure (Dialogue (Inquiry.interface Client)) α}
    (h : Unseeking p.run) : Seeks [] p where
  begun hfollows := by rw [h.lookUps_eq hfollows]
  ended hfollows := h.lookUps_eq hfollows

theorem seeks_throw (failure : Failure) :
    Seeks xs (throw failure : ExceptT Failure (Dialogue (Inquiry.interface Client)) α) where
  begun hfollows := by
    obtain ⟨rfl, -⟩ := follows_done hfollows
    exact List.nil_prefix
  ended hfollows := nomatch (follows_done hfollows).2

theorem Seeks.bind {p : ExceptT Failure (Dialogue (Inquiry.interface Client)) α}
    {f : α → ExceptT Failure (Dialogue (Inquiry.interface Client)) β} (h : Seeks xs p)
    (hrest : ∀ a, Seeks ys (f a)) : Seeks (xs ++ ys) (p >>= f) where
  begun hfollows := by
    rcases Follows.of_bind hfollows with
      ⟨left, hleft, -⟩ | ⟨first, last, result, rfl, hfirst, hlast⟩
    · exact (h.begun hleft).trans (List.prefix_append xs ys)
    cases result with
    | error failure =>
      obtain ⟨rfl, -⟩ := follows_done hlast
      rw [List.append_nil]
      exact (h.begun hfirst).trans (List.prefix_append xs ys)
    | ok a =>
      rw [lookUps_append, h.ended hfirst]
      exact (List.prefix_append_right_inj xs).2 ((hrest a).begun hlast)
  ended hfollows := by
    obtain ⟨first, last, a, rfl, hfirst, hlast⟩ := hfollows.of_bind_ok
    rw [lookUps_append, h.ended hfirst, (hrest a).ended hlast]

/-- Nothing is looked up before the rest of a dialogue. -/
theorem Seeks.after {p : ExceptT Failure (Dialogue (Inquiry.interface Client)) α}
    {f : α → ExceptT Failure (Dialogue (Inquiry.interface Client)) β} (h : Unseeking p.run)
    (hrest : ∀ a, Seeks xs (f a)) : Seeks xs (p >>= f) :=
  h.seeks.bind hrest

/-! ## What the look-ups are about -/

/-- Some answered questions are seen. If a dialogue looks anything up behind them, then its look-ups
and all that is seen by then are related. -/
def LooksUp (Q : List (Answered (Inquiry.interface Client)) → List (Client × RecordKind × String) →
    Prop) (seen : List (Answered (Inquiry.interface Client)))
    (p : Dialogue (Inquiry.interface Client) α) : Prop :=
  ∀ steps rest, Follows p steps rest → lookUps steps = [] ∨ Q (seen ++ steps) (lookUps steps)

variable {Q : List (Answered (Inquiry.interface Client)) → List (Client × RecordKind × String) →
  Prop} {seen : List (Answered (Inquiry.interface Client))}

theorem Unseeking.looksUp {p : Dialogue (Inquiry.interface Client) α} (h : Unseeking p) :
    LooksUp Q seen p :=
  fun _ _ hfollows => .inl (h.lookUps_eq hfollows)

/-- Behind a part that looks nothing up, what that part has seen is known. -/
theorem Unseeking.looksUp_bind {p : Dialogue (Inquiry.interface Client) α} (h : Unseeking p)
    {f : α → Dialogue (Inquiry.interface Client) β}
    (hrest : ∀ first a, Follows p first (.done a) → LooksUp Q (seen ++ first) (f a)) :
    LooksUp Q seen (p >>= f) := by
  intro steps rest hfollows
  rcases hfollows.of_bind with ⟨left, hleft, -⟩ | ⟨first, last, a, rfl, hfirst, hlast⟩
  · exact .inl (h.lookUps_eq hleft)
  · rw [lookUps_append, h.lookUps_eq hfirst, List.nil_append, ← List.append_assoc]
    exact hrest first a hfirst last rest hlast

theorem Unseeking.looksUp_bind_run {p : ExceptT Failure (Dialogue (Inquiry.interface Client)) α}
    (h : Unseeking p.run) {f : α → ExceptT Failure (Dialogue (Inquiry.interface Client)) β}
    (hrest : ∀ first a, Follows p.run first (.done (.ok a)) →
      LooksUp Q (seen ++ first) (f a).run) :
    LooksUp Q seen (p >>= f).run := by
  refine Unseeking.looksUp_bind h fun first result hfirst => ?_
  cases result with
  | error failure => exact Unseeking.looksUp (only_done _)
  | ok a => exact hrest first a hfirst

/-- In front of a part that looks nothing up. -/
theorem LooksUp.bind {p : Dialogue (Inquiry.interface Client) α} (h : LooksUp Q seen p)
    (hmono : ∀ first last looked, Q first looked → Q (first ++ last) looked)
    {f : α → Dialogue (Inquiry.interface Client) β} (hrest : ∀ a, Unseeking (f a)) :
    LooksUp Q seen (p >>= f) := by
  intro steps rest hfollows
  rcases hfollows.of_bind with ⟨left, hleft, -⟩ | ⟨first, last, a, rfl, hfirst, hlast⟩
  · exact h steps left hleft
  · rw [lookUps_append, (hrest a).lookUps_eq hlast, List.append_nil, ← List.append_assoc]
    exact (h first _ hfirst).imp id (hmono _ _ _)

theorem LooksUp.bind_run {p : ExceptT Failure (Dialogue (Inquiry.interface Client)) α}
    (h : LooksUp Q seen p.run)
    (hmono : ∀ first last looked, Q first looked → Q (first ++ last) looked)
    {f : α → ExceptT Failure (Dialogue (Inquiry.interface Client)) β}
    (hrest : ∀ a, Unseeking (f a).run) : LooksUp Q seen (p >>= f).run := by
  refine LooksUp.bind h hmono fun result => ?_
  cases result with
  | error failure => exact only_done _
  | ok a => exact hrest a

theorem unseeking_ask {q : Inquiry Client}
    (h : ∀ moment a, Answered.lookUp? ⟨moment, q, a⟩ = none) :
    Unseeking (Inquiry.ask q) :=
  only_perform h

end Dialogue

/-! ## The comparison with the directory -/

namespace Directory

theorem seeks_find (client : Client) (log : Log.Record → Dialogue (Inquiry.interface Client) Unit)
    (kind : RecordKind) (id : String) :
    Seeks [(client, kind, id)]
      (find ⟨fun kind id => Inquiry.ask (.lookUp client kind id), log⟩ kind id) where
  begun hfollows := by
    rcases Follows.of_bind hfollows with
      ⟨left, hleft, -⟩ | ⟨first, last, found, rfl, hfirst, hlast⟩
    · rcases follows_perform hleft with rfl | ⟨moment, a, rfl, -⟩
      · exact List.nil_prefix
      · exact List.prefix_rfl
    · obtain ⟨moment, rfl⟩ := follows_ask_done hfirst
      cases found <;> (obtain ⟨rfl, -⟩ := follows_done hlast; exact List.prefix_rfl)
  ended hfollows := by
    obtain ⟨first, last, found, rfl, hfirst, hlast⟩ := Follows.of_bind_done hfollows
    obtain ⟨moment, rfl⟩ := follows_ask_done hfirst
    cases found <;> (obtain ⟨rfl, -⟩ := follows_done hlast; rfl)

/-- A record is looked up first. -/
theorem seeks_find_bind {client : Client}
    {log : Log.Record → Dialogue (Inquiry.interface Client) Unit} {kind : RecordKind} {id : String}
    {ys : List (Client × RecordKind × String)} {β : Type}
    {f : kind.Record → ExceptT Failure (Dialogue (Inquiry.interface Client)) β}
    (hrest : ∀ record, Seeks ys (f record)) :
    Seeks ((client, kind, id) :: ys)
      (find ⟨fun kind id => Inquiry.ask (.lookUp client kind id), log⟩ kind id >>= f) :=
  (seeks_find client log kind id).bind hrest

theorem unseeking_agree (record : RecordKind) (field claimed actual : String) :
    Unseeking (agree (I := Inquiry.interface Client) record field claimed actual).run :=
  (compositional_only _).agree record field claimed actual

/-- The comparison looks up what the identity claims. -/
theorem seeks_reconcile (client : Client) (context : Log.Context) (i : Identity) :
    Seeks (i.claims.map (client, ·))
      (reconcile ⟨fun kind id => Inquiry.ask (.lookUp client kind id), Inquiry.surroundings.log⟩
        context i) := by
  refine seeks_find_bind fun inst => ?_
  refine .after (unseeking_agree _ _ _ _) fun _ => .after (unseeking_agree _ _ _ _) fun _ => ?_
  refine seeks_find_bind fun app => ?_
  refine .after (unseeking_agree _ _ _ _) fun _ => .after (unseeking_agree _ _ _ _) fun _ => ?_
  split
  · exact seeks_throw _
  refine seeks_find_bind fun org => ?_
  refine .after (unseeking_agree _ _ _ _) fun _ => ?_
  refine seeks_find_bind fun space => ?_
  refine .after (unseeking_agree _ _ _ _) fun _ => .after (unseeking_agree _ _ _ _) fun _ => ?_
  exact Unseeking.seeks ((unseeking_ask fun _ _ => rfl).map _)

end Directory

/-! ## The identity of a task -/

section Tasks

variable {scheme : IdentityScheme} {context : Log.Context} {remote : String}
  {steps : List (Answered (Inquiry.interface Client))}

/-- The owner of a certificate that a login has authenticated: the matcher of signatures answered
with the certificate, it was verified at the time of receipt against the roots of the configuration,
and the identity is the one that it carries. -/
structure Authenticated (algorithms : List Chain.Algorithm)
    (steps : List (Answered (Inquiry.interface Client))) (request : LoginRequest)
    (certificate : Certificate) (i : Identity) : Prop where
  matched : ∃ moment,
    ⟨moment, .certificateFor request.signature request.signedData, .ok certificate⟩ ∈ steps
  verified : ∃ clocked received configured c settings presented,
    ⟨clocked, .now, received⟩ ∈ steps ∧ ⟨configured, .configuration, .ok (some c)⟩ ∈ steps ∧
      Configuration.trustSettings c = .ok settings ∧
      Certificate.chainOfPem request.certificate = .ok presented ∧
      certificate.verify algorithms presented settings received = .ok ()
  identified : certificate.identity = .ok i

theorem Authenticated.append {algorithms : List Chain.Algorithm} {request : LoginRequest}
    {certificate : Certificate} {i : Identity}
    (h : Authenticated algorithms steps request certificate i)
    (last : List (Answered (Inquiry.interface Client))) :
    Authenticated algorithms (steps ++ last) request certificate i := by
  obtain ⟨⟨moment, hmatched⟩, ⟨clocked, received, configured, c, settings, presented, hnow,
    hconfiguration, hverified⟩, hidentified⟩ := h
  exact ⟨⟨moment, List.mem_append_left last hmatched⟩, ⟨clocked, received, configured, c, settings,
    presented, List.mem_append_left last hnow, List.mem_append_left last hconfiguration,
    hverified⟩, hidentified⟩

namespace Task

/-- How a task comes to know an identity: a login by a certificate, a renewal by the metadata of the
credential. -/
def Establishes (algorithms : List Chain.Algorithm)
    (steps : List (Answered (Inquiry.interface Client))) (i : Identity) : Task → Prop
  | .login _ request _ => ∃ certificate, Authenticated algorithms steps request certificate i
  | .renew _ credential _ => ∃ name, Metadata.decode credential.metadata = .ok ⟨name, i⟩

variable {algorithms : List Chain.Algorithm} {t : Task} {i : Identity}

theorem Establishes.append (h : t.Establishes algorithms steps i)
    (last : List (Answered (Inquiry.interface Client))) :
    t.Establishes algorithms (steps ++ last) i := by
  cases t with
  | login context request remote =>
    obtain ⟨certificate, h⟩ := h
    exact ⟨certificate, h.append last⟩
  | renew context credential remote => exact h

/-- Both ways, an identity with an empty identifier is not known. -/
theorem Establishes.complete (h : t.Establishes algorithms steps i) : i.Complete := by
  cases t with
  | login context request remote =>
    obtain ⟨certificate, h⟩ := h
    exact Certificate.identity_complete h.identified
  | renew context credential remote =>
    obtain ⟨name, h⟩ := h
    have hfilled := (Metadata.decode_eq_ok_iff.1 h).filled
    exact ⟨hfilled .instanceId, hfilled .orgId, hfilled .spaceId, hfilled .appId⟩

/-- Some look-ups are the first ones of the claims of an identity that a task has established, all
made by one client. -/
def Claims (algorithms : List Chain.Algorithm) (t : Task)
    (steps : List (Answered (Inquiry.interface Client)))
    (looked : List (Client × RecordKind × String)) : Prop :=
  ∃ i client, t.Establishes algorithms steps i ∧ looked <+: i.claims.map (client, ·)

theorem Claims.append (first last : List (Answered (Inquiry.interface Client)))
    (looked : List (Client × RecordKind × String)) (h : t.Claims algorithms first looked) :
    t.Claims algorithms (first ++ last) looked := by
  obtain ⟨i, client, hestablishes, hlooked⟩ := h
  exact ⟨i, client, hestablishes.append last, hlooked⟩

end Task

/-! ## The look-ups of a task -/

variable {algorithms : List Chain.Algorithm} {t : Task}
  {seen : List (Answered (Inquiry.interface Client))}

theorem unseeking_findRole (name : String) :
    Unseeking ((Engine.asking scheme : Engine (Inquiry.interface Client)).findRole name).run := by
  refine (compositional_only _).bind (unseeking_ask fun _ _ => rfl) fun found => ?_
  cases found with
  | none => exact only_done _
  | some role => exact only_done _

theorem looksUp_validate {i : Identity} (h : t.Establishes algorithms seen i)
    (settings : DirectorySettings) (role : Role) :
    LooksUp (t.Claims algorithms) seen
      ((Engine.asking scheme).validate context settings role i remote).run := by
  unfold Engine.validate
  split
  · exact Unseeking.looksUp (only_done _)
  have hconnect : Unseeking (Engine.attempt
      (Inquiry.ask (.connect context settings) : Dialogue (Inquiry.interface Client) _)).run :=
    unseeking_ask fun _ _ => rfl
  rw [Engine.attempt_connect_asking, ← bind_pure_comp, bind_assoc]
  refine hconnect.looksUp_bind_run fun first client _ => ?_
  rw [pure_bind]
  intro steps rest hfollows
  have hlooked := (seeks_reconcile client context i).begun hfollows
  exact .inr ⟨i, client, List.append_assoc seen first steps ▸ h.append (first ++ steps), hlooked⟩

theorem looksUp_examine {reader : CertificateFault → String} {outer : Log.Context}
    {request : LoginRequest} {received : Moment} {clocked : Nat} (hnow : ⟨clocked, .now, received⟩ ∈ seen) :
    LooksUp (Task.Claims algorithms (.login outer request remote)) seen
      ((Engine.asking (.x509 algorithms reader)).examine context request received remote).run := by
  have hmatcher : Unseeking (Engine.attempt (Inquiry.ask
      (.certificateFor request.signature request.signedData) :
        Dialogue (Inquiry.interface Client) _)).run := unseeking_ask fun _ _ => rfl
  have hconfiguration : Unseeking (Engine.attempt
      (Inquiry.ask .configuration : Dialogue (Inquiry.interface Client) _)).run :=
    unseeking_ask fun _ _ => rfl
  refine hmatcher.looksUp_bind_run fun _ certificate hasked => ?_
  obtain ⟨matched, rfl⟩ := follows_ask_done hasked
  refine hconfiguration.looksUp_bind_run fun _ found hasked => ?_
  obtain ⟨configured, rfl⟩ := follows_ask_done hasked
  cases found with
  | none => exact Unseeking.looksUp (only_done _)
  | some c =>
    refine Unseeking.looksUp_bind_run (only_done _) fun _ i hsettled => ?_
    obtain ⟨rfl, hauthentic⟩ := follows_settled hsettled
    obtain ⟨settings, presented, hrooted, hreadable, htrusted, hidentified⟩ :=
      (Engine.authenticate_eq_ok_iff ..).1 hauthentic
    refine (unseeking_findRole _).looksUp_bind_run fun first role _ => ?_
    refine (looksUp_validate ?_ _ _).bind_run Task.Claims.append fun _ => only_done _
    refine Task.Establishes.append (t := .login outer request remote) ⟨certificate, ?_⟩ first
    exact ⟨⟨matched, by simp⟩, ⟨clocked, received, configured, c, settings, presented,
      by simp [hnow], by simp, hrooted, hreadable, IdentityScheme.x509_verify_eq_ok_iff.1 htrusted⟩,
      IdentityScheme.x509_identify_eq_ok_iff.1 hidentified⟩

theorem looksUp_attemptRenewal {outer : Log.Context} {credential : Credential} :
    LooksUp (Task.Claims algorithms (.renew outer credential remote)) seen
      ((Engine.asking scheme).attemptRenewal context credential remote).run := by
  have hconfiguration : Unseeking (Engine.attempt
      (Inquiry.ask .configuration : Dialogue (Inquiry.interface Client) _)).run :=
    unseeking_ask fun _ _ => rfl
  refine hconfiguration.looksUp_bind_run fun _ found _ => ?_
  cases found with
  | none => exact Unseeking.looksUp (only_done _)
  | some c =>
    refine Unseeking.looksUp_bind_run (only_done _) fun _ name _ => ?_
    refine (unseeking_findRole _).looksUp_bind_run fun _ role _ => ?_
    refine Unseeking.looksUp_bind_run (only_done _) fun first metadata hsettled => ?_
    obtain ⟨-, hdecoded⟩ := follows_settled hsettled
    refine (looksUp_validate ?_ _ _).bind_run Task.Claims.append fun _ => ?_
    · exact ⟨metadata.role, Except.mapError_eq_ok_iff.1 hdecoded⟩
    · exact (compositional_only _).bind (Only.map (unseeking_ask fun _ _ => rfl) _) fun _ =>
        only_done _

theorem unseeking_concludeLogin (checked : Except Halt Credential) :
    Unseeking ((Engine.asking scheme : Engine (Inquiry.interface Client)).concludeLogin context
      checked) := by
  match checked with
  | .ok credential => exact (unseeking_ask fun _ _ => rfl).bind fun _ => only_done _
  | .error .aborted => exact only_done _
  | .error (.failed failure) =>
    refine (unseeking_ask fun _ _ => rfl).bind fun _ => Only.map ?_ _
    exact (unseeking_ask fun _ _ => rfl).bind fun id =>
      (unseeking_ask fun _ _ => rfl).bind fun _ => only_done id

theorem unseeking_concludeRenewal (checked : Except Failure Credential) :
    Unseeking ((Engine.asking scheme : Engine (Inquiry.interface Client)).concludeRenewal context
      checked) := by
  match checked with
  | .ok renewed => exact only_done _
  | .error failure =>
    exact (unseeking_ask fun _ _ => rfl).bind fun _ => (unseeking_ask fun _ _ => rfl).bind fun _ =>
      only_done _

theorem looksUp_dialogue (algorithms : List Chain.Algorithm) (reader : CertificateFault → String)
    (t : Task) :
    LooksUp (t.Claims algorithms) []
      (t.dialogue (Engine.asking (.x509 algorithms reader) :
        Engine (Inquiry.interface Client))) := by
  cases t with
  | login context request remote =>
    rw [Task.dialogue, Engine.login_eq]
    refine Unseeking.looksUp_bind (unseeking_ask fun _ _ => rfl) fun counted _ _ => ?_
    refine LooksUp.bind ?_ Task.Claims.append unseeking_concludeLogin
    refine Unseeking.looksUp_bind (unseeking_ask fun _ _ => rfl) fun _ received hasked => ?_
    obtain ⟨clocked, rfl⟩ := follows_ask_done hasked
    split
    · exact Unseeking.looksUp (only_done _)
    · have hnow : ⟨clocked, .now, received⟩ ∈ [] ++ counted ++ [⟨clocked, .now, received⟩] := by
        simp
      exact (looksUp_examine hnow).bind Task.Claims.append fun _ => only_done _
  | renew context credential remote =>
    rw [Task.dialogue, Engine.renew_eq]
    refine Unseeking.looksUp_bind (unseeking_ask fun _ _ => rfl) fun counted _ _ => ?_
    exact looksUp_attemptRenewal.bind Task.Claims.append unseeking_concludeRenewal

/-- **No look-up for an empty or foreign identifier.** At any point of a login or a renewal, whoever
answers its questions, no record has been looked up by an empty identifier; and if any has been
looked up at all, then the look-ups so far are the first of the claims of one complete identity,
made by one client: on a login the identity in the certificate that the matcher of signatures
answered with and that was verified, on a renewal the identity in the metadata of the credential. -/
theorem Task.looks_up_own_claims (algorithms : List Chain.Algorithm)
    (reader : CertificateFault → String) (t : Task)
    (steps : List (Answered (Inquiry.interface Client)))
    (rest : Dialogue (Inquiry.interface Client) t.Ending)
    (h : Follows (t.dialogue (.asking (.x509 algorithms reader))) steps rest) :
    (∀ looked ∈ lookUps steps, looked.2.2 ≠ "") ∧
      (lookUps steps = [] ∨ ∃ i client, t.Establishes algorithms steps i ∧ i.Complete ∧
        lookUps steps <+: i.claims.map (client, ·)) := by
  rcases looksUp_dialogue algorithms reader t steps rest h with
    hnone | ⟨i, client, hestablishes, hlooked⟩
  · rw [hnone]
    exact ⟨nofun, .inl rfl⟩
  · have hcomplete : i.Complete := hestablishes.complete
    refine ⟨fun looked hmem => ?_, .inr ⟨i, client, hestablishes, hcomplete, hlooked⟩⟩
    obtain ⟨claim, hclaim, rfl⟩ := List.mem_map.1 (hlooked.subset hmem)
    exact hcomplete.ne_empty hclaim

end Tasks

namespace World.Sample

open Certificate.Sample (algorithm)

/-- The login of the sample, and the renewal of the credential that it issues. -/
def loginTask : Task := .login .root request "10.0.0.1"

def renewalTask : Task := .renew .root grounds.credential "10.0.0.1"

/-- All that a task asks in the world of the sample, with the answers. -/
def transcript (t : Task) : List (Answered (Inquiry.interface Unit)) :=
  (t.dialogue (.asking scheme)).transcript world.answer ()

/-- The sample renewal looks up all claims of the identity in its metadata. -/
theorem tasks_look_up_claims :
    lookUps (transcript renewalTask) = identity.claims.map ((), ·) ∧
      ∀ t ∈ [loginTask, renewalTask],
        (∀ looked ∈ lookUps (transcript t), looked.2.2 ≠ "") ∧
          (lookUps (transcript t) = [] ∨ ∃ i client,
            t.Establishes [algorithm] (transcript t) i ∧ i.Complete ∧
              lookUps (transcript t) <+: i.claims.map (client, ·)) := by
  refine ⟨by decide +kernel, fun t _ => ?_⟩
  have hfollows := follows_transcript world.answer
    (t.dialogue (.asking scheme)) ()
  exact t.looks_up_own_claims [algorithm] _ (transcript t) _ hfollows

end World.Sample

end WorkloadAuth
