import WorkloadAuth.Proofs.Compositional
import WorkloadAuth.Proofs.Result
import WorkloadAuth.Proofs.Run

/-!
# Exchanges with the Cloud Controller

A response counts unless its status tells of a failure: from 400 to 599. All other statuses are
treated as 200 is, also those that tell of no success. The first request without a response that
counts is the last one.

* `Directory.Response.decode_eq_ok_iff`, `Directory.Response.expect_eq_ok_iff`: when a response has
  a value.
* `Exchange`, `Dialogue.exchanges`: the requests of a run with their responses.
* `Dialogue.Careful`: a dialogue goes on only while responses can be used.
* `CloudController.careful_validate`: the checks that logins and renewals share.
* `CloudController.answers_by_status`: what takes part in a decision.
* `CloudController.Sample.unsuccessful_answers_count`: answers that tell of no success.
-/

namespace WorkloadAuth

open Directory Dialogue

/-! ## Responses -/

namespace Directory.Response

/-- A status tells of a failure. -/
def Failing (status : Nat) : Prop := 400 ≤ status ∧ status < 600

instance (status : Nat) : Decidable (Failing status) := inferInstanceAs (Decidable (_ ∧ _))

/-- A status tells of success. -/
def Successful (status : Nat) : Prop := 200 ≤ status ∧ status < 300

instance (status : Nat) : Decidable (Successful status) := inferInstanceAs (Decidable (_ ∧ _))

variable {α : Type} {json : String → String} {shape : Shape α} {status : Nat} {text : String}

/-- A response whose status tells of a failure has no value. -/
theorem decode_of_failing (h : Failing status) :
    ∃ failure, decode json shape status text = .error failure := by
  obtain ⟨hlow, hhigh⟩ := h
  unfold decode
  split
  · exact ⟨_, rfl⟩
  · by_cases hclient : status < 500
    · rw [if_pos (show isClientError status = true by simp [isClientError, hlow, hclient])]
      exact ⟨_, rfl⟩
    · have hserver : isServerError status = true := by
        simp only [isServerError, Bool.and_eq_true, decide_eq_true_eq]
        omega
      rw [if_neg (show ¬isClientError status = true by simp [isClientError, hclient]),
        if_pos hserver]
      exact ⟨_, rfl⟩

/-- Any other response is decoded as if it told of success. -/
theorem decode_of_not_failing (h : ¬Failing status) :
    decode json shape status text = decode json shape 200 text := by
  have hnotFound : status ≠ 404 := by
    rintro rfl
    exact h (by decide)
  have hclient : ¬isClientError status = true := by
    simp only [isClientError, Bool.and_eq_true, decide_eq_true_eq]
    exact fun hbounds => h ⟨hbounds.1, by omega⟩
  have hserver : ¬isServerError status = true := by
    simp only [isServerError, Bool.and_eq_true, decide_eq_true_eq]
    exact fun hbounds => h ⟨by omega, hbounds.2⟩
  unfold decode
  rw [if_neg hnotFound, if_neg hclient, if_neg hserver]
  rfl

/-- A response has a value if its status tells of no failure and its text is one. It has none, and
is no failure either, if the text is empty. -/
theorem decode_eq_ok_iff {v : Option α} :
    decode json shape status text = .ok v ↔
      ¬Failing status ∧
        (text = "" ∧ v = none ∨ text ≠ "" ∧ ∃ a, shape.ofJson text = .ok a ∧ v = some a) := by
  by_cases hfailing : Failing status
  · obtain ⟨failure, hfailure⟩ : ∃ failure, decode json shape status text = .error failure :=
      decode_of_failing hfailing
    simp [hfailure, hfailing]
  · rw [decode_of_not_failing hfailing]
    by_cases htext : text = ""
    · simp [decode, isClientError, isServerError, htext, hfailing, eq_comm]
    · cases hjson : shape.ofJson text with
      | error fault => simp [decode, isClientError, isServerError, hjson, htext, hfailing]
      | ok a => simp [decode, isClientError, isServerError, hjson, htext, hfailing, eq_comm]

theorem expect_eq_ok_iff {response : Http.Response} {a : α} :
    expect json shape response = .ok a ↔
      ¬Failing response.status ∧ response.text ≠ "" ∧ shape.ofJson response.text = .ok a := by
  have hvalue : expect json shape response = .ok a ↔
      decode json shape response.status response.text = .ok (some a) := by
    unfold expect
    rcases decode json shape response.status response.text with failure | (_ | a') <;> simp
  rw [hvalue, decode_eq_ok_iff]
  simp only [reduceCtorEq, and_false, false_or, Option.some.injEq, exists_eq_right']

end Directory.Response

/-! ## Exchanges -/

/-- A request, and the response to it if one comes. -/
structure Exchange where
  request : Http.Request
  response : Except Failure Http.Response

/-- There is a response with a text, and its status tells of no failure. -/
def Exchange.Usable (x : Exchange) : Prop :=
  ∃ response, x.response = .ok response ∧ ¬Response.Failing response.status ∧ response.text ≠ ""

section Runs

variable {Client α β σ : Type}

/-- The exchange of a question, by its answer. -/
def Inquiry.exchange? : (q : Inquiry Client) → q.Answer → Option Exchange
  | .send request, response => some ⟨request, response⟩
  | _, _ => none

namespace Dialogue

variable (answer : (q : Inquiry Client) → σ → q.Answer × σ)

/-- The exchanges of a run, in order. -/
def exchanges : Dialogue (Inquiry.interface Client) α → σ → List Exchange
  | done _, _ => []
  | ask q next, s =>
    (Inquiry.exchange? q (answer q s).1).toList ++ (next (answer q s).1).exchanges (answer q s).2

@[simp] theorem exchanges_bind (p : Dialogue (Inquiry.interface Client) α)
    (f : α → Dialogue (Inquiry.interface Client) β) (s : σ) :
    (p >>= f).exchanges answer s =
      p.exchanges answer s ++
        (f (p.runWith answer s).1).exchanges answer (p.runWith answer s).2 := by
  change (p.bind f).exchanges answer s = _
  induction p generalizing s with
  | done a => rfl
  | ask q next ih =>
    rw [bind, exchanges, ih, exchanges, List.append_assoc]
    rfl

@[simp] theorem exchanges_map (f : α → β) (p : Dialogue (Inquiry.interface Client) α) (s : σ) :
    (f <$> p).exchanges answer s = p.exchanges answer s := by
  rw [← bind_pure_comp, exchanges_bind]
  exact List.append_nil _

/-- All exchanges of a run but the last can be used, and so can the last if the run succeeds. -/
structure Careful (p : ExceptT Failure (Dialogue (Inquiry.interface Client)) α) : Prop where
  before : ∀ s, ∀ x ∈ (p.run.exchanges answer s).dropLast, x.Usable
  success : ∀ s a, outcome answer p s = .ok a → ∀ x ∈ p.run.exchanges answer s, x.Usable

variable {answer} {p : ExceptT Failure (Dialogue (Inquiry.interface Client)) α}
  {f : α → ExceptT Failure (Dialogue (Inquiry.interface Client)) β}

/-- A dialogue without exchanges. -/
theorem careful_of_exchanges_eq_nil (h : ∀ s, p.run.exchanges answer s = []) :
    Careful answer p := by
  constructor
  · intro s x hx
    rw [h s] at hx
    cases hx
  · intro s a _ x hx
    rw [h s] at hx
    cases hx

theorem careful_pure (a : α) :
    Careful answer (pure a : ExceptT Failure (Dialogue (Inquiry.interface Client)) α) :=
  careful_of_exchanges_eq_nil fun _ => rfl

theorem careful_throw (failure : Failure) :
    Careful answer (throw failure : ExceptT Failure (Dialogue (Inquiry.interface Client)) α) :=
  careful_of_exchanges_eq_nil fun _ => rfl

theorem exchanges_run_bind (p : ExceptT Failure (Dialogue (Inquiry.interface Client)) α)
    (f : α → ExceptT Failure (Dialogue (Inquiry.interface Client)) β) (s : σ) :
    (p >>= f).run.exchanges answer s = p.run.exchanges answer s ++
      match outcome answer p s with
      | .ok a => (f a).run.exchanges answer (after answer p s)
      | .error _ => [] := by
  simp only [outcome, after, ExceptT.run_bind, exchanges_bind]
  cases (p.run.runWith answer s).1 <;> rfl

/-- What follows goes on only if the first part succeeds, and then all of its exchanges can be
used. -/
theorem Careful.bind (h : Careful answer p) (hrest : ∀ a, Careful answer (f a)) :
    Careful answer (p >>= f) := by
  constructor
  · intro s x hx
    rw [exchanges_run_bind] at hx
    cases hfirst : outcome answer p s with
    | error failure =>
      rw [hfirst, List.append_nil] at hx
      exact h.before s x hx
    | ok a =>
      rw [hfirst] at hx
      by_cases hnone : (f a).run.exchanges answer (after answer p s) = []
      · simp only [hnone, List.append_nil] at hx
        exact h.before s x hx
      · rw [List.dropLast_append_of_ne_nil hnone] at hx
        rcases List.mem_append.1 hx with hx | hx
        · exact h.success s a hfirst x hx
        · exact (hrest a).before _ x hx
  · intro s b hok x hx
    obtain ⟨a, hfirst, hlast⟩ :=
      (outcome_bind_eq_ok_iff (I := Inquiry.interface Client) answer).1 hok
    rw [exchanges_run_bind, hfirst] at hx
    rcases List.mem_append.1 hx with hx | hx
    · exact h.success s a hfirst x hx
    · exact (hrest a).success _ b hlast x hx

/-- A failure that is told in another way. -/
theorem Careful.mapError (change : Failure → Failure) (h : Careful answer p) :
    Careful answer (ExceptT.mk (Except.mapError change <$> p.run)) := by
  have hsame (s : σ) : (ExceptT.mk (Except.mapError change <$> p.run)).run.exchanges answer s =
      p.run.exchanges answer s := exchanges_map answer _ p.run s
  constructor
  · intro s x hx
    rw [hsame s] at hx
    exact h.before s x hx
  · intro s a hok x hx
    rw [hsame s] at hx
    rw [outcome_mk, runWith_map, Except.mapError_eq_ok_iff] at hok
    exact h.success s a hok x hx

theorem compositional_careful : Compositional fun p => Careful answer p where
  pure := careful_pure
  throw := careful_throw
  bind := Careful.bind
  mapError := Careful.mapError

end Dialogue

end Runs

/-! ## The Cloud Controller -/

namespace CloudController

variable {Client σ : Type} {answer : (q : Inquiry Client) → σ → q.Answer × σ}

variable {α : Type} {words : Wording} (shape : Shape α)

/-- What is made of a response, or of none. -/
def received (json : String → String) (response : Except Failure Http.Response) :
    Except Failure α :=
  match response with
  | .error failure => .error failure
  | .ok response => Response.expect json shape response

/-- A request that can be sent is sent, and what is made of its response is the result. -/
theorem exchange_some (request : Http.Request) :
    exchange (Engine.cloudController words) shape (some request) =
      ExceptT.mk (received shape words.json <$> (Inquiry.ask (.send request) :
        Dialogue (Inquiry.interface Client) (Except Failure Http.Response))) := by
  refine congrArg (Dialogue.ask (I := Inquiry.interface Client) (.send request)) ?_
  funext response
  cases response <;> rfl

/-- **Exchanges.** An exchange succeeds if and only if its request can be sent and the response to
it tells of no failure by its status and has the value as its text. -/
theorem outcome_exchange_eq_ok_iff (request : Option Http.Request) (s : σ) (a : α) :
    outcome answer (exchange (Engine.cloudController words) shape request) s = .ok a ↔
      ∃ q response, request = some q ∧ (answer (.send q) s).1 = .ok response ∧
        ¬Response.Failing response.status ∧ response.text ≠ "" ∧
        shape.ofJson response.text = .ok a := by
  cases request with
  | none =>
    constructor
    · intro h
      cases h
    · rintro ⟨_, _, h, -⟩
      cases h
  | some request =>
    rw [exchange_some, outcome_mk, runWith_map]
    change received shape words.json (answer (.send request) s).1 = .ok a ↔ _
    cases hresponse : (answer (.send request) s).1 with
    | error failure => simp [received, hresponse]
    | ok response => simp [received, hresponse, Response.expect_eq_ok_iff]

/-- An exchange that succeeds can be used. -/
theorem careful_exchange (request : Option Http.Request) :
    Careful answer (exchange (Engine.cloudController words) shape request) := by
  cases request with
  | none => exact careful_throw _
  | some request =>
    have hone (s : σ) :
        (exchange (Engine.cloudController words) shape (some request)).run.exchanges answer s =
          [⟨request, (answer (.send request) s).1⟩] := by
      rw [exchange_some]
      rfl
    constructor
    · intro s x hx
      rw [hone s] at hx
      cases hx
    · intro s a hok x hx
      rw [hone s, List.mem_singleton] at hx
      obtain ⟨q, response, hq, hresponse, hstatus, htext, -⟩ :=
        (outcome_exchange_eq_ok_iff shape (some request) s a).1 hok
      obtain rfl := Option.some.inj hq
      rw [hx, hresponse]
      exact ⟨response, rfl, hstatus, htext⟩

theorem careful_log (record : Log.Record) (_ : record.level = .debug) :
    Careful answer (ExceptT.lift (Inquiry.ask (.log record))) :=
  careful_of_exchanges_eq_nil fun _ => rfl

theorem careful_validate (words : Wording) (scheme : IdentityScheme) (context : Log.Context)
    (settings : DirectorySettings) (role : Role) (identity : Identity) (remote : String) :
    Careful answer
      ((Engine.overHttp words scheme).validate context settings role identity remote) := by
  have hconnection : Careful answer (connect (Engine.cloudController words) context settings) :=
    compositional_careful.connect careful_exchange careful_log context settings
  have hlookUp (c : Connection) (kind : RecordKind) (id : String) :
      Careful answer (Engine.attempt (lookUp (Engine.cloudController words) c kind id)) := by
    rw [Engine.attempt_lookUp]
    exact careful_exchange (recordShape kind) (recordRequest? c kind id)
  exact compositional_careful.validate
    (Engine.attempt_connect_overHttp words scheme context settings) hconnection hlookUp careful_log role identity remote

/-- **Answers count by their status.** A response has a value only if its status is none from 400 to
599, and an exchange succeeds only with such a response. While the Cloud Controller is asked about
an identity, the first exchange that cannot be used is the last one, and then the checks fail. -/
theorem answers_by_status (words : Wording) (scheme : IdentityScheme)
    (answer : (q : Inquiry Client) → σ → q.Answer × σ) :
    (∀ {α : Type} (shape : Shape α) (status : Nat) (text : String) (v : Option α),
      Response.decode words.json shape status text = .ok v ↔ ¬Response.Failing status ∧
        (text = "" ∧ v = none ∨ text ≠ "" ∧ ∃ a, shape.ofJson text = .ok a ∧ v = some a)) ∧
    (∀ {α : Type} (shape : Shape α) (request : Option Http.Request) (s : σ) (a : α),
      outcome answer (exchange (Engine.cloudController words) shape request) s = .ok a ↔
        ∃ q response, request = some q ∧ (answer (.send q) s).1 = .ok response ∧
          ¬Response.Failing response.status ∧ response.text ≠ "" ∧
          shape.ofJson response.text = .ok a) ∧
    ∀ (context : Log.Context) (settings : DirectorySettings) (role : Role) (identity : Identity)
      (remote : String) (s : σ),
      let checks := (Engine.overHttp words scheme).validate context settings role identity remote
      (∀ x ∈ (checks.run.exchanges answer s).dropLast, x.Usable) ∧
        (outcome answer checks s = .ok () → ∀ x ∈ checks.run.exchanges answer s, x.Usable) := by
  refine ⟨?_, ?_, ?_⟩
  · intro α shape status text v
    exact Response.decode_eq_ok_iff
  · intro α shape request s a
    exact outcome_exchange_eq_ok_iff shape request s a
  · intro context settings role identity remote s
    have hcareful : Careful answer _ :=
      careful_validate words scheme context settings role identity remote
    exact ⟨hcareful.before s, hcareful.success s ()⟩

namespace Sample

/-- What a server says about a login and about the records of an identity. -/
def bodies : List String :=
  ["\x7b\"token_endpoint\":\"http://[::1]\"\x7d", "\x7b\"access_token\":\"t\"\x7d",
    "\x7b\"entity\":\x7b\"space_guid\":\"s\"\x7d,\"metadata\":\x7b\"guid\":\"i\"\x7d\x7d",
    "\x7b\"entity\":\x7b\"space_guid\":\"s\",\"instances\":1\x7d," ++
      "\"metadata\":\x7b\"guid\":\"a\"\x7d\x7d",
    "\x7b\"entity\":\x7b\x7d,\"metadata\":\x7b\"guid\":\"o\"\x7d\x7d",
    "\x7b\"entity\":\x7b\"organization_guid\":\"o\"\x7d,\"metadata\":\x7b\"guid\":\"s\"\x7d\x7d"]

/-- What is said if nothing comes back. -/
def silence : Failure := .of (.foreign .http "connection closed before message completed")

/-- The words of libraries, as far as the samples need them. -/
def wording : Wording where
  trustStore _ := .of (.foreign .http "builder error")
  request := .of (.foreign .http "builder error")
  json _ := "expected value at line 1 column 1"
  url _ := "relative URL without a base"

/-- A server that gives all of its answers with one status. The state is the number of requests. -/
def reply (status : Nat) : (q : Inquiry Empty) → Nat → q.Answer × Nat
  | .send _, n =>
    (match bodies[n]? with
      | some body => .ok ⟨status, Text.Utf8.encode body.toList⟩
      | none => .error silence, n + 1)
  | .now, n => (⟨0, 0⟩, n)
  | .failureId, n => (.ofRandom 0, n)
  | .certificateFor .., n => (.error (.of .noMatchingCertificate), n)
  | .configuration, n => (.ok none, n)
  | .role _, n => (.ok none, n)
  | .connect .., n => (.error silence, n)
  | .lookUp client .., _ => nomatch client
  | .log _, n => ((), n)
  | .count _, n => ((), n)

/-- The checks of an identity by this server. -/
def checks : ExceptT Failure (Dialogue (Inquiry.interface Empty)) Unit :=
  (Engine.overHttp wording (.x509 [] fun _ => "")).validate .root
    { apiAddress := "http://[::1]", password := "p", username := "u" }
    { name := "r" } ⟨"i", "o", "s", "a", .v4 0x0a000001⟩ "10.0.0.1"

theorem status_of_reply {status n : Nat} {request : Http.Request} {response : Http.Response}
    (h : (reply status (.send request) n).1 = .ok response) : response.status = status := by
  simp only [reply] at h
  cases hbody : bodies[n]? with
  | none =>
    rw [hbody] at h
    cases h
  | some body =>
    rw [hbody] at h
    cases h
    rfl

/-- Statuses that tell of no success are no failures either: a record counts with each of them, and
the checks succeed by a server that says in all of its answers that there are several choices. -/
theorem unsuccessful_answers_count :
    (∀ status ∈ [100, 300, 600], ¬Response.Successful status ∧
      (Response.decode wording.json (recordShape .app) status (bodies.getD 3 "")).toOption =
        some (some ⟨"a", 1, "s"⟩)) ∧
    (∀ request n response, (reply 300 (.send request) n).1 = .ok response →
      ¬Response.Successful response.status) ∧
    (outcome (reply 300) checks 0).toOption = some () := by
  refine ⟨?_, ?_, ?_⟩
  · decide +kernel
  · intro request n response h
    rw [status_of_reply h]
    decide
  · decide +kernel

end Sample

end CloudController

end WorkloadAuth
