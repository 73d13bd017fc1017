import Mathlib.Data.List.Forall2
import WorkloadAuth.Proofs.Courses
import WorkloadAuth.Proofs.Exchanges

/-!
# Twins

Two dialogues that go the same way and differ only in the texts that they post. Nobody who sees
neither these texts nor answers that depend on them can tell the two apart.

* `Http.Request.Alike`, `Http.Course.Alike`: requests and courses that differ in posted texts only.
* `Http.Wire.follow_alike`: alike requests with the same replies have alike courses.
* `Dialogue.courses`: the courses of a run; `Dialogue.exchanges_overWire`: what they come to.
* `Dialogue.Twin`: the dialogues, whose log records may differ in a given way.
* `Dialogue.Twin.bind_run`, `Dialogue.compositional_twin`: twins are made of twins.
* `Dialogue.Twin.same_run`: what can be seen of a run is the same if the replies are.
* `CloudController.twin_validate`: the checks against the Cloud Controller, with two users.
-/

namespace WorkloadAuth

open Directory

/-! ## Requests and courses -/

namespace Http

/-- Two requests are the same, but for what is posted. -/
structure Request.Alike (q q' : Request) : Prop where
  method_eq : q.method = q'.method
  url_eq : q.url = q'.url
  headers_eq : q.headers = q'.headers
  body_eq : q.method = .get → q.body = q'.body

theorem Request.Alike.refl (q : Request) : q.Alike q := ⟨rfl, rfl, rfl, fun _ => rfl⟩

/-- Two requests with their replies are the same, but for what is posted. -/
structure Hop.Alike (x x' : Hop) : Prop where
  request : x.request.Alike x'.request
  reply_eq : x.reply = x'.reply

/-- Two courses are the same, but for what is posted. -/
structure Course.Alike (c c' : Course) : Prop where
  before : List.Forall₂ Hop.Alike c.before c'.before
  last : c.last.Alike c'.last

/-- The replies in two lists are the same, as far as both lists reach. -/
def SameReplies (xs xs' : List Hop) : Prop := ∀ x ∈ xs.zip xs', x.1.reply = x.2.reply

theorem sameReplies_cons {x x' : Hop} {xs xs' : List Hop} :
    SameReplies (x :: xs) (x' :: xs') ↔ x.reply = x'.reply ∧ SameReplies xs xs' := by
  simp [SameReplies]

/-- A request is led elsewhere as one that differs in what is posted. -/
theorem Request.Alike.at {q q' : Request} (h : q.Alike q') (url : Url) :
    (q.at url).Alike (q'.at url) where
  method_eq := h.method_eq
  url_eq := rfl
  headers_eq := by
    have hurl := h.url_eq
    have hheaders := h.headers_eq
    simp only [Request.at, headersAt, headersKept, hurl, hheaders]
  body_eq := h.body_eq

theorem Request.Alike.asking {q q' : Request} (h : q.Alike q') : q.asking.Alike q'.asking where
  method_eq := rfl
  url_eq := h.url_eq
  headers_eq := congrArg (Header.without Header.ofBody) h.headers_eq
  body_eq _ := rfl

theorem Request.Alike.redirection? {q q' : Request} (h : q.Alike q') (reply : Reply) :
    Option.Rel Request.Alike (reply.redirection? q) (reply.redirection? q') := by
  unfold Reply.redirection?
  cases reply.location with
  | none => exact .none
  | some url =>
    simp only [Option.bind_some]
    split
    · exact .some (h.asking.at url)
    · split
      · exact .some (h.at url)
      · exact .none

theorem Hop.Alike.next? {x x' : Hop} (h : x.Alike x') :
    Option.Rel Request.Alike x.next? x'.next? := by
  obtain ⟨q, reply⟩ := x
  obtain ⟨q', reply'⟩ := x'
  obtain ⟨halike, rfl : reply = reply'⟩ := h
  cases reply with
  | error failure => exact .none
  | ok reply =>
    have hrelated := halike.redirection? reply
    simp only [Hop.next?]
    generalize reply.redirection? q = next at hrelated ⊢
    generalize reply.redirection? q' = next' at hrelated ⊢
    cases hrelated with
    | none => exact .none
    | some hnext =>
      rw [Option.filter_some, Option.filter_some, hnext.url_eq]
      split
      · exact .some hnext
      · exact .none

theorem Course.Alike.urls_eq {c c' : Course} (h : c.Alike c') :
    c.hops.map (fun hop => hop.request.url) = c'.hops.map fun hop => hop.request.url := by
  have hbefore : c.before.map (fun hop => hop.request.url) =
      c'.before.map fun hop => hop.request.url := by
    rw [← List.forall₂_eq_eq_eq, List.forall₂_map_left_iff, List.forall₂_map_right_iff]
    exact h.before.imp fun _ _ halike => halike.request.url_eq
  simp only [Course.hops, List.map_append, List.map_singleton, hbefore, h.last.request.url_eq]

namespace Wire

variable {σ τ : Type} (wire : Wire σ) (reply' : Request → τ → Except Failure Reply × τ)

/-- Alike courses come to the same response. -/
theorem conclude_eq_of_alike {c c' : Course} (h : c.Alike c') :
    wire.conclude c = (⟨reply', wire.astray⟩ : Wire τ).conclude c' := by
  unfold conclude
  rw [← h.last.reply_eq, ← h.urls_eq]
  cases c.last.reply with
  | error failure => rfl
  | ok reply =>
    have hrelated := h.last.request.redirection? reply
    simp only [Except.ok_bind]
    generalize reply.redirection? c.last.request = next at hrelated ⊢
    generalize reply.redirection? c'.last.request = next' at hrelated ⊢
    cases hrelated with
    | none => rfl
    | some hnext => simp only [hnext.url_eq]

/-- Alike requests with the same replies have alike courses. What the courses are followed by has
the same replies then. -/
theorem follow_alike (wire' : Wire τ) (limit : Nat) {q q' : Request} (h : q.Alike q') (s : σ)
    (t : τ) (xs xs' : List Hop)
    (hsame : SameReplies ((wire.follow limit q s).1.hops ++ xs)
      ((wire'.follow limit q' t).1.hops ++ xs')) :
    (wire.follow limit q s).1.Alike (wire'.follow limit q' t).1 ∧ SameReplies xs xs' := by
  induction limit generalizing q q' s t with
  | zero =>
    obtain ⟨hreply, hrest⟩ := sameReplies_cons.1 hsame
    exact ⟨⟨.nil, h, hreply⟩, hrest⟩
  | succ limit ih =>
    have hreply : (wire.reply q s).1 = (wire'.reply q' t).1 := by
      obtain ⟨hops, hhops⟩ := wire.hops_follow (limit + 1) q s
      obtain ⟨hops', hhops'⟩ := wire'.hops_follow (limit + 1) q' t
      rw [hhops, hhops'] at hsame
      exact (sameReplies_cons.1 hsame).1
    have hhop : Hop.Alike ⟨q, (wire.reply q s).1⟩ ⟨q', (wire'.reply q' t).1⟩ := ⟨h, hreply⟩
    match hnext : (⟨q, (wire.reply q s).1⟩ : Hop).next?,
      hnext' : (⟨q', (wire'.reply q' t).1⟩ : Hop).next?, hhop.next? with
    | none, none, _ =>
      rw [wire.follow_of_none _ hnext, wire'.follow_of_none _ hnext'] at hsame ⊢
      exact ⟨⟨.nil, hhop⟩, (sameReplies_cons.1 hsame).2⟩
    | some next, some next', .some halike =>
      rw [wire.follow_of_some limit hnext, wire'.follow_of_some limit hnext'] at hsame ⊢
      obtain ⟨hrest, hbehind⟩ := ih halike _ _ (sameReplies_cons.1 hsame).2
      exact ⟨⟨.cons hhop hrest.before, hrest.last⟩, hbehind⟩

end Wire

end Http

variable {Client : Type}

/-- The log record that a question writes. -/
def Inquiry.record? : Inquiry Client → Option Log.Record
  | .log record => some record
  | _ => none

/-- The course of a question that is sent over a wire. -/
def Inquiry.course? {σ : Type} (wire : Http.Wire σ) : Inquiry Client → σ → Option Http.Course
  | .send request, s => some (wire.follow Http.Wire.limit request s).1
  | _, _ => none

/-- A course as an exchange: its first request, and the response in the end. -/
def Http.Wire.exchange {σ : Type} (wire : Http.Wire σ) (c : Http.Course) : Exchange :=
  ⟨c.first.request, wire.conclude c⟩

namespace Dialogue

variable {α β σ τ : Type}

/-- The courses of a run over a wire, in order. -/
def courses (wire : Http.Wire σ) (answer : (q : Inquiry Client) → σ → q.Answer × σ) :
    Dialogue (Inquiry.interface Client) α → σ → List Http.Course
  | done _, _ => []
  | ask q next, s =>
    (Inquiry.course? wire q s).toList ++
      (next (Inquiry.overWire wire answer q s).1).courses wire answer
        (Inquiry.overWire wire answer q s).2

/-- The exchanges of a run over a wire are what its courses come to. -/
theorem exchanges_overWire (wire : Http.Wire σ)
    (answer : (q : Inquiry Client) → σ → q.Answer × σ)
    (p : Dialogue (Inquiry.interface Client) α) (s : σ) :
    p.exchanges (Inquiry.overWire wire answer) s =
      (p.courses wire answer s).map wire.exchange := by
  have hask (q : Inquiry Client) (s : σ) :
      (Inquiry.exchange? q (Inquiry.overWire wire answer q s).1).toList =
        (Inquiry.course? wire q s).toList.map wire.exchange := by
    cases q with
    | send request =>
      have hfirst := (wire.walk_follow Http.Wire.limit request s).1.first_eq
      exact congrArg (fun q => [(⟨q, wire.conclude _⟩ : Exchange)]) hfirst.symm
    | _ => rfl
  induction p generalizing s with
  | done a => rfl
  | ask q next ih =>
    rw [exchanges, courses, List.map_append, hask, ih]

/-- All courses of a run are confined. -/
theorem confined_of_mem_courses {wire : Http.Wire σ}
    {answer : (q : Inquiry Client) → σ → q.Answer × σ}
    {p : Dialogue (Inquiry.interface Client) α} {s : σ} {c : Http.Course}
    (h : c ∈ p.courses wire answer s) : c.Confined := by
  induction p generalizing s with
  | done a => cases h
  | ask q next ih =>
    rcases List.mem_append.1 h with h | h
    · cases q with
      | send request =>
        obtain rfl := List.mem_singleton.1 h
        exact wire.confined_follow request s
      | _ => cases h
    · exact ih _ h

/-- The log records of a run, in order. -/
def logged (answer : (q : Inquiry Client) → σ → q.Answer × σ)
    (p : Dialogue (Inquiry.interface Client) α) (s : σ) : List Log.Record :=
  (p.asked answer s).filterMap Inquiry.record?

/-! ## Twins -/

/-- Two dialogues send requests that are alike, write log records that are related, and do nothing
else; they go on in the same way. -/
inductive Twin (R : Log.Record → Log.Record → Prop) :
    Dialogue (Inquiry.interface Client) α → Dialogue (Inquiry.interface Client) α → Prop where
  | done (a : α) : Twin R (.done a) (.done a)
  | log {record record' : Log.Record} {next next' : Unit → Dialogue (Inquiry.interface Client) α}
      (related : R record record') (rest : Twin R (next ()) (next' ())) :
      Twin R (.ask (.log record) next) (.ask (.log record') next')
  | send {request request' : Http.Request}
      {next next' : Except Failure Http.Response → Dialogue (Inquiry.interface Client) α}
      (alike : request.Alike request')
      (rest : ∀ response, Twin R (next response) (next' response)) :
      Twin R (.ask (.send request) next) (.ask (.send request') next')

section

variable {R : Log.Record → Log.Record → Prop}

theorem Twin.bind {p p' : Dialogue (Inquiry.interface Client) α}
    {f f' : α → Dialogue (Inquiry.interface Client) β} (h : Twin R p p')
    (hrest : ∀ a, Twin R (f a) (f' a)) : Twin R (p >>= f) (p' >>= f') := by
  change Twin R (p.bind f) (p'.bind f')
  induction h with
  | done a => exact hrest a
  | log related _ ih => exact .log related ih
  | send alike _ ih => exact .send alike ih

theorem Twin.map {p p' : Dialogue (Inquiry.interface Client) α} (f : α → β) (h : Twin R p p') :
    Twin R (f <$> p) (f <$> p') := by
  rw [← bind_pure_comp, ← bind_pure_comp]
  exact h.bind fun a => .done (f a)

/-- Twins that fail do so in the same way. -/
theorem Twin.bind_run {p p' : ExceptT Failure (Dialogue (Inquiry.interface Client)) α}
    {f f' : α → ExceptT Failure (Dialogue (Inquiry.interface Client)) β}
    (h : Twin R p.run p'.run) (hrest : ∀ a, Twin R (f a).run (f' a).run) :
    Twin R (p >>= f).run (p' >>= f').run := by
  rw [ExceptT.run_bind, ExceptT.run_bind]
  refine h.bind fun result => ?_
  cases result with
  | error failure => exact .done _
  | ok a => exact hrest a

/-- A dialogue that only sends requests and writes log records is its own twin. -/
theorem compositional_twin (Client : Type) (R : Log.Record → Log.Record → Prop) :
    Compositional (I := Inquiry.interface Client) fun p => Twin R p.run p.run where
  pure a := .done (Except.ok a)
  throw failure := .done (Except.error failure)
  bind := Twin.bind_run
  mapError _ h := h.map _

/-- **Runs of twins.** If the replies in two runs are the same, the results are, the courses are
alike, and the log records are related. -/
theorem Twin.same_run {p p' : Dialogue (Inquiry.interface Client) α} (h : Twin R p p')
    (wire : Http.Wire σ) (reply' : Http.Request → τ → Except Failure Http.Reply × τ)
    (answer : (q : Inquiry Client) → σ → q.Answer × σ)
    (answer' : (q : Inquiry Client) → τ → q.Answer × τ) (s : σ) (t : τ)
    (hsame : Http.SameReplies ((p.courses wire answer s).flatMap Http.Course.hops)
      ((p'.courses ⟨reply', wire.astray⟩ answer' t).flatMap Http.Course.hops)) :
    (p.runWith (Inquiry.overWire wire answer) s).1 =
        (p'.runWith (Inquiry.overWire ⟨reply', wire.astray⟩ answer') t).1 ∧
      List.Forall₂ Http.Course.Alike (p.courses wire answer s)
        (p'.courses ⟨reply', wire.astray⟩ answer' t) ∧
      List.Forall₂ R (p.logged (Inquiry.overWire wire answer) s)
        (p'.logged (Inquiry.overWire ⟨reply', wire.astray⟩ answer') t) := by
  induction h generalizing s t with
  | done a => exact ⟨rfl, .nil, .nil⟩
  | @log record record' _ _ related _ ih =>
    obtain ⟨hresult, hcourses, hlogged⟩ :=
      ih (answer (.log record) s).2 (answer' (.log record') t).2 hsame
    exact ⟨hresult, hcourses, .cons related hlogged⟩
  | @send request request' next next' alike _ ih =>
    let wire' : Http.Wire τ := ⟨reply', wire.astray⟩
    change Http.SameReplies ((wire.follow Http.Wire.limit request s).1.hops ++ _)
      ((wire'.follow Http.Wire.limit request' t).1.hops ++ _) at hsame
    obtain ⟨hcourse, hrest⟩ := wire.follow_alike wire' _ alike s t _ _ hsame
    have hnext : next' (wire'.deliver request' t).1 = next' (wire.deliver request s).1 :=
      congrArg next' (wire.conclude_eq_of_alike reply' hcourse).symm
    change Http.SameReplies
      (((next (wire.deliver request s).1).courses wire answer _).flatMap Http.Course.hops)
      (((next' (wire'.deliver request' t).1).courses wire' answer' _).flatMap Http.Course.hops)
        at hrest
    rw [hnext] at hrest
    obtain ⟨hresult, hcourses, hlogged⟩ := ih _ _ _ hrest
    rw [← hnext] at hresult hcourses hlogged
    exact ⟨hresult, .cons hcourse hcourses, hlogged⟩

end

end Dialogue

/-! ## Two users of the Cloud Controller -/

namespace CloudController

open Dialogue

variable {R : Log.Record → Log.Record → Prop} (words : Wording)

/-- The log records of two users are related, and are the same if the users have one name. -/
def SameUser (username username' : String) (record record' : Log.Record) : Prop :=
  username = username' → record = record'

theorem twin_exchange {α : Type} (shape : Shape α) {request request' : Option Http.Request}
    (h : Option.Rel Http.Request.Alike request request') :
    Twin R
      (exchange (Engine.cloudController words : Access (Inquiry.interface Client)) shape
        request).run
      (exchange (Engine.cloudController words) shape request').run := by
  cases h with
  | none => exact .done _
  | some alike =>
    rw [exchange_some, exchange_some]
    exact Twin.map _ (.send alike fun response => .done response)

theorem twin_log {record record' : Log.Record} (h : R record record') :
    Twin R
      (ExceptT.lift (Inquiry.ask (.log record)) :
        ExceptT Failure (Dialogue (Inquiry.interface Client)) Unit).run
      (ExceptT.lift (Inquiry.ask (.log record'))).run :=
  Twin.map _ (.log h (.done ()))

theorem alike_self (request : Option Http.Request) :
    Option.Rel Http.Request.Alike request request := by
  cases request with
  | none => exact .none
  | some q => exact .some (.refl q)

/-- A user's request for a token is the one of another user, but for what is posted. -/
theorem alike_tokenRequest? (url : Http.Url) (settings settings' : DirectorySettings) :
    Option.Rel Http.Request.Alike (tokenRequest? url settings) (tokenRequest? url settings') := by
  unfold tokenRequest? Http.Request.make?
  split
  · exact .some ⟨rfl, rfl, rfl, fun h => by cases h⟩
  · exact .none

variable (context : Log.Context) (settings : DirectorySettings) (username password : String)

theorem twin_connect :
    Twin (SameUser settings.username username)
      (connect (Engine.cloudController words : Access (Inquiry.interface Client)) context
        settings).run
      (connect (Engine.cloudController words) context
        { settings with username := username, password := password }).run := by
  have htwin := compositional_twin Client (SameUser settings.username username)
  unfold connect
  dsimp only
  split
  · rw [throw_bind, throw_bind]
    exact htwin.throw _
  · refine Twin.bind_run (twin_exchange words _ (alike_self _)) fun endpoint => ?_
    split
    · exact htwin.throw _
    · rename_i url _
      refine Twin.bind_run (twin_log fun h => by rw [h]) fun _ => ?_
      refine Twin.bind_run
        (twin_exchange words _ (alike_tokenRequest? url settings _)) fun token => ?_
      exact htwin.pure _

theorem twin_lookUp (c : Connection) (kind : RecordKind) (id : String) :
    Twin (SameUser settings.username username)
      (Engine.attempt
        (lookUp (Engine.cloudController words : Access (Inquiry.interface Client)) c kind id)).run
      (Engine.attempt (lookUp (Engine.cloudController words) c kind id)).run := by
  rw [Engine.attempt_lookUp]
  exact twin_exchange words (recordShape kind) (alike_self (recordRequest? c kind id))

/-- The checks of an identity go the same way with two users. -/
theorem twin_validate (scheme : IdentityScheme) (role : Role) (identity : Identity)
    (remote : String) :
    Twin (SameUser settings.username username)
      ((Engine.overHttp words scheme : Engine (Inquiry.interface Client)).validate context settings
        role identity remote).run
      ((Engine.overHttp words scheme).validate context
        { settings with username := username, password := password } role identity remote).run := by
  have htwin := compositional_twin Client (SameUser settings.username username)
  unfold Engine.validate
  split
  · exact htwin.throw _
  · rw [Engine.attempt_connect_overHttp, Engine.attempt_connect_overHttp, ← bind_pure_comp,
      ← bind_pure_comp, bind_assoc, bind_assoc]
    refine Twin.bind_run (twin_connect words context settings username password) fun c => ?_
    rw [pure_bind]
    exact htwin.reconcile (twin_lookUp words settings username c)
      (fun record _ => twin_log fun _ => rfl) context identity

end CloudController

end WorkloadAuth
