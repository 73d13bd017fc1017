import WorkloadAuth.Proofs.FormText
import WorkloadAuth.Proofs.RecordAddress
import WorkloadAuth.Proofs.Twins

/-!
# The protocol of the Cloud Controller

The checks of an identity against the Cloud Controller are six turns at most: the server is asked
about itself, then for a token, then for each record that the identity claims. A turn is taken only
if the responses to all turns before it were accepted. What the server answers decides how far the
checks go, and which endpoint is told the user and the password. All else goes to the server itself.

* `CloudController.Turn`, `CloudController.turns`: a request with the responses to it that are
  accepted, and those of the checks.
* `CloudController.Begins`, `CloudController.Completes`: exchanges that are some turns, or the first
  of them.
* `CloudController.PlaysAt`: a run whose exchanges begin some turns;
  `CloudController.Asks.playsAt_bind`: one more turn.
* `CloudController.exists_playsAt_validate`: the runs of the checks.
* `CloudController.runs_in_turns`: what is sent in a run of the checks, and what can be learnt of
  the password from it.
-/

namespace WorkloadAuth

open Directory Dialogue

/-- The records of the directory agree with an identity. -/
def Identity.Confirmed (i : Identity) : (kind : RecordKind) → kind.Record → Prop
  | .serviceInstance, inst => inst.guid = i.instanceId ∧ inst.spaceGuid = i.spaceId
  | .app, app => app.guid = i.appId ∧ app.spaceGuid = i.spaceId ∧ app.instances ≠ 0
  | .org, org => org.guid = i.orgId
  | .space, space => space.guid = i.spaceId ∧ space.orgGuid = i.orgId

/-- A response gives a value: its status tells of no failure and its text is the value. -/
def Directory.Response.Gives {α : Type} (shape : Shape α) (response : Http.Response) (a : α) :
    Prop :=
  ¬Response.Failing response.status ∧ response.text ≠ "" ∧ shape.ofJson response.text = .ok a

namespace CloudController

open Http

/-! ## Turns -/

/-- What is sent, and which responses to it are accepted. -/
structure Turn where
  method : Method
  address : String
  headers : List Header
  body : String
  Accepts : Http.Response → Prop

namespace Turn

/-- A request is the one of a turn. The user and the password that the address names are sent as a
header. -/
def Sends (t : Turn) (request : Request) : Prop :=
  ∃ url, Url.parse? t.address = some url ∧ url.scheme ∈ Request.schemes ∧
    request = ⟨t.method, { url with username := [], password := [] },
      Request.urlCredentials url ++ t.headers, t.body⟩

/-- An exchange is a turn whose response is accepted. -/
def Passes (t : Turn) (x : Exchange) : Prop :=
  t.Sends x.request ∧ ∃ response, x.response = .ok response ∧ t.Accepts response

theorem sends_of_make? {t : Turn} {url : Url} {request : Request}
    (hurl : Url.parse? t.address = some url)
    (h : Request.make? t.method url t.headers t.body = some request) : t.Sends request := by
  obtain ⟨hscheme, -, rfl⟩ := Request.make?_eq_some_iff.1 h
  exact ⟨url, hurl, hscheme, rfl⟩

end Turn

/-- Some exchanges are the first of some turns. The responses to all but the last are accepted. -/
inductive Begins : List Turn → List Exchange → Prop where
  | nil (turns : List Turn) : Begins turns []
  | last {t : Turn} {turns : List Turn} {x : Exchange} (h : t.Sends x.request) :
      Begins (t :: turns) [x]
  | cons {t : Turn} {turns : List Turn} {x : Exchange} {xs : List Exchange} (h : t.Passes x)
      (rest : Begins turns xs) : Begins (t :: turns) (x :: xs)

/-- Some exchanges are some turns, and all responses are accepted. -/
def Completes (turns : List Turn) (xs : List Exchange) : Prop := List.Forall₂ Turn.Passes turns xs

theorem Begins.exists_turn {turns : List Turn} {xs : List Exchange} (h : Begins turns xs)
    {x : Exchange} (hx : x ∈ xs) : ∃ t ∈ turns, t.Sends x.request := by
  induction h with
  | nil => cases hx
  | last h =>
    obtain rfl := List.mem_singleton.1 hx
    exact ⟨_, List.mem_cons_self, h⟩
  | cons h _ ih =>
    rcases List.mem_cons.1 hx with rfl | hx
    · exact ⟨_, List.mem_cons_self, h.1⟩
    · obtain ⟨t, ht, hsends⟩ := ih hx
      exact ⟨t, List.mem_cons_of_mem _ ht, hsends⟩

/-- The server is asked about itself, and names an endpoint. -/
def infoTurn (base endpoint : String) : Turn where
  method := .get
  address := base ++ "/v2/info"
  headers := [agent]
  body := ""
  Accepts response := Response.Gives infoShape response endpoint

/-- The endpoint is asked for a token. -/
def tokenTurn (settings : DirectorySettings) (endpoint token : String) : Turn where
  method := .post
  address := trimSlashes endpoint ++ "/oauth/token"
  headers := [tokenClient, .contentType "application/x-www-form-urlencoded", agent]
  body := Form.encode [("grant_type", "password"), ("username", settings.username),
    ("password", settings.password)]
  Accepts response := Response.Gives tokenShape response token

/-- The server is asked for a record at a place, and shown the token. The record has to agree with
an identity. -/
def recordTurn (base token : String) (i : Identity) (kind : RecordKind) (place id : String) :
    Turn where
  method := .get
  address := base ++ "/v2/" ++ (place ++ "/" ++ id)
  headers := [⟨"authorization", "Bearer " ++ token⟩, agent]
  body := ""
  Accepts response :=
    ∃ record, Response.Gives (recordShape kind) response record ∧ i.Confirmed kind record

/-- The server is asked for the records that an identity claims. -/
def recordTurns (base token : String) (i : Identity) : List Turn :=
  [recordTurn base token i .serviceInstance "service_instances" i.instanceId,
    recordTurn base token i .app "apps" i.appId,
    recordTurn base token i .org "organizations" i.orgId,
    recordTurn base token i .space "spaces" i.spaceId]

/-- The turns of the checks of an identity. -/
def turns (settings : DirectorySettings) (i : Identity) (endpoint token : String) : List Turn :=
  let base := trimSlashes settings.apiAddress
  infoTurn base endpoint :: tokenTurn settings endpoint token :: recordTurns base token i

/-! ## Runs in turns -/

section

variable {Client α β σ : Type} (answer : (q : Inquiry Client) → σ → q.Answer × σ)

/-- The exchanges of a run begin some turns, and are all of them if it succeeds. A condition has to
be met if there are any, or if the run succeeds. -/
structure PlaysAt (condition : Prop) (turns : List Turn)
    (p : ExceptT Failure (Dialogue (Inquiry.interface Client)) α) (s : σ) : Prop where
  allowed : p.run.exchanges answer s ≠ [] → condition
  begins : Begins turns (p.run.exchanges answer s)
  ends : ∀ a, outcome answer p s = .ok a →
    condition ∧ Completes turns (p.run.exchanges answer s)

/-- A dialogue sends a request, if there is one, and its result is the value that the response
gives. -/
structure Asks (shape : Shape α) (request : Option Request)
    (p : ExceptT Failure (Dialogue (Inquiry.interface Client)) α) : Prop where
  exchanges_eq : ∀ s, p.run.exchanges answer s =
    request.toList.map fun q => ⟨q, (answer (.send q) s).1⟩
  gives : ∀ s a, outcome answer p s = .ok a → ∃ q response, request = some q ∧
    (answer (.send q) s).1 = .ok response ∧ Response.Gives shape response a

variable {answer} {condition : Prop} {ts : List Turn} {s : σ}

theorem asks_exchange (words : Wording) (shape : Shape α) (request : Option Request) :
    Asks answer shape request (exchange (Engine.cloudController words) shape request) where
  exchanges_eq s := by
    cases request with
    | none => rfl
    | some q =>
      rw [exchange_some]
      rfl
  gives s a h := (outcome_exchange_eq_ok_iff shape request s a).1 h

/-- A failure that is told in another way. -/
theorem Asks.mapError {shape : Shape α} {request : Option Request}
    {p : ExceptT Failure (Dialogue (Inquiry.interface Client)) α} (change : Failure → Failure)
    (h : Asks answer shape request p) :
    Asks answer shape request (ExceptT.mk (Except.mapError change <$> p.run)) where
  exchanges_eq s := (exchanges_map answer _ p.run s).trans (h.exchanges_eq s)
  gives s a hok := by
    rw [outcome_mk, runWith_map, Except.mapError_eq_ok_iff] at hok
    exact h.gives s a hok

theorem PlaysAt.imp {condition' : Prop}
    {p : ExceptT Failure (Dialogue (Inquiry.interface Client)) α}
    (h : PlaysAt answer condition ts p s) (himp : condition → condition') :
    PlaysAt answer condition' ts p s where
  allowed hne := himp (h.allowed hne)
  begins := h.begins
  ends a hok := ⟨himp (h.ends a hok).1, (h.ends a hok).2⟩

theorem playsAt_throw (ts : List Turn) (failure : Failure) (s : σ) :
    PlaysAt answer condition ts
      (throw failure : ExceptT Failure (Dialogue (Inquiry.interface Client)) α) s where
  allowed h := absurd rfl h
  begins := .nil ts
  ends a h := by cases h

section

variable {shape : Shape α} {request : Option Request}
  {p : ExceptT Failure (Dialogue (Inquiry.interface Client)) α}
  {f : α → ExceptT Failure (Dialogue (Inquiry.interface Client)) β}

/-- Nothing is sent after a request that fails. -/
theorem Asks.exchanges_bind_of_error (h : Asks answer shape request p) {failure : Failure}
    (hfirst : outcome answer p s = .error failure) :
    (p >>= f).run.exchanges answer s =
      request.toList.map fun q => ⟨q, (answer (.send q) s).1⟩ := by
  rw [exchanges_run_bind, hfirst, List.append_nil, h.exchanges_eq s]

/-- After a response that gives a value the dialogue goes on. -/
theorem Asks.exchanges_bind_of_ok (h : Asks answer shape request p) {a : α}
    (hfirst : outcome answer p s = .ok a) :
    ∃ q response, request = some q ∧ Response.Gives shape response a ∧
      (p >>= f).run.exchanges answer s =
        ⟨q, .ok response⟩ :: (f a).run.exchanges answer (after answer p s) := by
  obtain ⟨q, response, hrequest, hresponse, hgives⟩ := h.gives s a hfirst
  refine ⟨q, response, hrequest, hgives, ?_⟩
  rw [exchanges_run_bind, hfirst, h.exchanges_eq s, hrequest, ← hresponse]
  rfl

/-- A turn is taken: what comes after it is allowed only by a value that makes the response one that
is accepted. -/
theorem Asks.playsAt_bind (t : Turn) (allows : α → Prop) (h : Asks answer shape request p)
    (hsends : ∀ q, request = some q → t.Sends q)
    (haccepts : ∀ response a, Response.Gives shape response a → allows a → t.Accepts response)
    (hrest : ∀ a, outcome answer p s = .ok a →
      PlaysAt answer (allows a) ts (f a) (after answer p s)) :
    PlaysAt answer True (t :: ts) (p >>= f) s := by
  cases hfirst : outcome answer p s with
  | error failure =>
    refine ⟨fun _ => trivial, ?_, ?_⟩
    · rw [h.exchanges_bind_of_error hfirst]
      cases hrequest : request with
      | none => exact .nil _
      | some q => exact .last (hsends q hrequest)
    · intro b hok
      obtain ⟨a, ha, -⟩ := (outcome_bind_eq_ok_iff (I := Inquiry.interface Client) answer).1 hok
      rw [hfirst] at ha
      cases ha
  | ok a =>
    obtain ⟨q, response, hrequest, hgives, hexchanges⟩ := h.exchanges_bind_of_ok (f := f) hfirst
    have hplays := hrest a hfirst
    have hpasses (hallowed : allows a) : t.Passes ⟨q, .ok response⟩ :=
      ⟨hsends q hrequest, response, rfl, haccepts response a hgives hallowed⟩
    refine ⟨fun _ => trivial, ?_, ?_⟩
    · rw [hexchanges]
      by_cases hnone : (f a).run.exchanges answer (after answer p s) = []
      · rw [hnone]
        exact .last (hsends q hrequest)
      · exact .cons (hpasses (hplays.allowed hnone)) hplays.begins
    · intro b hok
      obtain ⟨a', ha', hlast⟩ :=
        (outcome_bind_eq_ok_iff (I := Inquiry.interface Client) answer).1 hok
      obtain rfl := Except.ok.inj (hfirst.symm.trans ha')
      obtain ⟨hallowed, hcompletes⟩ := hplays.ends b hlast
      rw [hexchanges]
      exact ⟨trivial, .cons (hpasses hallowed) hcompletes⟩

/-- A turn is taken whose response tells something, on which the turns after it depend. -/
theorem Asks.exists_playsAt_bind {κ : Type} [Inhabited α] [Inhabited κ] (t : α → Turn)
    (rest : α → κ → List Turn) (h : Asks answer shape request p)
    (hsends : ∀ a q, request = some q → (t a).Sends q)
    (haccepts : ∀ response a, Response.Gives shape response a → (t a).Accepts response)
    (hrest : ∀ a s, ∃ k, PlaysAt answer True (rest a k) (f a) s) (s : σ) :
    ∃ a k, PlaysAt answer True (t a :: rest a k) (p >>= f) s := by
  have haccepts' (a : α) (response : Response) (a' : α) (hgives : Response.Gives shape response a')
      (hsame : a' = a) : (t a).Accepts response := by
    subst hsame
    exact haccepts response a' hgives
  cases hfirst : outcome answer p s with
  | error failure =>
    -- Nothing comes after this turn, so any value will do.
    refine ⟨default, default, h.playsAt_bind _ (· = default) (hsends _) (haccepts' _) ?_⟩
    intro a ha
    rw [hfirst] at ha
    cases ha
  | ok a =>
    obtain ⟨k, hplays⟩ := hrest a (after answer p s)
    refine ⟨a, k, h.playsAt_bind _ (· = a) (hsends _) (haccepts' _) ?_⟩
    intro a' ha'
    obtain rfl := Except.ok.inj (hfirst.symm.trans ha')
    exact hplays.imp fun _ => rfl

end

/-- A log record is no turn. -/
theorem PlaysAt.log {f : Unit → ExceptT Failure (Dialogue (Inquiry.interface Client)) β}
    (record : Log.Record)
    (h : PlaysAt answer condition ts (f ()) (answer (.log record) s).2) :
    PlaysAt answer condition ts (ExceptT.lift (Inquiry.ask (.log record)) >>= f) s :=
  ⟨h.allowed, h.begins, h.ends⟩

theorem playsAt_log (record : Log.Record) (s : σ) :
    PlaysAt answer True []
      (ExceptT.lift (Inquiry.ask (.log record)) :
        ExceptT Failure (Dialogue (Inquiry.interface Client)) Unit) s where
  allowed _ := trivial
  begins := .nil []
  ends _ _ := ⟨trivial, .nil⟩

/-- What comes after a comparison is allowed only by identifiers that are the same. -/
theorem playsAt_agree {f : Unit → ExceptT Failure (Dialogue (Inquiry.interface Client)) β}
    {record : RecordKind} {field claimed actual : String}
    (h : actual = claimed → PlaysAt answer condition ts (f ()) s) :
    PlaysAt answer (actual = claimed ∧ condition) ts
      (agree record field claimed actual >>= f) s := by
  unfold agree
  split
  · rename_i hsame
    obtain ⟨hallowed, hbegins, hends⟩ := h hsame
    exact ⟨fun hne => ⟨hsame, hallowed hne⟩, hbegins,
      fun b hok => ⟨⟨hsame, (hends b hok).1⟩, (hends b hok).2⟩⟩
  · exact playsAt_throw ts _ s

/-- The last comparison with a record. -/
theorem playsAt_agree_last {f : Unit → ExceptT Failure (Dialogue (Inquiry.interface Client)) β}
    {record : RecordKind} {field claimed actual : String}
    (h : actual = claimed → PlaysAt answer True ts (f ()) s) :
    PlaysAt answer (actual = claimed) ts (agree record field claimed actual >>= f) s :=
  (playsAt_agree h).imp And.left

/-! ## The checks -/

section

variable (words : Wording) (c : Connection) (i : Identity)

theorem asks_find (log : Log.Record → Dialogue (Inquiry.interface Client) Unit) (kind : RecordKind)
    (id : String) :
    Asks answer (recordShape kind) (recordRequest? c kind id)
      (find ⟨lookUp (Engine.cloudController words) c, log⟩ kind id) := by
  rw [find_eq_mapError]
  exact (asks_exchange words (recordShape kind) (recordRequest? c kind id)).mapError _

theorem sends_recordRequest? {kind : RecordKind} {id : String} {request : Request}
    (h : recordRequest? c kind id = some request) :
    (recordTurn c.base c.token i kind (collection kind) id).Sends request := by
  rw [recordRequest?_eq, Option.bind_eq_some_iff] at h
  obtain ⟨url, hurl, hmake⟩ := h
  exact Turn.sends_of_make? (t := recordTurn c.base c.token i kind (collection kind) id) hurl hmake

/-- A record is looked up, and what comes after it is allowed only if it agrees. -/
theorem playsAt_find {log : Log.Record → Dialogue (Inquiry.interface Client) Unit}
    {kind : RecordKind} {id : String}
    {f : kind.Record → ExceptT Failure (Dialogue (Inquiry.interface Client)) β}
    (hrest : ∀ record s, PlaysAt answer (i.Confirmed kind record) ts (f record) s) (s : σ) :
    PlaysAt answer True (recordTurn c.base c.token i kind (collection kind) id :: ts)
      (find ⟨lookUp (Engine.cloudController words) c, log⟩ kind id >>= f) s :=
  Asks.playsAt_bind (recordTurn c.base c.token i kind (collection kind) id) (i.Confirmed kind)
    (asks_find words c log kind id) (fun _ hrequest => sends_recordRequest? c i hrequest)
    (fun _ record hgives hconfirmed => ⟨record, hgives, hconfirmed⟩)
    fun record _ => hrest record _

theorem playsAt_reconcile (context : Log.Context) (s : σ) :
    PlaysAt answer True (recordTurns c.base c.token i)
      (reconcile ⟨lookUp (Engine.cloudController words) c, (Engine.cloudController words).log⟩
        context i) s := by
  refine playsAt_find words c i (fun inst s => ?_) s
  refine playsAt_agree fun _ => playsAt_agree_last fun _ => ?_
  refine playsAt_find words c i (fun app s => ?_) s
  refine playsAt_agree fun _ => playsAt_agree fun _ => ?_
  split
  · exact playsAt_throw _ _ s
  · rename_i hrunning
    refine PlaysAt.imp ?_ fun _ : True => hrunning
    refine playsAt_find words c i (fun org s => ?_) s
    refine playsAt_agree_last fun _ => ?_
    refine playsAt_find words c i (fun space s => ?_) s
    refine playsAt_agree fun _ => playsAt_agree_last fun _ => ?_
    exact playsAt_log _ s

end

theorem sends_infoRequest? {base endpoint : String} {request : Request}
    (h : infoRequest? base = some request) : (infoTurn base endpoint).Sends request := by
  obtain ⟨url, hurl, hmake⟩ := Option.bind_eq_some_iff.1 h
  exact Turn.sends_of_make? hurl hmake

theorem sends_tokenRequest? {settings : DirectorySettings} {endpoint token : String} {url : Url}
    {request : Request} (hurl : Url.parse? (tokenAddress endpoint) = some url)
    (h : tokenRequest? url settings = some request) :
    (tokenTurn settings endpoint token).Sends request :=
  Turn.sends_of_make? (t := tokenTurn settings endpoint token) hurl h

/-- A connection is made in two turns, and what comes after it uses the token. -/
theorem exists_playsAt_connect (words : Wording) (context : Log.Context)
    (settings : DirectorySettings)
    {f : Connection → ExceptT Failure (Dialogue (Inquiry.interface Client)) β}
    (rest : String → List Turn)
    (hrest : ∀ token s,
      PlaysAt answer True (rest token) (f ⟨trimSlashes settings.apiAddress, token⟩) s) (s : σ) :
    ∃ endpoint token, PlaysAt answer True
      (infoTurn (trimSlashes settings.apiAddress) endpoint :: tokenTurn settings endpoint token ::
        rest token)
      (connect (Engine.cloudController words) context settings >>= f) s := by
  unfold connect
  dsimp only
  split
  · rw [throw_bind, throw_bind]
    exact ⟨"", "", playsAt_throw _ _ s⟩
  · rw [bind_assoc]
    refine (asks_exchange words infoShape _).exists_playsAt_bind (infoTurn _)
      (fun endpoint token => tokenTurn settings endpoint token :: rest token)
      (fun endpoint q hq => sends_infoRequest? hq) (fun response endpoint hgives => hgives)
      (fun endpoint s => ?_) s
    split
    · rw [throw_bind]
      exact ⟨"", playsAt_throw _ _ s⟩
    · rename_i url hurl
      simp only [bind_assoc, pure_bind]
      obtain ⟨token, -, hplays⟩ := (asks_exchange words tokenShape
        (tokenRequest? url settings)).exists_playsAt_bind (tokenTurn settings endpoint)
        (fun token (_ : Unit) => rest token) (fun token q hq => sends_tokenRequest? hurl hq)
        (fun response token hgives => hgives) (fun token s => ⟨(), hrest token s⟩) _
      exact ⟨token, hplays.log _⟩

/-- The exchanges of the checks begin their turns. -/
theorem exists_playsAt_validate (words : Wording) (scheme : IdentityScheme) (context : Log.Context)
    (settings : DirectorySettings) (role : Role) (i : Identity) (remote : String) (s : σ) :
    ∃ endpoint token, PlaysAt answer True (turns settings i endpoint token)
      ((Engine.overHttp words scheme).validate context settings role i remote) s := by
  unfold Engine.validate
  split
  · exact ⟨"", "", playsAt_throw _ _ s⟩
  · rw [Engine.attempt_connect_overHttp, ← bind_pure_comp, bind_assoc]
    refine exists_playsAt_connect words context settings
      (fun token => recordTurns (trimSlashes settings.apiAddress) token i)
      (fun token s => ?_) s
    rw [pure_bind]
    exact playsAt_reconcile words ⟨trimSlashes settings.apiAddress, token⟩ i context s

/-! ## Where requests are sent -/

/-- A text is what is left of it, with slashes behind. -/
theorem trimSlashes_spec (text : String) :
    (trimSlashes text).toList.getLast? ≠ some '/' ∧
      ∃ n, text.toList = (trimSlashes text).toList ++ List.replicate n '/' := by
  have htrim : (trimSlashes text).toList = (text.toList.reverse.dropWhile (· == '/')).reverse := by
    simp [trimSlashes]
  have hslashes : ∀ c ∈ text.toList.reverse.takeWhile (· == '/'), c = '/' :=
    fun c hc => by simpa using List.mem_takeWhile_imp hc
  have hreplicate := List.eq_replicate_of_mem hslashes
  constructor
  · intro hlast
    have hhead := List.head?_dropWhile_not (· == '/') text.toList.reverse
    rw [htrim, List.getLast?_reverse] at hlast
    simp [hlast] at hhead
  · refine ⟨(text.toList.reverse.takeWhile (· == '/')).length, ?_⟩
    calc text.toList
        = (text.toList.reverse.takeWhile (· == '/') ++
            text.toList.reverse.dropWhile (· == '/')).reverse := by
          rw [List.takeWhile_append_dropWhile, List.reverse_reverse]
      _ = (trimSlashes text).toList ++ (text.toList.reverse.takeWhile (· == '/')).reverse := by
          rw [List.reverse_append, htrim]
      _ = (trimSlashes text).toList ++
            List.replicate (text.toList.reverse.takeWhile (· == '/')).length '/' := by
          rw [hreplicate, List.reverse_replicate, List.length_replicate]

theorem exists_address_of_mem_turns {settings : DirectorySettings} {i : Identity}
    {endpoint token : String} {t : Turn} (h : t ∈ turns settings i endpoint token)
    (hget : t.method = .get) :
    ∃ path, t.address = trimSlashes settings.apiAddress ++ "/v2/" ++ path := by
  simp only [turns, recordTurns, List.mem_cons, List.not_mem_nil, or_false] at h
  rcases h with rfl | rfl | rfl | rfl | rfl | rfl
  · exact ⟨"info", by rw [String.append_assoc]; rfl⟩
  · cases hget
  all_goals exact ⟨_, rfl⟩

/-- What is not posted goes to one server, whatever the identifiers are. -/
theorem sameOrigin_of_get {settings : DirectorySettings} {i : Identity} {endpoint token : String}
    {xs : List Exchange} (h : Begins (turns settings i endpoint token) xs)
    {x y : Exchange} (hx : x ∈ xs) (hy : y ∈ xs) (hxget : x.request.method = .get)
    (hyget : y.request.method = .get) : Url.SameOrigin x.request.url y.request.url := by
  obtain ⟨t, ht, url, hurl, hscheme, hrequest⟩ := h.exists_turn hx
  obtain ⟨t', ht', url', hurl', -, hrequest'⟩ := h.exists_turn hy
  rw [hrequest] at hxget ⊢
  rw [hrequest'] at hyget ⊢
  obtain ⟨path, hpath⟩ := exists_address_of_mem_turns ht hxget
  obtain ⟨path', hpath'⟩ := exists_address_of_mem_turns ht' hyget
  rw [hpath] at hurl
  rw [hpath'] at hurl'
  have hsame := Url.sameOrigin_below hurl hurl' hscheme
  exact ⟨hsame.scheme_eq, rfl, rfl, hsame.host_eq, hsame.port_eq⟩

/-- Where no reply leads elsewhere, nothing is sent but the first requests of courses. -/
theorem requests_eq_of_unled {courses : List Course} (hconfined : ∀ c ∈ courses, c.Confined)
    (hunled : ∀ c ∈ courses, ∀ hop ∈ c.hops, ∀ next, ¬Leads hop next) :
    (courses.flatMap Course.hops).map Hop.request = courses.map fun c => c.first.request := by
  induction courses with
  | nil => rfl
  | cons c courses ih =>
    obtain ⟨hfirst, hothers⟩ := List.forall_mem_cons.1 hunled
    obtain ⟨hc, hrest⟩ := List.forall_mem_cons.1 hconfined
    obtain ⟨reply, hhops⟩ := hc.walk.eq_singleton hfirst
    rw [List.flatMap_cons, List.map_append, ih hrest hothers, hhops]
    rfl

/-- **Runs of the checks.** What is sent falls into courses, and goes on within a course only where
replies lead. The first requests of the courses are the first of the turns, and all of them if the
checks succeed; a turn is taken only if the responses that end all courses before it were accepted.
Without a reply that leads elsewhere nothing else is sent. Within a course the credentials of its
first request stay with one server, and nothing but the body of this request is posted. What is not
posted goes first to the server of the base, which is the address of the settings without the
slashes at its end; the posted form tells the user and the password. Two runs with users of their
own, in which the replies are the same, end in the same way and send the same but for what is
posted; if the users have one name and only the passwords differ, they write the same log
records. -/
theorem runs_in_turns (words : Wording) (scheme : IdentityScheme) (context : Log.Context)
    (settings : DirectorySettings) (role : Role) (i : Identity) (remote : String) (wire : Wire σ)
    (answer : (q : Inquiry Client) → σ → q.Answer × σ) (s : σ) :
    let checks := (Engine.overHttp words scheme).validate context settings role i remote
    let served := Inquiry.overWire wire answer
    let courses := checks.run.courses wire answer s
    (∃ endpoint token, Begins (turns settings i endpoint token) (courses.map wire.exchange) ∧
      (outcome served checks s = .ok () →
        Completes (turns settings i endpoint token) (courses.map wire.exchange))) ∧
    (∀ c ∈ courses, c.Confined) ∧
    ((∀ c ∈ courses, ∀ hop ∈ c.hops, ∀ next, ¬Leads hop next) →
      (courses.flatMap Course.hops).map Hop.request = courses.map fun c => c.first.request) ∧
    (∀ c ∈ courses, ∀ d ∈ courses, c.first.request.method = .get → d.first.request.method = .get →
      Url.SameOrigin c.first.request.url d.first.request.url) ∧
    (∀ text : String, (trimSlashes text).toList.getLast? ≠ some '/' ∧
      ∃ n, text.toList = (trimSlashes text).toList ++ List.replicate n '/') ∧
    (∀ endpoint token, Form.decode? (tokenTurn settings endpoint token).body =
      some [("grant_type", "password"), ("username", settings.username),
        ("password", settings.password)]) ∧
    ∀ {τ : Type} (reply' : Request → τ → Except Failure Reply × τ)
      (answer' : (q : Inquiry Client) → τ → q.Answer × τ) (t : τ) (username password : String),
      let checks' := (Engine.overHttp words scheme).validate context
        { settings with username := username, password := password } role i remote
      let wire' : Wire τ := ⟨reply', wire.astray⟩
      let courses' := checks'.run.courses wire' answer' t
      SameReplies (courses.flatMap Course.hops) (courses'.flatMap Course.hops) →
        outcome served checks s = outcome (Inquiry.overWire wire' answer') checks' t ∧
          List.Forall₂ Course.Alike courses courses' ∧
          (settings.username = username →
            checks.run.logged served s =
              checks'.run.logged (Inquiry.overWire wire' answer') t) := by
  intro checks served courses
  obtain ⟨endpoint, token, hplays⟩ :
      ∃ endpoint token, PlaysAt served True (turns settings i endpoint token) checks s :=
    exists_playsAt_validate words scheme context settings role i remote s
  have hexchanges : checks.run.exchanges served s = courses.map wire.exchange :=
    exchanges_overWire wire answer checks.run s
  have hbegins := hplays.begins
  rw [hexchanges] at hbegins
  have hconfined : ∀ c ∈ courses, c.Confined := fun c hc => confined_of_mem_courses hc
  refine ⟨⟨endpoint, token, hbegins, fun hok => ?_⟩, hconfined, requests_eq_of_unled hconfined, ?_,
    trimSlashes_spec, fun _ _ => Form.decode?_encode (List.cons_ne_nil _ _), ?_⟩
  · rw [← hexchanges]
    exact (hplays.ends () hok).2
  · intro c hc d hd
    exact sameOrigin_of_get hbegins (List.mem_map_of_mem hc) (List.mem_map_of_mem hd)
  · intro τ reply' answer' t username password checks' wire' courses' hsame
    obtain ⟨hresult, hcourses, hlogged⟩ := (twin_validate words context settings username password
      scheme role i remote).same_run wire reply' answer answer' s t hsame
    refine ⟨hresult, hcourses, fun huser => ?_⟩
    rw [← List.forall₂_eq_eq_eq]
    exact hlogged.imp fun _ _ hrelated => hrelated huser

end

namespace Sample

/-- A wire to the server of the samples. It has moved the place of tokens, and says so in its second
reply. The state is the number of replies. -/
def wire : Wire Nat where
  reply request n :=
    if n = 1 then (.ok ⟨⟨307, []⟩, Url.parse? "http://[::2]/token"⟩, 2)
    else ((reply 200 (.send request) (n - 1)).1.map fun response => ⟨response, none⟩, n + 1)
  astray _ _ := silence

/-- The settings of a user with a password. -/
def settings (password : String) : DirectorySettings where
  apiAddress := "http://[::1]"
  password := password
  username := "u"

def identity : Identity := ⟨"i", "o", "s", "a", .v4 0x0a000001⟩

/-- The checks of an identity by this user. -/
def checksBy (password : String) : ExceptT Failure (Dialogue (Inquiry.interface Empty)) Unit :=
  (Engine.overHttp wording (.x509 [] fun _ => "")).validate .root (settings password)
    { name := "r" } identity "10.0.0.1"

/-- What is sent in a run of these checks, with the replies. -/
def sent (password : String) : List Hop :=
  ((checksBy password).run.courses wire (reply 200) 0).flatMap Course.hops

/-- A request with its reply, as an exchange of its own. -/
def single (hop : Hop) : Exchange := ⟨hop.request, hop.reply.map Reply.response⟩

theorem turn_of_begins {ts : List Turn} {xs : List Exchange} (h : Begins ts xs) {n : Nat}
    {x : Exchange} (hx : xs[n]? = some x) : ∃ t, ts[n]? = some t ∧ t.Sends x.request := by
  induction h generalizing n with
  | nil => cases hx
  | last h =>
    cases n with
    | zero => exact ⟨_, rfl, Option.some.inj hx ▸ h⟩
    | succ n => cases hx
  | cons h _ ih =>
    cases n with
    | zero => exact ⟨_, rfl, Option.some.inj hx ▸ h.1⟩
    | succ n => exact ih hx

/-- The requests that are sent need not be the first of the turns: where a reply says that what is
posted belongs elsewhere, another server is sent the user and the password too. -/
theorem password_posted_elsewhere :
    (∃ hop ∈ sent "p", String.ofList hop.request.url.render = "http://[::2]/token" ∧
      Form.decode? hop.request.body =
        some [("grant_type", "password"), ("username", "u"), ("password", "p")]) ∧
      ¬∃ endpoint token, Begins (turns (settings "p") identity endpoint token)
        ((sent "p").map single) := by
  have hthird : (sent "p")[2]?.map (fun hop => (hop.request.method,
      String.ofList hop.request.url.render, Form.decode? hop.request.body)) =
      some (.post, "http://[::2]/token",
        some [("grant_type", "password"), ("username", "u"), ("password", "p")]) := by
    decide +kernel
  obtain ⟨hop, hhop, htold⟩ := Option.map_eq_some_iff.1 hthird
  obtain ⟨hpost, hurl, hform⟩ := And.imp_right Prod.mk.inj (Prod.mk.inj htold)
  refine ⟨⟨hop, List.mem_of_getElem? hhop, hurl, hform⟩, ?_⟩
  rintro ⟨endpoint, token, hbegins⟩
  have hsingle : ((sent "p").map single)[2]? = some (single hop) := by
    rw [List.getElem?_map, hhop]
    rfl
  obtain ⟨t, ht, url, -, -, hrequest⟩ := turn_of_begins hbegins hsingle
  obtain rfl := Option.some.inj ht
  have hget : hop.request.method = .get := congrArg Request.method hrequest
  cases hget.symm.trans hpost

/-- The checks succeed all the same, for two users whose passwords show in nothing but what they
post. -/
theorem passwords_unseen :
    let served := Inquiry.overWire wire (reply 200)
    (outcome served (checksBy "p") 0).toOption = some () ∧
      SameReplies (sent "p") (sent "q") ∧
      outcome served (checksBy "p") 0 = outcome served (checksBy "q") 0 ∧
      List.Forall₂ Course.Alike ((checksBy "p").run.courses wire (reply 200) 0)
        ((checksBy "q").run.courses wire (reply 200) 0) ∧
      (checksBy "p").run.logged served 0 = (checksBy "q").run.logged served 0 := by
  intro served
  have hsame : SameReplies (sent "p") (sent "q") := by
    unfold SameReplies
    decide +kernel
  obtain ⟨-, -, -, -, -, -, htwo⟩ := runs_in_turns wording (.x509 [] fun _ => "") .root
    (settings "p") { name := "r" } identity "10.0.0.1" wire (reply 200) 0
  obtain ⟨houtcome, halike, hlogged⟩ := htwo wire.reply (reply 200) 0 "u" "q" hsame
  exact ⟨by decide +kernel, hsame, houtcome, halike, hlogged rfl⟩

end Sample

end CloudController

end WorkloadAuth
