import WorkloadAuth.Http.Client

/-!
# Courses of requests

For one request a client may send several: a reply that leads elsewhere makes it ask there. What is
sent then is determined by the request and the replies.

* `Http.Leads`: a reply leads to a request; `Http.leads_of_next?`: what a client sends next.
* `Http.Walk`: requests of which each but the first is the one that the reply before it leads to.
* `Http.Wire.walk_follow`: a client sends such requests, a limited number of them.
* `Http.Walk.confidential`: the credentials of a request stay with its server.
* `Http.Walk.posted`: what is posted again is what was posted.
* `Http.Walk.eq_singleton`: where no reply leads elsewhere there is one request.
* `Http.Course.Confined`: all of this for a course; `Http.Wire.confined_follow`: courses have it.
-/

namespace WorkloadAuth.Http

/-! ## Replies that lead elsewhere -/

/-- The statuses of replies by which a client asks elsewhere, and posts nothing again. -/
def asksAnew : List Nat := [301, 302, 303]

/-- The statuses of replies by which a client sends the same elsewhere. -/
def sendsAgain : List Nat := [307, 308]

/-- The reply to a request leads to another request. -/
structure Leads (hop : Hop) (next : Request) : Prop where
  /-- By its status, and to the place that it names. -/
  led : ∃ reply url, hop.reply = .ok reply ∧ reply.location = some url ∧
    next.url = { url with username := [], password := [] } ∧ url.scheme ∈ Request.schemes ∧
    (reply.response.status ∈ asksAnew ∧ next.method = .get ∧ next.body = "" ∨
      reply.response.status ∈ sendsAgain ∧ next.method = hop.request.method ∧
        next.body = hop.request.body)
  /-- No header is new but the one that tells where the request comes from. -/
  headers : ∀ h ∈ next.headers, h ∈ hop.request.headers ∨ h = .referer hop.request.url
  /-- Credentials go to the same server only. -/
  confidential : ∀ h ∈ next.headers, h.name ∈ Header.confidential →
    next.url.SameServer hop.request.url

theorem Url.SameServer.trans {u v w : Url} (h : u.SameServer v) (h' : v.SameServer w) :
    u.SameServer w := ⟨h.1.trans h'.1, h.2.trans h'.2⟩

theorem Header.of_mem_without {names : List String} {headers : List Header} {h : Header}
    (hmem : h ∈ without names headers) : h ∈ headers ∧ h.name ∉ names := by
  simpa [without] using hmem

theorem Request.of_mem_headersKept {request : Request} {url : Url} {h : Header}
    (hmem : h ∈ request.headersKept url) :
    h ∈ request.headers ∧ (h.name ∈ Header.confidential → url.SameServer request.url) := by
  unfold headersKept at hmem
  split at hmem
  · rename_i hserver
    exact ⟨hmem, fun _ => hserver⟩
  · obtain ⟨hrequest, hname⟩ := Header.of_mem_without hmem
    exact ⟨hrequest, fun hconfidential => absurd hconfidential hname⟩

/-- A header of a request that is led elsewhere was there before, or tells where it comes from. -/
theorem Request.of_mem_headersAt {request : Request} {url : Url} {h : Header}
    (hmem : h ∈ request.headersAt url) :
    (h ∈ request.headers ∨ h = .referer request.url) ∧
      (h.name ∈ Header.confidential → url.SameServer request.url) := by
  unfold headersAt at hmem
  split at hmem
  · exact (of_mem_headersKept hmem).imp_left .inl
  · rcases List.mem_append.1 hmem with hmem | hmem
    · exact (of_mem_headersKept (Header.of_mem_without hmem).1).imp_left .inl
    · obtain rfl := List.mem_singleton.1 hmem
      have hname : "referer" ∉ Header.confidential := by decide
      exact ⟨.inr rfl, fun hconfidential => absurd hconfidential hname⟩

/-- What a client sends next is what the reply leads to. -/
theorem leads_of_next? {hop : Hop} {next : Request} (h : hop.next? = some next) :
    Leads hop next := by
  obtain ⟨request, reply⟩ := hop
  cases reply with
  | error failure => cases h
  | ok reply =>
    obtain ⟨hredirection, hscheme⟩ := Option.filter_eq_some_iff.1 h
    obtain ⟨url, hlocation, hnext⟩ := Option.bind_eq_some_iff.1 hredirection
    have hscheme : next.url.scheme ∈ Request.schemes := by simpa using hscheme
    split at hnext
    · rename_i hstatus
      obtain rfl := Option.some.inj hnext
      refine ⟨⟨reply, url, rfl, hlocation, rfl, hscheme, .inl ⟨hstatus, rfl, rfl⟩⟩, ?_,
        fun h hh => (Request.of_mem_headersAt hh).2⟩
      intro h hh
      exact (Request.of_mem_headersAt hh).1.imp_left fun hkept => (Header.of_mem_without hkept).1
    · split at hnext
      · rename_i hstatus
        obtain rfl := Option.some.inj hnext
        exact ⟨⟨reply, url, rfl, hlocation, rfl, hscheme, .inr ⟨hstatus, rfl, rfl⟩⟩,
          fun h hh => (Request.of_mem_headersAt hh).1, fun h hh => (Request.of_mem_headersAt hh).2⟩
      · cases hnext

/-! ## Walks -/

/-- Some requests with their replies. The first is a given one, and each of the others is one that
the reply before it leads to. -/
inductive Walk : Request → List Hop → Prop where
  | last (hop : Hop) : Walk hop.request [hop]
  | cons {hop : Hop} {next : Request} {hops : List Hop} (led : Leads hop next)
      (rest : Walk next hops) : Walk hop.request (hop :: hops)

namespace Wire

variable {σ : Type} (wire : Wire σ) (limit : Nat) {request next : Request} {s : σ}

/-- A request whose reply does not lead elsewhere is the only one. -/
theorem follow_of_none (h : (⟨request, (wire.reply request s).1⟩ : Hop).next? = none) :
    wire.follow limit request s =
      ({ last := ⟨request, (wire.reply request s).1⟩ }, (wire.reply request s).2) := by
  cases limit with
  | zero => rfl
  | succ limit => simp only [follow, h]

/-- A request whose reply leads elsewhere is followed by those that are sent from there. -/
theorem follow_of_some (h : (⟨request, (wire.reply request s).1⟩ : Hop).next? = some next) :
    wire.follow (limit + 1) request s =
      let rest := wire.follow limit next (wire.reply request s).2
      ({ before := ⟨request, (wire.reply request s).1⟩ :: rest.1.before, last := rest.1.last },
        rest.2) := by
  simp only [follow, h]

/-- The request itself is sent first. -/
theorem hops_follow (request : Request) (s : σ) :
    ∃ hops, (wire.follow limit request s).1.hops = ⟨request, (wire.reply request s).1⟩ :: hops := by
  cases limit with
  | zero => exact ⟨[], rfl⟩
  | succ limit =>
    cases hnext : (⟨request, (wire.reply request s).1⟩ : Hop).next? with
    | none =>
      rw [wire.follow_of_none _ hnext]
      exact ⟨[], rfl⟩
    | some next =>
      rw [wire.follow_of_some limit hnext]
      exact ⟨_, rfl⟩

/-- What a client sends for a request is a walk from there, with a limited number of steps. -/
theorem walk_follow (request : Request) (s : σ) :
    Walk request (wire.follow limit request s).1.hops ∧
      (wire.follow limit request s).1.before.length ≤ limit := by
  induction limit generalizing request s with
  | zero => exact ⟨.last ⟨request, _⟩, Nat.le_refl 0⟩
  | succ limit ih =>
    cases hnext : (⟨request, (wire.reply request s).1⟩ : Hop).next? with
    | none =>
      rw [wire.follow_of_none _ hnext]
      exact ⟨.last ⟨request, _⟩, Nat.zero_le _⟩
    | some next =>
      rw [wire.follow_of_some limit hnext]
      obtain ⟨hwalk, hlength⟩ := ih next (wire.reply request s).2
      exact ⟨.cons (leads_of_next? hnext) hwalk, Nat.succ_le_succ hlength⟩

end Wire

namespace Walk

variable {request : Request} {hops : List Hop}

theorem request_eq {hop : Hop} (h : Walk request (hop :: hops)) : hop.request = request := by
  cases h <;> rfl

/-- The first of them is the request itself. -/
theorem first_eq {c : Course} (h : Walk request c.hops) : c.first.request = request := by
  obtain ⟨before, last⟩ := c
  cases before with
  | nil => exact request_eq (show Walk request [last] from h)
  | cons hop before => exact request_eq (show Walk request (hop :: (before ++ [last])) from h)

/-- A credential that is sent is one of the first request, and it goes to the server of this
request. -/
theorem confidential (h : Walk request hops) {hop : Hop} (hhop : hop ∈ hops) {header : Header}
    (hheader : header ∈ hop.request.headers) (hname : header.name ∈ Header.confidential) :
    header ∈ request.headers ∧ hop.request.url.SameServer request.url := by
  induction h with
  | last first =>
    obtain rfl := List.mem_singleton.1 hhop
    exact ⟨hheader, rfl, rfl⟩
  | @cons first next hops led rest ih =>
    rcases List.mem_cons.1 hhop with rfl | hhop
    · exact ⟨hheader, rfl, rfl⟩
    · obtain ⟨hnext, hserver⟩ := ih hhop
      refine ⟨(led.headers header hnext).resolve_right ?_,
        hserver.trans (led.confidential header hnext hname)⟩
      rintro rfl
      have hreferer : "referer" ∉ Header.confidential := by decide
      exact hreferer hname

/-- What is sent later is sent as the first request is, with the same body, or only asks. -/
theorem posted (h : Walk request hops) {hop : Hop} (hhop : hop ∈ hops) :
    hop.request.method = request.method ∧ hop.request.body = request.body ∨
      hop.request.method = .get ∧ hop.request.body = "" := by
  induction h with
  | last first =>
    obtain rfl := List.mem_singleton.1 hhop
    exact .inl ⟨rfl, rfl⟩
  | @cons first next hops led rest ih =>
    rcases List.mem_cons.1 hhop with rfl | hhop
    · exact .inl ⟨rfl, rfl⟩
    · rcases ih hhop with ⟨hmethod, hbody⟩ | hasks
      · obtain ⟨reply, url, -, -, -, -, ⟨-, hget, hempty⟩ | ⟨-, hsame, hsent⟩⟩ := led.led
        · exact .inr ⟨hmethod.trans hget, hbody.trans hempty⟩
        · exact .inl ⟨hmethod.trans hsame, hbody.trans hsent⟩
      · exact .inr hasks

/-- Where no reply leads elsewhere there is one request. -/
theorem eq_singleton (h : Walk request hops) (hunled : ∀ hop ∈ hops, ∀ next, ¬Leads hop next) :
    ∃ reply, hops = [⟨request, reply⟩] := by
  cases h with
  | last hop => exact ⟨hop.reply, rfl⟩
  | cons led rest => exact absurd led (hunled _ List.mem_cons_self _)

end Walk

/-! ## Courses -/

/-- What may be sent for the first request of a course. -/
structure Course.Confined (c : Course) : Prop where
  /-- Only requests that replies lead to. -/
  walk : Walk c.first.request c.hops
  limited : c.before.length ≤ 10
  /-- Its credentials, and only to its server. -/
  confidential : ∀ hop ∈ c.hops, ∀ header ∈ hop.request.headers, header.name = "authorization" →
    header ∈ c.first.request.headers ∧ hop.request.url.host = c.first.request.url.host ∧
      hop.request.url.serverPort = c.first.request.url.serverPort
  /-- What it posts, or nothing. -/
  posted : ∀ hop ∈ c.hops,
    hop.request.method = c.first.request.method ∧ hop.request.body = c.first.request.body ∨
      hop.request.method = .get ∧ hop.request.body = ""

theorem Wire.confined_follow {σ : Type} (wire : Wire σ) (request : Request) (s : σ) :
    (wire.follow limit request s).1.Confined := by
  have hauthorization : "authorization" ∈ Header.confidential := by decide
  obtain ⟨hwalk, hlimited⟩ := wire.walk_follow limit request s
  generalize (wire.follow limit request s).1 = c at hwalk hlimited ⊢
  obtain rfl := hwalk.first_eq
  exact ⟨hwalk, hlimited, fun _ hhop _ hheader hname =>
      hwalk.confidential hhop hheader (hname ▸ hauthorization),
    fun _ hhop => hwalk.posted hhop⟩

end WorkloadAuth.Http
