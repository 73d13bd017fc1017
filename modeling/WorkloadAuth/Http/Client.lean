import WorkloadAuth.Failure
import WorkloadAuth.Http.Message

/-!
# HTTP clients

A client sends a request to a server. A reply may lead elsewhere; then the client asks there in
place of what it was asked for, a limited number of times. It passes its credentials on to the same
server only, and what it posts to wherever the reply says that it should be posted.

* `Reply`: what comes back for a single request; `Reply.redirection?`: the request that it leads to.
* `Hop`, `Course`: the requests that are sent for one, with the replies to them.
* `Wire`, `Wire.follow`, `Wire.deliver`: the course of a request, and the response in the end.
-/

namespace WorkloadAuth.Http

/-! ## Servers -/

/-- The port of the server of a URL. -/
def Url.serverPort (u : Url) : Option Nat := u.port.or (usualPort u.scheme)

/-- Two URLs name the same server. -/
def Url.SameServer (u v : Url) : Prop := u.host = v.host ∧ u.serverPort = v.serverPort

instance (u v : Url) : Decidable (u.SameServer v) := inferInstanceAs (Decidable (_ ∧ _))

/-! ## Replies -/

/-- What comes back for a single request. -/
structure Reply where
  response : Response
  /-- Where the reply leads, seen from the URL of the request, if it names a place. -/
  location : Option Url := none
  deriving DecidableEq, Repr

/-- The headers that only the server of a request may see. -/
def Header.confidential : List String :=
  ["authorization", "cookie", "cookie2", "proxy-authorization", "www-authenticate"]

/-- The headers that tell of a body. -/
def Header.ofBody : List String :=
  ["content-type", "content-length", "content-encoding", "transfer-encoding"]

/-- Where a client comes from that is led elsewhere. -/
def Header.referer (u : Url) : Header where
  name := "referer"
  value := String.ofList { u with username := [], password := [], fragment := none }.render

/-- Headers without those of some names. -/
def Header.without (names : List String) (headers : List Header) : List Header :=
  headers.filter fun h => h.name ∉ names

/-- The headers that a request keeps at a place that it is led to. Credentials stay with their
server. -/
def Request.headersKept (request : Request) (url : Url) : List Header :=
  if url.SameServer request.url then request.headers
  else Header.without Header.confidential request.headers

/-- The headers for a place that a request is led to. Who is left for a server without encryption is
not told. -/
def Request.headersAt (request : Request) (url : Url) : List Header :=
  if url.scheme = "http".toList ∧ request.url.scheme = "https".toList then request.headersKept url
  else Header.without ["referer"] (request.headersKept url) ++ [.referer request.url]

/-- A request as it is sent to a place that it is led to. -/
def Request.at (request : Request) (url : Url) : Request :=
  { request with url := { url with username := [], password := [] }
                 headers := request.headersAt url }

/-- A request that only asks. -/
def Request.asking (request : Request) : Request :=
  { request with method := .get
                 headers := Header.without Header.ofBody request.headers
                 body := "" }

/-- The request that a reply leads to. By most statuses nothing is posted again. -/
def Reply.redirection? (reply : Reply) (request : Request) : Option Request :=
  reply.location.bind fun url =>
    if reply.response.status ∈ [301, 302, 303] then some (request.asking.at url)
    else if reply.response.status ∈ [307, 308] then some (request.at url)
    else none

/-! ## Requests and the replies to them -/

/-- A request that is sent, and the reply if one comes. -/
structure Hop where
  request : Request
  reply : Except Failure Reply

/-- The request that is sent next. None is sent by another scheme. -/
def Hop.next? (hop : Hop) : Option Request :=
  match hop.reply with
  | .error _ => none
  | .ok reply =>
    (reply.redirection? hop.request).filter fun next => Request.schemes.contains next.url.scheme

/-- The requests that are sent for one: those whose replies lead on, and the last one. -/
structure Course where
  before : List Hop := []
  last : Hop

/-- All requests that are sent for one, in order. -/
def Course.hops (c : Course) : List Hop := c.before ++ [c.last]

/-- The request that was to be sent, with its reply. -/
def Course.first (c : Course) : Hop := c.before.headD c.last

/-- The way to servers, against a state that changes with each request. -/
structure Wire (σ : Type) where
  reply : Request → σ → Except Failure Reply × σ
  /-- Why a client that has asked at some places does not ask at the next one that it is led to. -/
  astray : List Url → Url → Failure

/-- The most redirections that a client follows for one request. -/
def Wire.limit : Nat := 10

namespace Wire

variable {σ : Type} (wire : Wire σ)

/-- The course of a request by which some redirections may still be followed, and the state after
it. -/
def follow : Nat → Request → σ → Course × σ
  | 0, request, s =>
    let (reply, s) := wire.reply request s
    ({ last := ⟨request, reply⟩ }, s)
  | limit + 1, request, s =>
    let (reply, s) := wire.reply request s
    match (⟨request, reply⟩ : Hop).next? with
    | none => ({ last := ⟨request, reply⟩ }, s)
    | some next =>
      let (rest, s) := follow limit next s
      ({ before := ⟨request, reply⟩ :: rest.before, last := rest.last }, s)

/-- The response that the last request of a course brings. -/
def conclude (c : Course) : Except Failure Response := do
  let reply ← c.last.reply
  match reply.redirection? c.last.request with
  | none => .ok reply.response
  | some next => .error (wire.astray (c.hops.map fun hop => hop.request.url) next.url)

/-- Sends a request, and follows where it is led. -/
def deliver (request : Request) (s : σ) : Except Failure Response × σ :=
  let (course, s) := wire.follow limit request s
  (wire.conclude course, s)

end Wire

end WorkloadAuth.Http
