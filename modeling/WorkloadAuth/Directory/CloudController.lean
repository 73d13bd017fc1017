import WorkloadAuth.Directory.Reconcile
import WorkloadAuth.Directory.Response
import WorkloadAuth.Http.Form
import WorkloadAuth.Http.TrustStore

/-!
# The Cloud Controller

The directory, reached over HTTP. The server tells where to log in; a login with the configured user
gives the token that is shown at every look-up.

* `CloudController.Wording`: what libraries say of what they cannot do.
* `CloudController.Access`: how a dialogue sends requests and writes log records.
* `Connection`: where records are looked up, and the token.
* `CloudController.connect`: makes a connection.
* `CloudController.lookUp`: looks up a record.
-/

namespace WorkloadAuth.CloudController

open Http Directory

/-- What libraries say of what they cannot do. -/
structure Wording where
  /-- No server can be trusted by some certificates. -/
  trustStore : List String → Failure
  /-- A request cannot be sent. -/
  request : Failure
  /-- A text is not the JSON that is asked for. -/
  json : String → String
  /-- A text is no URL. -/
  url : String → String

/-- What a dialogue over an interface asks for when it sends a request, whose response may fail to
come, and when it writes a log record. -/
structure Access (I : Interface) where
  send : Request → Dialogue I (Except Failure Response)
  log : Log.Record → Dialogue I Unit
  words : Wording

variable {I : Interface}

/-- The name under which requests are sent. -/
def agent : Header := .userAgent "cf-instance-auth/0.1.0"

/-- The name by which tokens are asked for; its password is empty. -/
def tokenClient : Header := .basic (Text.Utf8.encode "cf".toList) []

/-- A text without slashes at its end. -/
def trimSlashes (s : String) : String :=
  String.ofList (s.toList.reverse.dropWhile (· == '/')).reverse

/-! ## Records -/

/-- The schema of where tokens are found: the address in the server's information. -/
def infoShape : Shape String :=
  .record (.required "token_endpoint" .text .nil) (fun (s, ()) => s) (fun s => (s, ()))

/-- The schema of a token. -/
def tokenShape : Shape String :=
  .record (.required "access_token" .text .nil) (fun (s, ()) => s) (fun s => (s, ()))

/-- The schema of what records tell about themselves. -/
def metadataShape : Shape String :=
  .record (.required "guid" .text .nil) (fun (s, ()) => s) (fun s => (s, ()))

/-- The schema of a record: what it says, and its identifier. -/
def resourceShape {ε α : Type} (entity : Shape ε) (build : ε → String → α)
    (parts : α → ε × String) : Shape α :=
  .record (.required "entity" entity <| .required "metadata" metadataShape .nil)
    (fun (e, guid, ()) => build e guid)
    (fun a => ((parts a).1, (parts a).2, ()))

/-- The schema of the contents of an app. -/
def appEntityShape : Shape (UInt64 × String) :=
  .record (.optional "instances" 0 .natural <| .required "space_guid" .text .nil)
    (fun (instances, space, ()) => (instances, space))
    (fun (instances, space) => (instances, space, ()))

/-- The schema of the contents of a service instance. -/
def serviceInstanceEntityShape : Shape String :=
  .record (.required "space_guid" .text .nil) (fun (s, ()) => s) (fun s => (s, ()))

/-- The schema of the contents of a space. -/
def spaceEntityShape : Shape String :=
  .record (.required "organization_guid" .text .nil) (fun (s, ()) => s) (fun s => (s, ()))

/-- The schema of the records of a kind. An organization may have any contents. -/
def recordShape : (kind : RecordKind) → Shape kind.Record
  | .app =>
    resourceShape appEntityShape (fun e guid => (⟨guid, e.1, e.2⟩ : App))
      fun a => ((a.instances, a.spaceGuid), a.guid)
  | .org => resourceShape .any (fun _ guid => (⟨guid⟩ : Org)) fun o => (.null, o.guid)
  | .serviceInstance =>
    resourceShape serviceInstanceEntityShape (fun e guid => (⟨guid, e⟩ : ServiceInstance))
      fun i => (i.spaceGuid, i.guid)
  | .space =>
    resourceShape spaceEntityShape (fun e guid => (⟨guid, e⟩ : Space)) fun s => (s.orgGuid, s.guid)

/-- Where the records of a kind are found. -/
def collection : RecordKind → String
  | .app => "apps"
  | .org => "organizations"
  | .serviceInstance => "service_instances"
  | .space => "spaces"

/-! ## Exchanges -/

/-- Sends a request, if there is one, and decodes the response. -/
def exchange {α : Type} (access : Access I) (shape : Shape α) (request : Option Request) :
    ExceptT Failure (Dialogue I) α := do
  match request with
  | none => throw access.words.request
  | some request =>
    match ← ExceptT.lift (access.send request) with
    | .error failure => throw failure
    | .ok response => ExceptT.mk (pure (Response.expect access.words.json shape response))

/-- The request for what is found at an address. -/
def getRequest? (address : String) (headers : List Header) : Option Request := do
  let url ← Url.parse? address
  Request.make? .get url (headers ++ [agent]) ""

/-! ## Connections -/

/-- An authenticated user at a server. -/
structure Connection where
  /-- The address of the server, without slashes at its end. -/
  base : String
  token : String
  deriving DecidableEq, Repr

/-- The request that asks a server about itself. -/
def infoRequest? (base : String) : Option Request := getRequest? (base ++ "/v2/info") []

/-- The address of tokens at the endpoint that a server names. -/
def tokenAddress (endpoint : String) : String := trimSlashes endpoint ++ "/oauth/token"

/-- The request for a token. -/
def tokenRequest? (url : Url) (settings : DirectorySettings) : Option Request :=
  Request.make? .post url
    [tokenClient, .contentType "application/x-www-form-urlencoded", agent]
    (Form.encode [("grant_type", "password"), ("username", settings.username),
      ("password", settings.password)])

/-- The request for a record. -/
def recordRequest? (c : Connection) (kind : RecordKind) (id : String) : Option Request :=
  getRequest? (c.base ++ "/v2/" ++ collection kind ++ "/" ++ id) [.bearer c.token]

/-- Logs into the server of some settings (`CloudControllerClient::connect`). -/
def connect (access : Access I) (context : Log.Context) (settings : DirectorySettings) :
    ExceptT Failure (Dialogue I) Connection := do
  let base := trimSlashes settings.apiAddress
  if !TrustStore.isUsable settings.trustedCertificates then
    throw (access.words.trustStore settings.trustedCertificates)
  let endpoint ← exchange access infoShape (infoRequest? base)
  match Url.parse? (tokenAddress endpoint) with
  | none =>
    throw ((Failure.of (.foreign .urls (access.words.url (tokenAddress endpoint)))).within
      (.invalidTokenEndpoint endpoint))
  | some url =>
    ExceptT.lift (access.log (context.record .debug "Logging into the Cloud Controller API"
      [[("api_address", base)], [("token_url", String.ofList url.render)],
        [("username", settings.username)]]))
    let token ← exchange access tokenShape (tokenRequest? url settings)
    pure ⟨base, token⟩

/-- Looks up a record (`CloudControllerClient::get`). -/
def lookUp (access : Access I) (c : Connection) (kind : RecordKind) (id : String) :
    Dialogue I (Found kind) :=
  (exchange access (recordShape kind) (recordRequest? c kind id)).run

end WorkloadAuth.CloudController
