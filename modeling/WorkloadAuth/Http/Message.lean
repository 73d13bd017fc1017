import WorkloadAuth.Http.Url
import WorkloadAuth.Text.Base64

/-!
# Requests and responses

* `Method`, `Header`, `Request`, `Response`: what is sent, and what comes back.
* `Header.isValid`: whether a header can be sent.
* `Header.basic`, `Header.bearer`: how a request proves who sends it.
* `Request.make?`: a request for a URL, if it can be sent at all.
* `Response.text`: the body of a response as text.
-/

namespace WorkloadAuth.Http

/-- What is asked of a server. -/
inductive Method where
  | get
  | post
  deriving DecidableEq, Repr

/-- The word for a method. -/
def Method.name : Method → String
  | get => "GET"
  | post => "POST"

/-- A header of a request. -/
structure Header where
  name : String
  value : String
  deriving DecidableEq, Repr

namespace Header

/-- Whether a value has no control characters but tabs. -/
def isValid (h : Header) : Bool :=
  h.value.toList.all fun c => c = '\t' || (0x20 ≤ c.toNat && c.toNat ≠ 0x7f)

/-- Who sends a request, by name and password. -/
def basic (username password : List UInt8) : Header where
  name := "authorization"
  value := "Basic " ++ String.ofList (Text.Base64.encode (username ++ 0x3a :: password))

/-- Who sends a request, by a token. -/
def bearer (token : String) : Header := ⟨"authorization", "Bearer " ++ token⟩

/-- What the body of a request is. -/
def contentType (type : String) : Header := ⟨"content-type", type⟩

/-- What program sends a request. -/
def userAgent (program : String) : Header := ⟨"user-agent", program⟩

end Header

/-- A request. -/
structure Request where
  method : Method
  url : Url
  headers : List Header
  body : String := ""
  deriving DecidableEq, Repr

namespace Request

/-- The schemes of URLs to which requests can be sent. -/
def schemes : List (List Char) := ["http".toList, "https".toList]

/-- The text that a part of a URL writes, if it is text at all. -/
def plainText? (part : List Char) : Option (List Char) := Text.Utf8.decode? (Percent.decode part)

/-- The header for the user name and the password in a URL. There is none if the user name is not
text; a password that is not text counts as missing. -/
def urlCredentials (u : Url) : List Header :=
  match plainText? u.username with
  | none => []
  | some username =>
    let password := if u.password.isEmpty then none else plainText? u.password
    if username.isEmpty && password.isNone then []
    else [.basic (Text.Utf8.encode username) (Text.Utf8.encode (password.getD []))]

/-- A request for a URL. It cannot be sent if the scheme is another one or a header is not valid. -/
def make? (method : Method) (url : Url) (headers : List Header) (body : String) : Option Request :=
  if schemes.contains url.scheme && headers.all Header.isValid then
    some ⟨method, { url with username := [], password := [] }, urlCredentials url ++ headers, body⟩
  else none

end Request

/-- The answer to a request. -/
structure Response where
  status : Nat
  body : List UInt8
  deriving DecidableEq, Repr

/-- The body of a response as text, where octets that are no text are replaced. -/
def Response.text (r : Response) : String := String.ofList (Text.Utf8.decodeLossy r.body)

end WorkloadAuth.Http
