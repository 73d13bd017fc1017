import WorkloadAuth.Failure
import WorkloadAuth.Http.Message
import WorkloadAuth.Json.Decode

/-!
# Responses of the directory

* `Response.decode`: the value in a response. The response of a request that failed tells why, as a
  report of its own if possible; one without a body has no value.
* `Response.expect`: the value that a response has to have.
-/

namespace WorkloadAuth.Directory.Response

/-- The schema of the report of an error. -/
def reportShape : Shape (Int64 × String × String) :=
  .record
    (.optional "code" 0 .integer <|
      .optional "description" "" .text <|
      .optional "error_code" "" .text .nil)
    (fun (code, description, errorCode, ()) => (code, description, errorCode))
    (fun (code, description, errorCode) => (code, description, errorCode, ()))

/-- The cause of a failure that the body of a response tells. -/
def report (text : String) : Cause :=
  match reportShape.ofJson text with
  | .ok (code, description, errorCode) => .reported code description errorCode
  | .error _ => .invalidResponse text

/-- Whether a status tells that the request was wrong. -/
def isClientError (status : Nat) : Bool := 400 ≤ status && status < 500

/-- Whether a status tells that the server failed. -/
def isServerError (status : Nat) : Bool := 500 ≤ status && status < 600

/-- The value in a response with a status and a text (`decode`). The words for texts that are not
the JSON of a shape are given. -/
def decode {α : Type} (json : String → String) (shape : Shape α) (status : Nat) (text : String) :
    Except Failure (Option α) :=
  if status = 404 then .error (.of .recordNotFound)
  else if isClientError status then
    .error ((Failure.of (report text)).within (.clientError status))
  else if isServerError status then
    .error ((Failure.of (report text)).within (.serverError status))
  else if text = "" then .ok none
  else
    match shape.ofJson text with
    | .ok a => .ok (some a)
    | .error _ => .error ((Failure.of (.foreign .json (json text))).within (.invalidResponse text))

/-- The value that a response has to have (`inspect` and `expect_body`). -/
def expect {α : Type} (json : String → String) (shape : Shape α) (response : Http.Response) :
    Except Failure α :=
  match decode json shape response.status response.text with
  | .ok (some a) => .ok a
  | .ok none => .error (.of .emptyResponse)
  | .error failure => .error failure

end WorkloadAuth.Directory.Response
