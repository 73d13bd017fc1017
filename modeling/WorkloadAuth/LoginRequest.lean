import WorkloadAuth.Schema

/-!
# Login requests

What a workload sends to log in.

* `LoginRequest`: its certificate, the role it asks for, and its signature with the time it was made
  at. `LoginRequest.shape` is its schema.
* `LoginRequest.emptyField?`: a field without a value. All fields have to have one.
-/

namespace WorkloadAuth

/-- A request to log in. -/
structure LoginRequest where
  /-- The certificate of the workload as text, which others may follow. -/
  certificate : String
  /-- The name of the role to log in with. -/
  role : String
  /-- The signature of the request, made with the certificate's key. -/
  signature : String
  /-- When the signature was made. -/
  signingTime : String
  deriving DecidableEq, Repr

/-- The fields of a request. -/
inductive LoginField where
  | role
  | signature
  | certificate
  | signingTime
  deriving DecidableEq, Repr

/-- The name of a field. -/
def LoginField.label : LoginField → String
  | .role => "role"
  | .signature => "signature"
  | .certificate => "certificate"
  | .signingTime => "signing_time"

namespace LoginRequest

/-- The schema of a request. -/
def shape : Shape LoginRequest :=
  .record
    (.required "certificate" .text <|
      .required "role" .text <|
      .required "signature" .text <|
      .required "signing_time" .text .nil)
    (fun (certificate, role, signature, signingTime, ()) =>
      ⟨certificate, role, signature, signingTime⟩)
    (fun r => (r.certificate, r.role, r.signature, r.signingTime, ()))

/-- The value of a field. -/
def value (r : LoginRequest) : LoginField → String
  | .role => r.role
  | .signature => r.signature
  | .certificate => r.certificate
  | .signingTime => r.signingTime

/-- The order in which fields are looked at. -/
def fieldOrder : List LoginField := [.role, .signature, .certificate, .signingTime]

/-- The first field without a value. -/
def emptyField? (r : LoginRequest) : Option LoginField :=
  fieldOrder.find? fun f => r.value f == ""

end LoginRequest

end WorkloadAuth
