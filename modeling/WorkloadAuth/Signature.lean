import WorkloadAuth.Failure

/-!
# Signatures of login requests

A signature shows that whoever sends a request holds the key of one of its certificates. Which
octets are signed is up to the matcher that finds this certificate.

* `SignedData`: what a signature is made for.
* `LoginRequest.signedData`: what the signature of a request is made for.
* `KnownSignature`: the matcher of a single signature.
-/

namespace WorkloadAuth

/-- What a signature is made for, as it is presented. -/
structure SignedData where
  certificate : String
  role : String
  signingTime : String
  deriving DecidableEq, Repr

/-- What the signature of a request is made for. -/
def LoginRequest.signedData (r : LoginRequest) : SignedData :=
  ⟨r.certificate, r.role, r.signingTime⟩

/-- A signature, and the certificate with whose key it was made. -/
structure KnownSignature where
  signature : String
  certificate : Certificate
  deriving DecidableEq, Repr

/-- The certificate of a signature, if it is the known one (`SignatureMatcherFixture`). -/
def KnownSignature.certificateFor (k : KnownSignature) (signature : String) (_ : SignedData) :
    Except Failure Certificate :=
  if signature = k.signature then .ok k.certificate else .error (.of .noMatchingCertificate)

end WorkloadAuth
