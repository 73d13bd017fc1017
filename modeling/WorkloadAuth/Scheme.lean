import WorkloadAuth.Chain.Suite
import WorkloadAuth.Failure

/-!
# Schemes of identity certificates

* `IdentityScheme`: how a certificate is verified, and what identity it tells.
* `IdentityScheme.x509`: the scheme of X.509 certificates that chain up to configured ones.
-/

namespace WorkloadAuth

open Calendar

/-- How certificates are verified and read. -/
structure IdentityScheme where
  /-- Checks that a certificate, with others presented beside it, is trusted at a moment. -/
  verify : Certificate → List Certificate → TrustSettings → Moment → Except Failure Unit
  /-- The identity that a certificate tells. -/
  identify : Certificate → Except Failure Identity
  /-- The words of the reader of certificates for what it cannot read. -/
  reader : CertificateFault → String

/-- The scheme of X.509 certificates, with given signature algorithms and the words of their
reader. -/
def IdentityScheme.x509 (algorithms : List Chain.Algorithm) (reader : CertificateFault → String) :
    IdentityScheme where
  verify c presented settings now :=
    (c.verify algorithms presented settings now).mapError fun fault => .of fault.cause
  identify c := c.identity.mapError fun fault => .of fault.cause
  reader := reader

/-- The usual scheme. -/
def IdentityScheme.standard (reader : CertificateFault → String) : IdentityScheme :=
  .x509 Chain.Algorithm.suite reader

end WorkloadAuth
