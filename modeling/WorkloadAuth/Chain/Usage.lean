/-!
# Usages of certificates

A certificate may restrict what it is used for to a list of usages.

* `RequiredUsage`: what is asked of certificates, as it is configured.
* `RequiredUsage.tried`: the usages of which a chain has to allow one.
-/

namespace WorkloadAuth

/-- What certificates are asked to be usable for. -/
inductive RequiredUsage where
  /-- Anything. -/
  | any
  | clientAuth
  | serverAuth
  deriving DecidableEq, Repr

/-- The usages that certificates may list. -/
inductive Usage where
  | anyUsage
  | serverAuth
  | clientAuth
  | codeSigning
  | emailProtection
  | timeStamping
  | ocspSigning
  deriving DecidableEq, Repr

/-- The object identifier of a usage, as the content of its element. -/
def Usage.id : Usage → List UInt8
  | .anyUsage => [0x55, 0x1d, 0x25, 0x00]
  | .serverAuth => [0x2b, 0x06, 0x01, 0x05, 0x05, 0x07, 0x03, 0x01]
  | .clientAuth => [0x2b, 0x06, 0x01, 0x05, 0x05, 0x07, 0x03, 0x02]
  | .codeSigning => [0x2b, 0x06, 0x01, 0x05, 0x05, 0x07, 0x03, 0x03]
  | .emailProtection => [0x2b, 0x06, 0x01, 0x05, 0x05, 0x07, 0x03, 0x04]
  | .timeStamping => [0x2b, 0x06, 0x01, 0x05, 0x05, 0x07, 0x03, 0x08]
  | .ocspSigning => [0x2b, 0x06, 0x01, 0x05, 0x05, 0x07, 0x03, 0x09]

namespace RequiredUsage

/-- The name of a required usage in messages. -/
def label : RequiredUsage → String
  | any => "Any"
  | clientAuth => "ClientAuth"
  | serverAuth => "ServerAuth"

/-- The usages that are tried in turn until all certificates of a chain allow one (`key_usages`). -/
def tried : RequiredUsage → List Usage
  | any => [.clientAuth, .serverAuth, .anyUsage, .codeSigning, .emailProtection, .timeStamping,
      .ocspSigning]
  | clientAuth => [.clientAuth]
  | serverAuth => [.serverAuth]

end RequiredUsage

end WorkloadAuth
