import WorkloadAuth.Chain.Trust
import WorkloadAuth.Schema

/-!
# Configuration

* `DirectorySettings`: how the Cloud Controller is reached.
* `Configuration`: these settings, the certificates trusted to issue identities, and the usage asked
  of identity certificates. `Configuration.shape` is its schema.
* `Configuration.trustSettings`: what certificates are verified with, if the configuration names
  certificates that can be decoded.
-/

namespace WorkloadAuth

/-- How the Cloud Controller is reached. -/
structure DirectorySettings where
  /-- The base URL of its interface. -/
  apiAddress : String
  /-- Certificates, as text, that are trusted there besides the usual ones. -/
  trustedCertificates : List String := []
  password : String
  /-- The seconds after which a request is given up; zero means never. -/
  timeout : UInt64 := 30
  username : String
  deriving DecidableEq, Repr

/-- The configuration. -/
structure Configuration where
  directory : DirectorySettings
  /-- The certificates, as text, that are trusted to issue identities. -/
  identityCertificates : List String
  requiredUsage : RequiredUsage := .any
  deriving DecidableEq, Repr

/-- The schema of the settings. -/
def DirectorySettings.shape : Shape DirectorySettings :=
  .record
    (.required "api_address" .text <|
      .optional "api_trusted_certificates" [] (.list .text) <|
      .required "password" .text <|
      .optional "timeout_sec" 30 .natural <|
      .required "username" .text .nil)
    (fun (address, certificates, password, timeout, username, ()) =>
      ⟨address, certificates, password, timeout, username⟩)
    (fun d => (d.apiAddress, d.trustedCertificates, d.password, d.timeout, d.username, ()))

/-- The schema of a required usage. -/
def RequiredUsage.shape : Shape RequiredUsage :=
  .choice [("any", .any), ("client_auth", .clientAuth), ("server_auth", .serverAuth)]
    fun
      | .any => "any"
      | .clientAuth => "client_auth"
      | .serverAuth => "server_auth"

/-- Why a configuration names no certificates to verify others with. -/
inductive TrustSettingsFault where
  | undecodable (fault : CertificateFault)
  /-- It names none at all. -/
  | noRoots
  deriving DecidableEq, Repr

namespace Configuration

/-- The schema of a configuration. -/
def shape : Shape Configuration :=
  .record
    (.required "directory" DirectorySettings.shape <|
      .required "identity_ca_certificates" (.list .text) <|
      .optional "required_usage" .any RequiredUsage.shape .nil)
    (fun (directory, certificates, usage, ()) => ⟨directory, certificates, usage⟩)
    (fun c => (c.directory, c.identityCertificates, c.requiredUsage, ()))

/-- The certificates of some entries, of which the first one has a given index. Every entry holds at
least one. -/
def rootsFrom (index : Nat) : List String → Except CertificateFault (List Certificate)
  | [] => .ok []
  | entry :: rest => do
    let certificates ← Certificate.chainOfPem entry
    if certificates.isEmpty then .error (.emptyEntry index)
    let more ← rootsFrom (index + 1) rest
    .ok (certificates ++ more)

/-- What certificates are verified with (`Configuration::verify_options`). -/
def trustSettings (c : Configuration) : Except TrustSettingsFault TrustSettings :=
  match rootsFrom 0 c.identityCertificates with
  | .error fault => .error (.undecodable fault)
  | .ok [] => .error .noRoots
  | .ok roots => .ok ⟨c.requiredUsage, roots⟩

end Configuration

end WorkloadAuth
