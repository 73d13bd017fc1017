import WorkloadAuth.Certificate.Workload
import WorkloadAuth.Configuration
import WorkloadAuth.Constraints
import WorkloadAuth.Credential
import WorkloadAuth.Directory.Record
import WorkloadAuth.LoginRequest
import WorkloadAuth.Window

/-!
# Failures

An operation fails for a cause. Whoever calls it may put another cause in front that tells what was
being done.

* `Cause`, `Cause.message`: the causes and their words.
* `Failure`: a chain of causes, the outermost first and the root last.
* `Failure.within`: a failure with one more cause in front.
* `Failure.describe`: the words of the whole chain.
-/

namespace WorkloadAuth

/-- The disagreement of a record with an identity. -/
structure DirectoryMismatch where
  /-- The identifier that differs. -/
  field : String
  claimed : String
  actual : String
  /-- The record that holds the other one. -/
  record : RecordKind
  deriving DecidableEq, Repr

/-- The parts that an engine cannot do without. -/
inductive Dependency where
  | configurationStore
  | directoryFactory
  | roleStore
  | signatureMatcher
  deriving DecidableEq, Repr

/-- The name of a part in messages. -/
def Dependency.label : Dependency → String
  | .configurationStore => "configuration store"
  | .directoryFactory => "directory factory"
  | .roleStore => "role store"
  | .signatureMatcher => "signature matcher"

/-- The libraries whose errors become causes of failures. -/
inductive Library where
  | json
  | yaml
  | files
  | http
  | urls
  /-- Any other one, such as that of a store. -/
  | other
  deriving DecidableEq, Repr

/-- A cause of a failure. -/
inductive Cause where
  /-- A field of a login request is empty. -/
  | missingField (field : LoginField)
  | unreadableSigningTime (raw : String)
  | outsideWindow (fault : Window.Fault)
  /-- No certificates are configured to verify others with. -/
  | noRoots
  /-- No configuration tells how the directory is reached. -/
  | noDirectory
  | noMatchingCertificate
  | undecodableCertificate (fault : CertificateFault)
  | untrustedCertificate (reason : Distrust)
  | incompleteIdentity (field : IdentityField)
  | ambiguousIdentity (field : IdentityField)
  | noMatchingRole (name : String)
  | invalidRole (name : String) (defect : Role.Defect)
  | roleMismatch (mismatch : RoleMismatch)
  | directoryMismatch (mismatch : DirectoryMismatch)
  | appNotRunning (appId : String)
  | missingMetadata (key : MetadataKey)
  | invalidMetadata (key : MetadataKey) (value : String)
  | missingDependency (dependency : Dependency)
  /-- The record that a failure is about. -/
  | aboutRecord (kind : RecordKind) (id : String)
  | recordNotFound
  | emptyResponse
  | invalidResponse (response : String)
  /-- The error that the directory reports. -/
  | reported (code : Int64) (description errorCode : String)
  /-- The directory refuses a request, with the status of its answer. -/
  | clientError (status : Nat)
  /-- The directory cannot answer a request, with the status of its answer. -/
  | serverError (status : Nat)
  | invalidTokenEndpoint (endpoint : String)
  | fileNotFound (path : String)
  | fileUnreadable (path : String)
  | fileUndecodable (path : String)
  /-- An error of a library, in the words of the library. -/
  | foreign (library : Library) (words : String)
  deriving DecidableEq, Repr

/-- The words for a cause. Those of the reader of certificates are given. -/
def Cause.message (reader : CertificateFault → String) : Cause → String
  | missingField field => s!"'{field.label}' is required"
  | unreadableSigningTime raw => s!"couldn't parse signing time '{raw}'"
  | outsideWindow fault => fault.message
  | noRoots => "no CA is configured for verifying client certificates"
  | noDirectory => "no configuration is available for reaching the Cloud Controller API"
  | noMatchingCertificate => "no presented certificate matches the request signature"
  | undecodableCertificate fault => s!"unable to decode certificate: {fault.reason reader}"
  | untrustedCertificate reason => s!"certificate is not trusted: {reason.reason}"
  | incompleteIdentity field => s!"certificate identity is missing the {field.label}"
  | ambiguousIdentity field => s!"certificate identity has more than one {field.label}"
  | noMatchingRole name => s!"no matching role '{name}'"
  | invalidRole name defect => s!"invalid role '{name}': {defect.reason}"
  | roleMismatch mismatch => mismatch.message
  | directoryMismatch m =>
    s!"cert {m.field} ID {m.claimed} doesn't match API's expected one of {m.actual} " ++
      s!"(from {m.record.label} lookup)"
  | appNotRunning appId => s!"app {appId} doesn't have any live instances"
  | missingMetadata key => s!"unable to retrieve {key.text} from metadata during renewal"
  | invalidMetadata key value => s!"invalid {key.text} '{value}' in metadata during renewal"
  | missingDependency dependency =>
    s!"unable to build the authentication engine: missing {dependency.label}"
  | aboutRecord kind id => s!"error refers to {kind.label} '{id}'"
  | recordNotFound => "the resource does not exist, or access to it is restricted"
  | emptyResponse => "the server returned an empty API response"
  | invalidResponse response => s!"invalid API response received: {response}"
  | reported code description errorCode => s!"{errorCode} ({code.toInt}): {description}"
  | clientError status => s!"the client sent an invalid API request (status {status})"
  | serverError status => s!"the server failed to process the API request (status {status})"
  | invalidTokenEndpoint endpoint =>
    s!"the Cloud Controller token endpoint '{endpoint}' is not a valid URL"
  | fileNotFound path => s!"configuration file not found at '{path}'"
  | fileUnreadable path => s!"unable to read configuration file at '{path}'"
  | fileUndecodable path => s!"unable to decode configuration file at '{path}'"
  | foreign _ words => words

/-- A chain of causes. -/
structure Failure where
  /-- What was being done, the outermost first. -/
  outer : List Cause := []
  root : Cause
  deriving DecidableEq, Repr

namespace Failure

/-- The failure of a single cause. -/
def of (cause : Cause) : Failure := ⟨[], cause⟩

/-- A failure with one more cause in front. -/
def within (cause : Cause) (f : Failure) : Failure := ⟨cause :: f.outer, f.root⟩

/-- All causes, the outermost first. -/
def causes (f : Failure) : List Cause := f.outer ++ [f.root]

@[simp] theorem causes_of (cause : Cause) : (of cause).causes = [cause] := rfl

/-- The cause that is put in front of a failure heads its causes, and the others stay. -/
@[simp] theorem causes_within (cause : Cause) (f : Failure) :
    (f.within cause).causes = cause :: f.causes := rfl

/-- The words of all causes, with colons between them. -/
def describe (reader : CertificateFault → String) (f : Failure) : String :=
  String.intercalate ": " (f.causes.map (Cause.message reader))

/-- The log entry of a failure: the whole chain, and its root (`ErrorAttributes`). -/
def entry (reader : CertificateFault → String) (f : Failure) : List (String × String) :=
  [("error", f.describe reader), ("error_root", f.root.message reader)]

end Failure

/-! ## Causes of faults -/

/-- The cause that an extraction fails for. -/
def ExtractionFault.cause : ExtractionFault → Cause
  | .undecodable fault => .undecodableCertificate fault
  | .ambiguous field => .ambiguousIdentity field
  | .incomplete field => .incompleteIdentity field

/-- The cause that a verification fails for. -/
def TrustFault.cause : TrustFault → Cause
  | .undecodable fault => .undecodableCertificate fault
  | .untrusted reason => .untrustedCertificate reason

/-- The cause that a configuration cannot be used for. -/
def TrustSettingsFault.cause : TrustSettingsFault → Cause
  | .undecodable fault => .undecodableCertificate fault
  | .noRoots => .noRoots

/-- The cause that a snapshot cannot be decoded for. -/
def MetadataFault.cause : MetadataFault → Cause
  | .missing key => .missingMetadata key
  | .invalid key value => .invalidMetadata key value
  | .incomplete field => .incompleteIdentity field

end WorkloadAuth
