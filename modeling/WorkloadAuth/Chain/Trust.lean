import WorkloadAuth.Certificate
import WorkloadAuth.Chain.Path
import WorkloadAuth.Chain.Usage

/-!
# Trust in certificates

A certificate is trusted if it is one of the roots, or if a chain leads from it to one of them over
certificates that were presented with it. Presented certificates are never trusted on their own.

* `TrustSettings`: the roots and the usage that is asked for.
* `TrustFault`: why a certificate is not trusted.
* `Certificate.verify`: whether a certificate is trusted at a moment.
-/

namespace WorkloadAuth

open Calendar Chain Certificate

/-- What certificates are verified with. -/
structure TrustSettings where
  requiredUsage : RequiredUsage
  roots : List Certificate
  deriving DecidableEq, Repr

/-- Why a certificate is not trusted. -/
inductive Distrust where
  /-- No chain can be verified at a moment before 1970. -/
  | invalidTime (now : Moment)
  /-- The moment lies beyond the calendar. -/
  | beyondCalendar
  | outsideValidity
  | usageNotAllowed (usage : RequiredUsage)
  | unsupportedCertificate (fault : Chain.Fault)
  | unsupportedRoot (fault : Chain.Fault)
  /-- No chain is found; the subject of the certificate and the failure of the search are told. -/
  | noChain (subject : String) (fault : Chain.Fault)
  /-- Another scheme of certificates has its own reasons. -/
  | other (reason : String)
  deriving DecidableEq, Repr

/-- The words for a reason. -/
def Distrust.reason : Distrust → String
  | .invalidTime moment => s!"invalid verification time: {moment.render}"
  | .beyondCalendar => "invalid verification time: invalid date"
  | .outsideValidity => "certificate is expired or not yet valid"
  | .usageNotAllowed usage => s!"certificate does not allow {usage.label} usage"
  | .unsupportedCertificate fault => s!"unsupported certificate: {fault.name}"
  | .unsupportedRoot fault => s!"unsupported CA certificate: {fault.name}"
  | .noChain subject fault => s!"no chain from '{subject}' to a configured CA: {fault.name}"
  | .other reason => reason

/-- Why the verification of a certificate fails. -/
inductive TrustFault where
  | undecodable (fault : CertificateFault)
  | untrusted (reason : Distrust)
  deriving DecidableEq, Repr

namespace Certificate

/-- What a name that cannot be shown is called. -/
def invalidName : String := "<X509Error: Invalid X.509 name>"

/-- Whether a list of usages allows the required one: it names it, or any usage is allowed or asked
for. -/
def allows (required : RequiredUsage) (usages : List (List UInt8)) : Bool :=
  usages.contains Usage.anyUsage.id ||
    match required with
    | .any => true
    | .clientAuth => usages.contains Usage.clientAuth.id
    | .serverAuth => usages.contains Usage.serverAuth.id

/-- Checks that a root allows the required usage; it does if it restricts none (`check_usage`). -/
def checkRootUsage (inspected : Inspected) (required : RequiredUsage) : Except TrustFault Unit :=
  match inspected.usages with
  | .error fault => .error (.undecodable (.extension fault))
  | .ok none => .ok ()
  | .ok (some usages) =>
    if allows required usages then .ok () else .error (.untrusted (.usageNotAllowed required))

/-- Checks a root that is itself the certificate to verify. Its validity counts in whole seconds. -/
def verifyRoot (inspected : Inspected) (required : RequiredUsage) (now : Moment) :
    Except TrustFault Unit :=
  let moment : Moment := ⟨now.unixSeconds * nanosPerSecond, 0⟩
  if ¬moment.InCalendar then .error (.untrusted .beyondCalendar)
  else if inspected.notBefore.nanos ≤ moment.nanos ∧ moment.nanos ≤ inspected.notAfter.nanos then
    checkRootUsage inspected required
  else .error (.untrusted .outsideValidity)

/-- Searches a chain for one usage after the other; the failure of the last one is told. -/
def tryUsages (search : Usage → Except Chain.Fault Anchor) :
    Chain.Fault → List Usage → Except Chain.Fault Unit
  | fault, [] => .error fault
  | _, usage :: rest =>
    match search usage with
    | .ok _ => .ok ()
    | .error fault => tryUsages search fault rest

/-- Searches a chain from a certificate that is no root. -/
def verifyChain (algorithms : List Algorithm) (c : Certificate) (subject : Name)
    (presented : List Certificate) (settings : TrustSettings) (now : Moment) :
    Except Distrust Unit :=
  if now.unixSeconds < 0 then .error (.invalidTime now)
  else do
    let leaf ← (Link.ofDer .refused c.der).mapError .unsupportedCertificate
    let anchors ← settings.roots.mapM fun root =>
      (Anchor.ofDer .refused root.der).mapError .unsupportedRoot
    let intermediates := (presented.filter (· ≠ c)).map fun i => Link.ofDer .refused i.der
    let query (usage : Usage) : Query :=
      ⟨algorithms, anchors, intermediates, now.unixSeconds.toNat, usage.id⟩
    (tryUsages (fun usage => (query usage).search leaf) .unknownIssuer
      settings.requiredUsage.tried).mapError (.noChain ((Name.render? subject).getD invalidName))

/-- Checks that a certificate is trusted at a moment (`verify_chain`). A root is trusted as
it is. -/
def verify (algorithms : List Algorithm) (c : Certificate) (presented : List Certificate)
    (settings : TrustSettings) (now : Moment) : Except TrustFault Unit := do
  let inspected ← c.inspect.mapError .undecodable
  if settings.roots.contains c then verifyRoot inspected settings.requiredUsage now
  else
    (verifyChain algorithms c inspected.subject presented settings now).mapError .untrusted

end Certificate

end WorkloadAuth
