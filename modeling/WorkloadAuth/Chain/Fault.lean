/-!
# Chain faults

Why a certificate cannot be used in a chain, or no chain is found.

* `Fault`: the causes.
* `Fault.name`: the name of a cause in messages.
* `Fault.rank`: how much a cause tells about a failed search; of several, the search reports one of
  the highest rank.
* `Fault.isFatal`: whether a cause ends a search at once.
-/

namespace WorkloadAuth.Chain

/-- The parts of an encoding that other octets must not follow. -/
inductive Part where
  | bitString
  | flag
  | certificate
  | extensions
  | toBeSigned
  | extension
  | generalName
  | signedData
  | publicKey
  | time
  deriving DecidableEq, Repr

/-- The name of a part in messages. -/
def Part.name : Part → String
  | .bitString => "BitString"
  | .flag => "Bool"
  | .certificate => "Certificate"
  | .extensions => "CertificateExtensions"
  | .toBeSigned => "CertificateTbsCertificate"
  | .extension => "Extension"
  | .generalName => "GeneralName"
  | .signedData => "SignedData"
  | .publicKey => "SubjectPublicKeyInfo"
  | .time => "Time"

/-- A cause for which a certificate cannot be used or no chain is found. -/
inductive Fault where
  /-- An element is not encoded as it has to be. -/
  | badEncoding
  /-- A time is not written as it has to be. -/
  | badTime
  /-- The end entity is a certificate authority. -/
  | authorityAsEndEntity
  /-- An issuer is no certificate authority. -/
  | endEntityAsAuthority
  | expired
  | notYetValid
  /-- An extension is given twice. -/
  | repeatedExtension
  /-- A certificate's validity ends before it starts. -/
  | invertedValidity
  /-- The mask of a network is no run of ones followed by zeros. -/
  | badNetworkMask
  | badSignature
  | malformedDnsName
  | malformedDnsConstraint
  | nameConstraintViolation
  | tooManyPathCalls
  | tooManyNameComparisons
  | tooManySignatureChecks
  /-- A chain has more than six intermediates. -/
  | pathTooLong
  /-- A certificate authority may not have that many others below it. -/
  | pathLengthExceeded
  | usageMissing
  /-- The algorithm named inside the signed part is another one than that outside. -/
  | algorithmMismatch
  /-- Octets follow a part, or a part is missing. -/
  | trailingData (part : Part)
  | unknownIssuer
  | unsupportedVersion
  | unsupportedCriticalExtension
  | unsupportedAlgorithm
  | algorithmNotForKey
  deriving DecidableEq, Repr

namespace Fault

/-- The name of a cause in messages. -/
def name : Fault → String
  | badEncoding => "BadDer"
  | badTime => "BadDerTime"
  | authorityAsEndEntity => "CaUsedAsEndEntity"
  | endEntityAsAuthority => "EndEntityUsedAsCa"
  | expired => "CertExpired"
  | notYetValid => "CertNotValidYet"
  | repeatedExtension => "ExtensionValueInvalid"
  | invertedValidity => "InvalidCertValidity"
  | badNetworkMask => "InvalidNetworkMaskConstraint"
  | badSignature => "InvalidSignatureForPublicKey"
  | malformedDnsName => "MalformedDnsIdentifier"
  | malformedDnsConstraint => "MalformedNameConstraint"
  | nameConstraintViolation => "NameConstraintViolation"
  | tooManyPathCalls => "MaximumPathBuildCallsExceeded"
  | tooManyNameComparisons => "MaximumNameConstraintComparisonsExceeded"
  | tooManySignatureChecks => "MaximumSignatureChecksExceeded"
  | pathTooLong => "MaximumPathDepthExceeded"
  | pathLengthExceeded => "PathLenConstraintViolated"
  | usageMissing => "RequiredEkuNotFound"
  | algorithmMismatch => "SignatureAlgorithmMismatch"
  | trailingData part => s!"TrailingData({part.name})"
  | unknownIssuer => "UnknownIssuer"
  | unsupportedVersion => "UnsupportedCertVersion"
  | unsupportedCriticalExtension => "UnsupportedCriticalExtension"
  | unsupportedAlgorithm => "UnsupportedSignatureAlgorithm"
  | algorithmNotForKey => "UnsupportedSignatureAlgorithmForPublicKey"

/-- How much a cause tells about a failed search. -/
def rank : Fault → Nat
  | notYetValid | expired => 290
  | badSignature => 260
  | algorithmMismatch => 250
  | usageMissing => 240
  | nameConstraintViolation => 230
  | pathLengthExceeded => 220
  | authorityAsEndEntity | endEntityAsAuthority => 210
  | invertedValidity => 190
  | badNetworkMask => 180
  | algorithmNotForKey => 150
  | unsupportedAlgorithm => 140
  | unsupportedCriticalExtension | unsupportedVersion => 130
  | tooManySignatureChecks | tooManyPathCalls | tooManyNameComparisons => 65
  | pathTooLong => 61
  | malformedDnsName => 60
  | malformedDnsConstraint => 50
  | trailingData _ => 40
  | repeatedExtension => 30
  | badTime => 20
  | badEncoding => 10
  | unknownIssuer => 0

/-- The earlier of two causes, unless the later one has a higher rank. -/
def mostSpecific (earlier later : Fault) : Fault :=
  if later.rank ≤ earlier.rank then earlier else later

/-- Whether a cause is a used up work budget, which ends a search at once. -/
def isFatal : Fault → Bool
  | tooManySignatureChecks | tooManyPathCalls | tooManyNameComparisons => true
  | _ => false

end Fault

end WorkloadAuth.Chain
