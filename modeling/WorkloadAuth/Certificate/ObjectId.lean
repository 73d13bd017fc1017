import WorkloadAuth.Text.Hex

/-!
# Object identifiers

The kinds of things that a certificate speaks of are nodes of a tree. An object identifier is the
path to a node: the numbers of its arcs, of which the first two share an octet and the others are
written with seven bits to an octet.

* `ofArcs`: the octets of a path.
* `arcs?`: the path of some octets.
* `text`: how a path is shown.
* `shortName?`: the short name of a node.
-/

namespace WorkloadAuth.Certificate.ObjectId

/-! ## Paths -/

/-- The digits of an arc with seven bits each, where all but the last have the highest bit set;
`fuel` bounds their number, and `after` follows. -/
def arcOctets : (fuel arc : Nat) → (after : List UInt8) → List UInt8
  | 0, _, after => after
  | fuel + 1, arc, after =>
    if arc = 0 then after else arcOctets fuel (arc / 128) (UInt8.ofNat (0x80 + arc % 128) :: after)

/-- The octets of a path. -/
def ofArcs : List Nat → List UInt8
  | first :: second :: rest =>
    UInt8.ofNat (first * 40 + second) ::
      rest.flatMap fun arc => arcOctets arc (arc / 128) [UInt8.ofNat (arc % 128)]
  | _ => []

/-- The most octets of an arc that is read as a number. -/
def maxArcOctets : Nat := 9

/-- The arcs of some octets, where `arc` has started with `size` octets. The last one need not be
finished; nothing is told if one that is finished has too many octets. -/
def laterArcs? : (arc size : Nat) → List UInt8 → Option (List Nat)
  | arc, size, [] => some (if size = 0 then [] else [arc])
  | arc, size, b :: rest =>
    let arc := (arc * 128 + b.toNat % 128) % UInt64.size
    if 0x80 ≤ b then laterArcs? arc (size + 1) rest
    else if size < maxArcOctets then (laterArcs? 0 0 rest).map (arc :: ·)
    else none

/-- The path of some octets. A single zero is a path of one arc. -/
def arcs? : List UInt8 → Option (List Nat)
  | [] => some []
  | [0] => some [0]
  | first :: rest =>
    (laterArcs? 0 0 rest).map fun arcs => first.toNat / 40 :: first.toNat % 40 :: arcs

/-- How some octets are shown: the arcs with points between them, or else the octets themselves. -/
def text (id : List UInt8) : List Char :=
  match arcs? id with
  | some arcs => ['.'].intercalate (arcs.map Text.decimal)
  | none => [' '].intercalate (id.map fun b => Text.hexOfBytes [b])

/-! ## Short names -/

/-- Nodes with short names, by the paths of the nodes above them. -/
def registry : List (List Nat × List (Nat × String)) :=
  [([0, 9, 2342, 19200300, 100, 1], [(1, "uid"), (25, "DC")]),
    ([1, 2, 643, 2, 2], [(3, "id-GostR3411-94-with-GostR3410-2001"), (19, "gostR3410-2001")]),
    ([1, 2, 643, 7, 1, 1, 1], [(1, "gost3410-2012-256"), (2, "gost3410-2012-512")]),
    ([1, 2, 643, 7, 1, 1, 3], [(2, "id-tc26-signwithdigest-gost3410-12-256"),
      (3, "id-tc26-signwithdigest-gost3410-12-512")]),
    ([1, 2, 840, 10040, 4], [(1, "id-dsa"), (3, "dsa-with-sha1")]),
    ([1, 2, 840, 10045, 2], [(1, "id-ecPublicKey")]),
    ([1, 2, 840, 10045, 3, 1], [(7, "prime256v1")]),
    ([1, 2, 840, 10045, 4, 3], [(1, "ecdsa-with-SHA224"), (2, "ecdsa-with-SHA256"),
      (3, "ecdsa-with-SHA384"), (4, "ecdsa-with-SHA512")]),
    ([1, 2, 840, 113549, 1, 1], [(1, "rsaEncryption"), (2, "md2WithRSAEncryption"),
      (3, "md4WithRSAEncryption"), (4, "md5WithRSAEncryption"), (5, "sha1WithRSAEncryption"),
      (10, "rsassa-pss"), (11, "sha256WithRSAEncryption"), (12, "sha384WithRSAEncryption"),
      (13, "sha512WithRSAEncryption"), (14, "sha224WithRSAEncryption")]),
    ([1, 2, 840, 113549, 1, 7], [(1, "pkcs7-data"), (2, "pkcs7-signedData"),
      (3, "pkcs7-envelopedData"), (4, "pkcs7-signedAndEnvelopedData"), (5, "pkcs7-digestedData"),
      (6, "pkcs7-encryptedData")]),
    ([1, 2, 840, 113549, 1, 9], [(1, "Email"), (2, "unstructuredName"), (3, "contentType"),
      (4, "id-messageDigest"), (5, "signing-time"), (7, "challengePassword"),
      (14, "extensionRequest"), (15, "smimeCapabilities"), (20, "friendlyName")]),
    ([1, 2, 840, 113549, 1], [(12, "pkcs-12")]),
    ([1, 2, 840, 113549, 1, 12], [(1, "pkcs-12PbeIds")]),
    ([1, 2, 840, 113549, 1, 12, 1], [(1, "pbeWithSHAAnd128BitRC4"), (2, "pbeWithSHAAnd40BitRC4"),
      (3, "pbeWithSHAAnd3-KeyTripleDES-CBC"), (4, "pbeWithSHAAnd2-KeyTripleDES-CBC"),
      (5, "pbeWithSHAAnd128BitRC2-CBC"), (6, "pbeWithSHAAnd40BitRC2-CBC")]),
    ([1, 3, 6, 1, 4, 1, 11129, 2, 4], [(2, "ctSCTList")]),
    ([1, 3, 6, 1, 5, 5, 7, 1], [(1, "authorityInfoAccess"), (11, "subjectInfoAccess")]),
    ([1, 3, 6, 1, 5, 5, 7, 48], [(1, "id-ad-ocsp"), (2, "id-ad-caIssuers"),
      (3, "id-ad-timestamping"), (4, "id-ad-dvcs"), (5, "id-ad-caRepository"),
      (6, "id-ad-http-certs"), (7, "id-ad-http-crls"), (8, "id-ad-xkms"),
      (9, "id-ad-signedObjectRepository"), (10, "id-ad-rpkiManifest"), (11, "id-ad-signedObject"),
      (12, "id-ad-cmc"), (13, "id-ad-rpkiNotify"), (14, "id-ad-stirTNList")]),
    ([1, 3, 14, 3, 2], [(25, "md5WithRSASignature"), (26, "id-SHA1"),
      (29, "sha1WithRSAEncryption")]),
    ([1, 3, 101], [(112, "ed25519"), (113, "ed448")]),
    ([1, 3, 132, 0], [(34, "secp384r1"), (35, "secp521r1")]),
    ([2, 5], [(4, "x509")]),
    ([2, 5, 4], [(0, "objectClass"), (1, "aliasedEntryName"), (2, "knowledgeInformation"),
      (3, "CN"), (4, "surname"), (5, "serialNumber"), (6, "C"), (7, "L"), (8, "ST"),
      (9, "streetAddress"), (10, "O"), (11, "OU"), (12, "title"), (13, "description"),
      (14, "searchGuide"), (15, "businessCategory"), (16, "postalAddress"), (17, "postalCode"),
      (41, "name"), (42, "givenName"), (43, "initials"), (44, "generationQualifier"),
      (45, "uniqueIdentifier"), (46, "dnQualifier")]),
    ([2, 5, 29], [(1, "oldAuthorityKeyIdentifier"), (2, "oldKeyAttributes"),
      (3, "oldCertificatePolicies"), (4, "oldKeyUsage"), (5, "oldPolicyMapping"),
      (6, "oldSubtreesConstraint"), (7, "oldSubjectAltNAme"), (8, "oldIssuerAltNAme"),
      (14, "subjectKeyIdentifier"), (15, "keyUsage"), (16, "privateKeyUsagePeriod"),
      (17, "subjectAltName"), (18, "issuerAltName"), (19, "basicConstraints"), (20, "crlNumber"),
      (21, "reasonCode"), (23, "holdInstructionCode"), (24, "invalidityDate"),
      (27, "deltaCRLIndicator"), (28, "issuerDistributionPoint"), (29, "issuer"),
      (30, "nameConstraints"), (31, "crlDistributionPoints"), (32, "certificatePolicies"),
      (33, "policyMappings"), (35, "authorityKeyIdentifier"), (36, "policyConstraints"),
      (37, "extendedKeyUsage"), (46, "freshestCRL"), (54, "inhibitantAnyPolicy")]),
    ([2, 16, 840, 1, 101, 3, 4, 1], [(42, "aes-256-cbc")]),
    ([2, 16, 840, 1, 101, 3, 4, 2], [(1, "sha256"), (2, "sha384"), (3, "sha512")]),
    ([2, 16, 840, 1, 113730, 1], [(1, "nsCertType"), (13, "nsComment")])]

/-- The octets and the short names of the nodes of the registry. -/
def shortNames : List (List UInt8 × String) :=
  registry.flatMap fun (above, nodes) =>
    nodes.map fun (arc, name) => (ofArcs (above ++ [arc]), name)

/-- The short name of a node. -/
def shortName? (id : List UInt8) : Option String :=
  (shortNames.find? (fun entry => entry.1 == id)).map (·.2)

end WorkloadAuth.Certificate.ObjectId
