import WorkloadAuth.Chain.Signature
import WorkloadAuth.Crypto.Edwards
import WorkloadAuth.Crypto.Rsa
import WorkloadAuth.Crypto.Weierstrass

/-!
# The signature suite

The signature algorithms that certificates may be signed with: ECDSA over P-256 and P-384, Ed25519,
and RSA with fixed padding or with a salt of the digest's length.

* `Algorithm.suite`: all of them.
-/

namespace WorkloadAuth.Chain

open Crypto Reader

namespace Algorithm

/-- The octets of an object identifier below the arc of RSA. -/
def rsaArc (n : UInt8) : List UInt8 :=
  [0x06, 0x09, 0x2a, 0x86, 0x48, 0x86, 0xf7, 0x0d, 0x01, 0x01, n]

/-- The absent parameters of an algorithm. -/
def noParameters : List UInt8 := [0x05, 0x00]

/-- The name of an RSA key. -/
def rsaKey : List UInt8 := rsaArc 1 ++ noParameters

/-- The name of a P-256 key. -/
def p256Key : List UInt8 :=
  [0x06, 0x07, 0x2a, 0x86, 0x48, 0xce, 0x3d, 0x02, 0x01, 0x06, 0x08, 0x2a, 0x86, 0x48, 0xce, 0x3d,
    0x03, 0x01, 0x07]

/-- The name of a P-384 key. -/
def p384Key : List UInt8 :=
  [0x06, 0x07, 0x2a, 0x86, 0x48, 0xce, 0x3d, 0x02, 0x01, 0x06, 0x05, 0x2b, 0x81, 0x04, 0x00, 0x22]

/-- The octets of an object identifier below the arc of ECDSA with SHA-2. -/
def ecdsaArc (n : UInt8) : List UInt8 :=
  [0x06, 0x08, 0x2a, 0x86, 0x48, 0xce, 0x3d, 0x04, 0x03, n]

/-- The name of Ed25519, for signatures and keys. -/
def ed25519Name : List UInt8 := [0x06, 0x03, 0x2b, 0x65, 0x70]

/-- A positive number. -/
def positive : Reader Nat := do
  match Octets.natural? (← expect .integer) with
  | some n => pure n
  | none => fail .badEncoding

/-- Two positive numbers in a sequence, of which nothing may be left. -/
def pair? (bytes : List UInt8) : Option (Nat × Nat) :=
  (whole .badEncoding
    (nested .sequence .badEncoding do
      let a ← positive
      let b ← positive
      pure (a, b)) bytes).toOption

/-- Signatures over a curve. -/
def ecdsa (curve : Curve) (keyId : List UInt8) (hash : Hash) (arc : UInt8) : Algorithm where
  signatureId := ecdsaArc arc
  keyId := keyId
  accepts key message signature :=
    match curve.decodePoint? key, pair? signature with
    | some point, some (r, s) => curve.accepts point (hash.digest message) r s
    | _, _ => false

/-- Ed25519 signatures. -/
def ed25519 : Algorithm where
  signatureId := ed25519Name
  keyId := ed25519Name
  accepts := Edwards.accepts

/-- The RSA key of some octets. -/
def rsaKey? (bytes : List UInt8) : Option Rsa.Key := (pair? bytes).map fun (n, e) => ⟨n, e⟩

/-- RSA signatures with fixed padding. -/
def rsaPkcs1 (hash : Hash) (arc : UInt8) : Algorithm where
  signatureId := rsaArc arc ++ noParameters
  keyId := rsaKey
  accepts key message signature :=
    (rsaKey? key).any fun k => k.acceptsPkcs1 hash message signature

/-- The name of a hash function. -/
def hashName (n : UInt8) : List UInt8 :=
  [0x30, 0x0d, 0x06, 0x09, 0x60, 0x86, 0x48, 0x01, 0x65, 0x03, 0x04, 0x02, n] ++ noParameters

/-- RSA signatures with a salt. Their name tells the hash function, that of the mask and the length
of the salt. -/
def rsaPss (hash : Hash) (hashArc : UInt8) : Algorithm where
  signatureId :=
    rsaArc 10 ++ [0x30, 0x34, 0xa0, 0x0f] ++ hashName hashArc ++ [0xa1, 0x1c, 0x30, 0x1a]
    ++ rsaArc 8 ++ hashName hashArc ++ [0xa2, 0x03, 0x02, 0x01, UInt8.ofNat hash.size]
  keyId := rsaKey
  accepts key message signature :=
    (rsaKey? key).any fun k => k.acceptsPss hash message signature

/-- The algorithms that certificates may be signed with, in the order in which they are tried. -/
def suite : List Algorithm :=
  [ecdsa .p256 p256Key .sha256 2, ecdsa .p256 p256Key .sha384 3, ecdsa .p384 p384Key .sha256 2,
    ecdsa .p384 p384Key .sha384 3, ed25519, rsaPkcs1 .sha256 11, rsaPkcs1 .sha384 12,
    rsaPkcs1 .sha512 13, rsaPss .sha256 1, rsaPss .sha384 2, rsaPss .sha512 3]

end Algorithm

end WorkloadAuth.Chain
