import WorkloadAuth.Chain.Certificate

/-!
# Signatures of a chain

A signature names its algorithm, and a key names what it is a key for; together they select a way
to check the signature.

* `Algorithm`: a way to check signatures, with the names under which it is selected.
* `SignedData.check`: checks a signature under a key by one of some algorithms.
-/

namespace WorkloadAuth.Chain

/-- A way to check signatures. -/
structure Algorithm where
  /-- The name that a signature gives. -/
  signatureId : List UInt8
  /-- The name that a key gives. -/
  keyId : List UInt8
  /-- Whether a signature fits a message under a key. -/
  accepts : (key message signature : List UInt8) → Bool

open Reader

/-- The name and the octets of a key. -/
def publicKey : Reader (List UInt8 × List UInt8) := do
  let id ← expect .sequence
  let key ← bitString
  pure (id, key)

/-- Checks a signature by the first algorithm that the key is for. -/
def SignedData.checkBy (signed : SignedData) (key : List UInt8) :
    List Algorithm → Except Fault Unit
  | [] => .error .algorithmNotForKey
  | algorithm :: others =>
    match whole (.trailingData .publicKey) publicKey key with
    | .error fault => .error fault
    | .ok (id, octets) =>
      if algorithm.keyId ≠ id then signed.checkBy key others
      else if algorithm.accepts octets signed.message signed.signature then .ok ()
      else .error .badSignature

/-- Checks a signature under a key by one of some algorithms. -/
def SignedData.check (algorithms : List Algorithm) (signed : SignedData) (key : List UInt8) :
    Except Fault Unit :=
  match algorithms.filter (fun a => a.signatureId == signed.algorithm) with
  | [] => .error .unsupportedAlgorithm
  | fitting => signed.checkBy key fitting

end WorkloadAuth.Chain
