import WorkloadAuth.Certificate.Inspected
import WorkloadAuth.Pem

/-!
# Certificates

* `Certificate`: an encoded certificate.
* `CertificateFault`: why a certificate cannot be decoded.
* `Certificate.ofDer`: a certificate of some octets, which are kept as they are.
* `Certificate.chainOfPem`: the certificates of a text, in order.
-/

namespace WorkloadAuth

/-- An encoded certificate. -/
structure Certificate where
  der : List UInt8
  deriving DecidableEq, Repr

/-- Why a certificate cannot be decoded. -/
inductive CertificateFault where
  /-- The text around it cannot be read. -/
  | pem (fault : Pem.Fault)
  /-- Its octets are no certificate. -/
  | malformed
  /-- An attribute of its subject is no text. -/
  | notText
  /-- An extension that is needed cannot be used. -/
  | extension (fault : Certificate.ExtensionFault)
  /-- An alternative name is an address of a length that no address has. -/
  | addressLength (length : Nat)
  /-- A list of trusted certificates has an entry without one. -/
  | emptyEntry (index : Nat)
  deriving DecidableEq, Repr

/-- The words for a fault. For octets that are not what they should be, the reader of certificates
has words of its own. -/
def CertificateFault.reason (reader : CertificateFault → String) : CertificateFault → String
  | .pem fault => fault.message
  | .addressLength length => s!"IP address SAN has invalid length {length}"
  | .emptyEntry index => s!"identity CA entry {index} holds no certificate"
  | fault => reader fault

namespace Certificate

/-- What a certificate says about its subject (`Certificate::parse`). -/
def inspect (c : Certificate) : Except CertificateFault Inspected :=
  match Inspected.next? c.der with
  | some (inspected, _) => .ok inspected
  | none => .error .malformed

/-- The certificate of some octets, if they start with one (`Certificate::from_der`). -/
def ofDer (der : List UInt8) : Except CertificateFault Certificate := do
  let certificate : Certificate := ⟨der⟩
  let _ ← certificate.inspect
  .ok certificate

/-- The label of a certificate in a text. -/
def pemLabel : String := "CERTIFICATE"

/-- The certificates of some blocks. Blocks with other labels are passed over once they are read. -/
def chainOfBlocks : List (Except Pem.Fault Pem.Block) → Except CertificateFault (List Certificate)
  | [] => .ok []
  | .error fault :: _ => .error (.pem fault)
  | .ok block :: rest =>
    if block.label = pemLabel then do
      let certificate ← ofDer block.content
      let more ← chainOfBlocks rest
      .ok (certificate :: more)
    else chainOfBlocks rest

/-- The certificates of a text, in order (`Certificate::from_pem_chain`). -/
def chainOfPem (text : String) : Except CertificateFault (List Certificate) :=
  chainOfBlocks (Pem.blocks text)

end Certificate

end WorkloadAuth
