import WorkloadAuth.Chain.Der

/-!
# Certificates of a chain

What chain building reads of a certificate.

* `SignedData`: the octets that are signed, the signature and the name of its algorithm.
* `Link`: a certificate that may be part of a chain.
* `Unknown`: what becomes of extensions that are not understood.
* `Link.ofDer`: the link of an encoded certificate.
* `Anchor`, `Anchor.ofDer`: a certificate that ends a chain, of which only the name, the key and
  the name constraints matter.
-/

namespace WorkloadAuth.Chain

/-- Signed octets. -/
structure SignedData where
  /-- The octets that the signature is made of. -/
  message : List UInt8
  /-- The name of the signature's algorithm. -/
  algorithm : List UInt8
  signature : List UInt8
  deriving DecidableEq, Repr

/-- A certificate that may be part of a chain. Names, keys and extensions are kept as the contents
of their elements. -/
structure Link where
  signed : SignedData
  issuer : List UInt8
  validity : List UInt8
  subject : List UInt8
  key : List UInt8
  keyUsage : Option (List UInt8) := none
  alternativeNames : Option (List UInt8) := none
  basicConstraints : Option (List UInt8) := none
  nameConstraints : Option (List UInt8) := none
  revocationPoints : Option (List UInt8) := none
  extendedUsage : Option (List UInt8) := none
  deriving DecidableEq, Repr

/-- What becomes of extensions that are not understood. -/
inductive Unknown where
  /-- They must not be critical, and there is no list of extensions without any. -/
  | refused
  /-- They are passed over, and the list may be empty. -/
  | passedOver
  deriving DecidableEq, Repr

namespace Link

open Reader

/-- An extension. -/
structure Extension where
  id : List UInt8
  critical : Bool
  value : List UInt8

/-- The extension in the content of a sequence. -/
def extension : Reader Extension := do
  let id ← expect .objectId
  let critical ← flag
  let value ← expect .octetString
  pure ⟨id, critical, value⟩

/-- A link is the same with an extension that is not understood, if that may be passed over. -/
def passOver (unknown : Unknown) (link : Link) (e : Extension) : Except Fault Link :=
  if unknown = .refused ∧ e.critical then .error .unsupportedCriticalExtension else .ok link

/-- An extension's value that is not known yet. -/
def once (known : Option (List UInt8)) (value : Except Fault (List UInt8)) :
    Except Fault (Option (List UInt8)) :=
  match known with
  | some _ => .error .repeatedExtension
  | none => value.map some

/-- A link with one more extension. The six extensions that are understood are given at most
once. -/
def withExtension (unknown : Unknown) (link : Link) (e : Extension) : Except Fault Link :=
  let content := whole .badEncoding (expect .sequence) e.value
  match e.id with
  | [0x55, 0x1d, 15] => do
    let v ← once link.keyUsage (.ok e.value)
    .ok { link with keyUsage := v }
  | [0x55, 0x1d, 17] => do
    let v ← once link.alternativeNames content
    .ok { link with alternativeNames := v }
  | [0x55, 0x1d, 19] => do
    let v ← once link.basicConstraints content
    .ok { link with basicConstraints := v }
  | [0x55, 0x1d, 30] => do
    let v ← once link.nameConstraints content
    .ok { link with nameConstraints := v }
  | [0x55, 0x1d, 31] => do
    let v ← once link.revocationPoints content
    .ok { link with revocationPoints := v }
  | [0x55, 0x1d, 37] => do
    let v ← once link.extendedUsage content
    .ok { link with extendedUsage := v }
  | _ => link.passOver unknown e

/-- The version of a certificate with extensions. -/
def version3 : Reader Unit :=
  nested .context0 .unsupportedVersion do
    let version ← smallNumber
    if version = 2 then pure () else fail .unsupportedVersion

/-- The signed octets, the name of the algorithm and the signature, with the content of the signed
octets. -/
def signedData : Reader (List UInt8 × SignedData) := do
  let (message, content) ← encoded .sequence
  let algorithm ← expect .sequence
  let signature ← bitString
  pure (content, ⟨message, algorithm, signature⟩)

/-- The content of the signed octets. -/
def toBeSigned (unknown : Unknown) (signed : SignedData) : Reader Link := do
  version3
  let _ ← expect .integer
  let algorithm ← expect .sequence
  if algorithm ≠ signed.algorithm then fail .algorithmMismatch
  let issuer ← expect .sequence
  let validity ← expect .sequence
  let subject ← expect .sequence
  let key ← expect .sequence
  let link : Link := ⟨signed, issuer, validity, subject, key, none, none, none, none, none, none⟩
  if ← atEnd then pure link
  else
    nested .context3 (.trailingData .extensions) <|
      sequenceOf (unknown = .passedOver) (.trailingData .extension)
        (fun link => do
          let e ← extension
          match link.withExtension unknown e with
          | .ok link => pure link
          | .error fault => fail fault)
        link

/-- The link of an encoded certificate. -/
def ofDer (unknown : Unknown) (der : List UInt8) : Except Fault Link := do
  let (content, signed) ← whole (.trailingData .certificate)
    (nested .sequence (.trailingData .signedData) signedData) der
  whole (.trailingData .toBeSigned) (toBeSigned unknown signed) content

end Link

/-- A certificate that ends a chain. -/
structure Anchor where
  subject : List UInt8
  key : List UInt8
  nameConstraints : Option (List UInt8)
  deriving DecidableEq, Repr

namespace Anchor

open Reader

/-- The anchor of a certificate without a version, which has no extensions. -/
def plain : Reader Anchor := do
  let anchor ← nested .sequence .badEncoding do
    let _ ← expect .integer
    let _ ← expect .sequence
    let _ ← expect .sequence
    let _ ← expect .sequence
    let subject ← expect .sequence
    let key ← expect .sequence
    pure (⟨subject, key, none⟩ : Anchor)
  let _ ← expect .sequence
  let _ ← expect .bitString
  pure anchor

/-- The anchor of an encoded certificate. -/
def ofDer (unknown : Unknown) (der : List UInt8) : Except Fault Anchor :=
  match Link.ofDer unknown der with
  | .ok link => .ok ⟨link.subject, link.key, link.nameConstraints⟩
  | .error .unsupportedVersion =>
    match whole .badEncoding (nested .sequence .badEncoding plain) der with
    | .ok anchor => .ok anchor
    | .error _ => .error .badEncoding
  | .error fault => .error fault

end Anchor

end WorkloadAuth.Chain
