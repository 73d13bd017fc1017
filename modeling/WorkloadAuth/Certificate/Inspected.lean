import WorkloadAuth.Certificate.Name
import WorkloadAuth.Certificate.Time

/-!
# Inspected certificates

What a certificate says about its subject. It is read leniently: octets behind the parts that are
looked for are passed over, and the content of an extension is only read when it is asked for.

* `Inspected`: the subject, the validity and the extensions of a certificate.
* `Inspected.next?`: the certificate at the start of some octets, and what follows it.
* `Inspected.alternativeNames`, `Inspected.usages`: the extensions that are looked at.
* `ExtensionFault`: why an extension cannot be used.
-/

namespace WorkloadAuth.Certificate

open Calendar

/-- An extension. -/
structure Extension where
  id : List UInt8
  value : List UInt8
  deriving DecidableEq, Repr

/-- Why an extension cannot be used. -/
inductive ExtensionFault where
  /-- It is given more than once. -/
  | repeated
  /-- Its content has another form. -/
  | unreadable
  deriving DecidableEq, Repr

/-- An alternative name of a subject. -/
inductive AlternativeName where
  | address (octets : List UInt8)
  | other
  deriving DecidableEq, Repr

/-- The parts of a certificate that are looked at. -/
structure Inspected where
  subject : Name
  notBefore : Moment
  notAfter : Moment
  extensions : List Extension
  deriving Repr

namespace Inspected

/-! ## Parts -/

/-- The name of an algorithm: an object identifier, after which an element of any kind may stand. It
is missing if not even its length can be read. -/
def algorithm? (bytes : List UInt8) : Option (Unit × List UInt8) := do
  let (e, rest) ← Element.expect? Tag.sequence bytes
  let (_, parameters) ← Element.objectId? e.content
  match Element.header? parameters with
  | none => some ((), rest)
  | some _ => (Element.next? parameters).map fun _ => ((), rest)

/-- A whole number that fits into 32 bits, in as few octets as it needs. -/
def isWord (e : Element) : Bool :=
  e.tag == Tag.integer && !e.constructed &&
    match e.content with
    | [] => false
    | [a] => a < 0x80
    | a :: b :: rest =>
      if a = 0 then 0x80 ≤ b && rest.length ≤ 3 else a < 0x80 && rest.length ≤ 2

/-- What follows the version, which may be any number and may be left out. -/
def afterVersion? (bytes : List UInt8) : Option (List UInt8) :=
  match Element.next? bytes with
  | none => none
  | some (e, rest) =>
    if e.tag ≠ 0 then some bytes
    else if e.tagClass ≠ 2 then none
    else
      match Element.next? e.content with
      | some (version, _) => if isWord version then some rest else none
      | none => none

/-- What follows the serial number. Its length may be unknown. -/
def afterSerial? (bytes : List UInt8) : Option (List UInt8) :=
  match Element.openTag? bytes with
  | some (tag, rest) =>
    if tag = Tag.integer then Element.afterEndMark? Element.maxDepth rest.length rest else none
  | none => (Element.expect? Tag.integer bytes).map (·.2)

/-- What follows an identifier of the issuer or the subject, which may be left out. It is there if
its tag and its length can be read. -/
def afterUniqueId? (tag : Nat) (bytes : List UInt8) : Option (List UInt8) :=
  match Element.header? bytes with
  | none => some bytes
  | some (h, _) =>
    if h.tag = tag then do
      let (e, rest) ← Element.next? bytes
      let _ ← e.bits?
      if e.tagClass = 2 then some rest else none
    else some bytes

/-- The extension at the start of some octets. -/
def extension? (bytes : List UInt8) : Option (Extension × List UInt8) := do
  let (e, rest) ← Element.expect? Tag.sequence bytes
  let (id, content) ← Element.objectId? e.content
  let content := match Element.expect? Tag.boolean content with
    | some (flag, after) => if flag.content.length = 1 then after else content
    | none => content
  let (value, _) ← Element.expect? Tag.octetString content
  if value.constructed then none else some (⟨id, value.content⟩, rest)

/-- The extensions at the end of a certificate: a sequence behind a tag and a length, of which only
the number of the tag counts. -/
def extensions? (bytes : List UInt8) : Option (List Extension) :=
  if bytes.isEmpty then some []
  else do
    let (h, inner) ← Element.header? bytes
    let (e, rest) ← Element.expect? Tag.sequence inner
    if h.tag = 3 ∧ rest.isEmpty then Element.allOf? extension? e.content else none

/-- The content of the signed octets. -/
def toBeSigned? (bytes : List UInt8) : Option Inspected := do
  let bytes ← afterVersion? bytes
  let bytes ← afterSerial? bytes
  let (_, bytes) ← algorithm? bytes
  let (_, bytes) ← Name.next? bytes
  let (validity, bytes) ← Element.expect? Tag.sequence bytes
  let (notBefore, after) ← timeAt? validity.content
  let (notAfter, _) ← timeAt? after
  let (subject, bytes) ← Name.next? bytes
  let (keyInfo, bytes) ← Element.expect? Tag.sequence bytes
  let (_, key) ← algorithm? keyInfo.content
  let _ ← Element.bitString? key
  let bytes ← afterUniqueId? 1 bytes
  let bytes ← afterUniqueId? 2 bytes
  let extensions ← extensions? bytes
  some ⟨subject, notBefore, notAfter, extensions⟩

/-- The certificate at the start of some octets, and what follows it. -/
def next? (bytes : List UInt8) : Option (Inspected × List UInt8) := do
  let (e, rest) ← Element.expect? Tag.sequence bytes
  let (signed, after) ← Element.expect? Tag.sequence e.content
  let inspected ← toBeSigned? signed.content
  let (_, after) ← algorithm? after
  let _ ← Element.bitString? after
  some (inspected, rest)

/-! ## Extensions -/

/-- An alternative name, as an element of the context class. -/
def alternativeName? (bytes : List UInt8) : Option (AlternativeName × List UInt8) := do
  let (e, rest) ← Element.next? bytes
  if e.tagClass ≠ 2 then none
  match e.tag with
  | 0 => do
    let _ ← Element.objectId? e.content
    some (.other, rest)
  | 1 | 2 | 6 => do
    let _ ← Text.Utf8.decode? e.content
    some (.other, rest)
  | 3 | 5 | 8 => some (.other, rest)
  | 4 => do
    let (_, after) ← Name.next? e.content
    if after.isEmpty then some (.other, rest) else none
  | 7 => some (.address e.content, rest)
  | _ => none

/-- The identifier of the alternative names. -/
def alternativeNamesId : List UInt8 := [0x55, 0x1d, 0x11]

/-- The identifier of the usages. -/
def usagesId : List UInt8 := [0x55, 0x1d, 0x25]

/-- The content of the extension with an identifier, of which there may be only one, by a reader. -/
def only {α : Type} (certificate : Inspected) (id : List UInt8)
    (read : List UInt8 → Option α) : Except ExtensionFault (Option α) :=
  match certificate.extensions.filter (fun e => e.id == id) with
  | [] => .ok none
  | [e] =>
    match read e.value with
    | some a => .ok (some a)
    | none => .error .unreadable
  | _ => .error .repeated

/-- The alternative names, if there are any. All of them have to be readable. -/
def alternativeNames (certificate : Inspected) :
    Except ExtensionFault (Option (List AlternativeName)) :=
  certificate.only alternativeNamesId fun value => do
    let (e, _) ← Element.expect? Tag.sequence value
    Element.allOf? alternativeName? e.content

/-- The identifiers of the usages, if they are restricted. All of them have to be readable. -/
def usages (certificate : Inspected) : Except ExtensionFault (Option (List (List UInt8))) :=
  certificate.only usagesId fun value => do
    let (e, _) ← Element.expect? Tag.sequence value
    Element.allOf? Element.objectId? e.content

end Inspected

end WorkloadAuth.Certificate
