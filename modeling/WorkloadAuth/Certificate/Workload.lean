import WorkloadAuth.Certificate
import WorkloadAuth.Identity

/-!
# The identity in a certificate

The certificate of an app instance carries its identity: the common name of the subject is the
instance, organizational units with the prefixes `organization:`, `space:` and `app:` carry the
other identifiers, and the only address among the alternative names is the instance's address.

* `ExtractionFault`: why a certificate carries no identity.
* `Certificate.identity`: the identity. Every part of it is given exactly once.
-/

namespace WorkloadAuth

open Net

/-- Why a certificate carries no identity. -/
inductive ExtractionFault where
  | undecodable (fault : CertificateFault)
  /-- A part is given more than once. -/
  | ambiguous (field : IdentityField)
  /-- A part is missing or empty. -/
  | incomplete (field : IdentityField)
  deriving DecidableEq, Repr

namespace Certificate

/-- A part that has not been found before (`set_once`). -/
def once {α : Type} (field : IdentityField) (known : Option α) (value : α) :
    Except ExtractionFault (Option α) :=
  match known with
  | some _ => .error (.ambiguous field)
  | none => .ok (some value)

/-- The text of an attribute. -/
def text (a : Attribute) : Except ExtractionFault String :=
  match a.text? with
  | some s => .ok s
  | none => .error (.undecodable .notText)

/-- The instance that common names tell. -/
def instanceOf (known : Option String) : List Attribute → Except ExtractionFault (Option String)
  | [] => .ok known
  | a :: rest => do
    let value ← text a
    let known ← once .serviceInstance known value
    instanceOf known rest

/-- The identifiers that organizational units tell. -/
structure Units where
  org : Option String := none
  space : Option String := none
  app : Option String := none
  deriving DecidableEq, Repr

/-- What follows a prefix of a text. -/
def afterPrefix? (start : String) (s : String) : Option String :=
  if start.toList.isPrefixOf s.toList then some (String.ofList (s.toList.drop start.toList.length))
  else none

/-- The identifiers with one more unit. Units with other prefixes tell nothing. -/
def Units.add (units : Units) (unit : String) : Except ExtractionFault Units :=
  match afterPrefix? "organization:" unit, afterPrefix? "space:" unit, afterPrefix? "app:" unit with
  | some id, _, _ => do
    let org ← once .org units.org id
    .ok { units with org := org }
  | none, some id, _ => do
    let space ← once .space units.space id
    .ok { units with space := space }
  | none, none, some id => do
    let app ← once .app units.app id
    .ok { units with app := app }
  | none, none, none => .ok units

/-- The identifiers that organizational units tell. -/
def unitsOf (units : Units) : List Attribute → Except ExtractionFault Units
  | [] => .ok units
  | a :: rest => do
    let value ← text a
    let units ← units.add value
    unitsOf units rest

/-- The address that alternative names tell. -/
def addressOf (known : Option IpAddress) :
    List AlternativeName → Except ExtractionFault (Option IpAddress)
  | [] => .ok known
  | .other :: rest => addressOf known rest
  | .address octets :: rest =>
    match IpAddress.ofBytes? octets with
    | none => .error (.undecodable (.addressLength octets.length))
    | some address => do
      let known ← once .address known address
      addressOf known rest

/-- The identity that a certificate carries by what it says. -/
def Inspected.identity (inspected : Inspected) : Except ExtractionFault Identity := do
  let instanceId ← instanceOf none (inspected.subject.ofKind Attribute.commonName)
  let units ← unitsOf {} (inspected.subject.ofKind Attribute.organizationalUnit)
  let names ← inspected.alternativeNames.mapError (.undecodable ∘ .extension)
  match ← addressOf none (names.getD []) with
  | none => .error (.incomplete .address)
  | some address =>
    (Identity.make (instanceId.getD "") (units.org.getD "") (units.space.getD "")
      (units.app.getD "") address).mapError .incomplete

/-- The identity that a certificate carries (`extract_identity`). -/
def identity (c : Certificate) : Except ExtractionFault Identity := do
  let inspected ← c.inspect.mapError .undecodable
  inspected.identity

end Certificate

end WorkloadAuth
