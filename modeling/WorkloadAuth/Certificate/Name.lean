import WorkloadAuth.Certificate.Element
import WorkloadAuth.Certificate.ObjectId
import WorkloadAuth.Text.Hex
import WorkloadAuth.Text.Utf8

/-!
# Distinguished names

The name of a certificate's subject or issuer: a list of parts, each a set of attributes.

* `Attribute`, `Name`: attributes and names.
* `Attribute.text?`: the text of an attribute's value, where it is a string.
* `Name.values`: the values of all attributes of a kind, in order.
* `Name.next?`: the name at the start of some octets.
* `Name.render?`: the text of a name, in which attributes are called by short names.
-/

namespace WorkloadAuth.Certificate

/-- An attribute of a name: an object identifier and a value. -/
structure Attribute where
  id : List UInt8
  value : Element
  deriving DecidableEq, Repr

/-- A name. -/
abbrev Name := List (List Attribute)

namespace Attribute

/-- The tags of strings that are shown as text, other than those of sixteen bits. -/
def narrowTags : List Nat :=
  [Tag.numericString, Tag.visibleString, Tag.printableString, Tag.generalString,
    Tag.objectDescriptor, Tag.graphicString, Tag.teletexString, Tag.videotexString, Tag.utf8String,
    Tag.ia5String]

/-- The tags of strings that carry text. -/
def textTags : List Nat :=
  [Tag.numericString, Tag.printableString, Tag.utf8String, Tag.ia5String]

/-- The text of a value. Strings of all kinds are read as UTF-8. -/
def text? (a : Attribute) : Option String :=
  if textTags.contains a.value.tag then (Text.Utf8.decode? a.value.content).map String.ofList
  else none

/-- The characters of units of sixteen bits. -/
def ofUnits? : List Nat → Option (List Char)
  | [] => some []
  | unit :: rest =>
    if 0xd800 ≤ unit ∧ unit < 0xdc00 then
      match rest with
      | low :: rest =>
        if 0xdc00 ≤ low ∧ low < 0xe000 then
          (ofUnits? rest).map (Char.ofNat (0x10000 + (unit - 0xd800) * 1024 + (low - 0xdc00)) :: ·)
        else none
      | [] => none
    else if 0xdc00 ≤ unit ∧ unit < 0xe000 then none
    else (ofUnits? rest).map (Char.ofNat unit :: ·)

/-- The units of sixteen bits of some octets. A last octet without another one is a unit too. -/
def units : List UInt8 → List Nat
  | [] => []
  | [a] => [a.toNat]
  | a :: b :: rest => (a.toNat * 256 + b.toNat) :: units rest

/-- A value as it is shown: strings as their text, other values as hexadecimal digits. -/
def shown? (a : Attribute) : Option (List Char) :=
  if narrowTags.contains a.value.tag then Text.Utf8.decode? a.value.content
  else if a.value.tag = Tag.bmpString then ofUnits? (units a.value.content)
  else some (Text.hexUpperOfBytes a.value.content)

/-- The attribute at the start of some octets. -/
def next? (bytes : List UInt8) : Option (Attribute × List UInt8) := do
  let (e, rest) ← Element.expect? Tag.sequence bytes
  let (id, value) ← Element.objectId? e.content
  let (value, _) ← Element.next? value
  some (⟨id, value⟩, rest)

/-- The identifier of the common name. -/
def commonName : List UInt8 := [0x55, 0x04, 0x03]

/-- The identifier of organizational units. -/
def organizationalUnit : List UInt8 := [0x55, 0x04, 0x0b]

/-- What an attribute is called. -/
def label (a : Attribute) : List Char :=
  match ObjectId.shortName? a.id with
  | some name => name.toList
  | none => "OID(".toList ++ ObjectId.text a.id ++ [')']

/-- The text of an attribute. -/
def render? (a : Attribute) : Option (List Char) :=
  (a.shown?).map fun value => a.label ++ '=' :: value

end Attribute

namespace Name

/-- The part at the start of some octets: a set that starts with an attribute. -/
def nextPart? (bytes : List UInt8) : Option (List Attribute × List UInt8) := do
  let (e, rest) ← Element.expect? Tag.set bytes
  match (Element.all Attribute.next? e.content.length e.content).1 with
  | [] => none
  | attributes => some (attributes, rest)

/-- The name at the start of some octets. It ends at the first part that cannot be read. -/
def next? (bytes : List UInt8) : Option (Name × List UInt8) := do
  let (e, rest) ← Element.expect? Tag.sequence bytes
  some ((Element.all nextPart? e.content.length e.content).1, rest)

/-- The attributes of one kind, in order. -/
def ofKind (name : Name) (id : List UInt8) : List Attribute :=
  name.flatten.filter (fun a => a.id == id)

/-- The text of a name: its parts with commas between them, where the attributes of one part have a
plus between them. Nothing, if a value is no valid text. -/
def render? (name : Name) : Option String := do
  let parts ← name.mapM fun part => do
    let attributes ← part.mapM Attribute.render?
    some (" + ".toList.intercalate attributes)
  some (String.ofList (", ".toList.intercalate (parts)))

end Name

end WorkloadAuth.Certificate
