import WorkloadAuth.Chain.Fault

/-!
# Distinguished encoding

Elements of a tag, a length and a content, as they have to be encoded in a certificate that is
part of a chain: tags of one octet, and lengths below 65535 in as few octets as possible.

* `Reader`: takes what it needs from the start of some octets and leaves the rest.
* `element`, `expect`, `nested`, `whole`: elements of any tag or of a given one, and the contents
  of elements, of which nothing may be left.
* `flag`, `smallNumber`, `bitString`, `sequenceOf`: elements of some kinds.
-/

namespace WorkloadAuth.Chain

/-- A reader takes its value from the start of some octets and leaves the rest. -/
abbrev Reader (α : Type) := StateT (List UInt8) (Except Fault) α

/-- The tags of the elements that occur in certificates. -/
inductive Tag where
  | boolean
  | integer
  | bitString
  | octetString
  | objectId
  | utcTime
  | generalizedTime
  | sequence
  /-- The tag with number 0 in the surrounding element; its content has elements of its own. -/
  | context0
  /-- The same with number 1. -/
  | context1
  /-- The same with number 3. -/
  | context3
  deriving DecidableEq, Repr

/-- The octet of a tag. -/
def Tag.octet : Tag → UInt8
  | boolean => 0x01
  | integer => 0x02
  | bitString => 0x03
  | octetString => 0x04
  | objectId => 0x06
  | utcTime => 0x17
  | generalizedTime => 0x18
  | sequence => 0x30
  | context0 => 0xa0
  | context1 => 0xa1
  | context3 => 0xa3

namespace Reader

/-- Fails for a cause. -/
def fail {α : Type} (f : Fault) : Reader α := fun _ => .error f

/-- Whether nothing is left. -/
def atEnd : Reader Bool := fun bytes => .ok (bytes.isEmpty, bytes)

/-- Whether the next octet is the tag of an element. -/
def startsWith (tag : Tag) : Reader Bool := fun bytes =>
  .ok (bytes.head? == some tag.octet, bytes)

/-- The octets that are left. -/
def remainder : Reader (List UInt8) := fun bytes => .ok (bytes, [])

/-- The length at the start of some octets, and what follows it. -/
def length? : List UInt8 → Option (Nat × List UInt8)
  | [] => none
  | n :: rest =>
    if n < 0x80 then some (n.toNat, rest)
    else if n = 0x81 then
      match rest with
      | a :: rest => if a < 0x80 then none else some (a.toNat, rest)
      | [] => none
    else if n = 0x82 then
      match rest with
      | a :: b :: rest =>
        let size := a.toNat * 256 + b.toNat
        if size < 0x100 ∨ 0xffff ≤ size then none else some (size, rest)
      | _ => none
    else none

/-- The tag and the content of the element at the start of some octets, and what follows it. -/
def element? : List UInt8 → Option ((UInt8 × List UInt8) × List UInt8)
  | [] => none
  | tag :: rest =>
    if tag &&& 0x1f = 0x1f then none
    else
      match length? rest with
      | some (size, rest) =>
        if size ≤ rest.length then some ((tag, rest.take size), rest.drop size) else none
      | none => none

/-- The next element: its tag and its content. -/
def element : Reader (UInt8 × List UInt8) := fun bytes =>
  match element? bytes with
  | some found => .ok found
  | none => .error .badEncoding

/-- The content of the next element, which has a given tag. -/
def expect (tag : Tag) : Reader (List UInt8) := do
  let (found, content) ← element
  if found = tag.octet then pure content else fail .badEncoding

/-- Reads octets of which nothing may be left. -/
def whole {α : Type} (leftover : Fault) (reader : Reader α) (bytes : List UInt8) :
    Except Fault α := do
  let (a, rest) ← reader bytes
  if rest.isEmpty then .ok a else .error leftover

/-- Reads the content of the next element. That element is missing, or octets are left of it, for
one and the same cause. -/
def nested {α : Type} (tag : Tag) (fault : Fault) (reader : Reader α) : Reader α := fun bytes =>
  match expect tag bytes with
  | .error _ => .error fault
  | .ok (content, rest) => do
    let a ← whole fault reader content
    .ok (a, rest)

/-- The next element as it is encoded, with its content. -/
def encoded (tag : Tag) : Reader (List UInt8 × List UInt8) := do
  let bytes ← get
  let content ← expect tag
  let rest ← get
  pure (bytes.take (bytes.length - rest.length), content)

/-- A truth value that may be left out. -/
def flag : Reader Bool := do
  if ← startsWith .boolean then
    nested .boolean (.trailingData .flag) fun
      | 0xff :: rest => .ok (true, rest)
      | 0x00 :: rest => .ok (false, rest)
      | _ => .error .badEncoding
  else pure false

/-- A number below 256. -/
def smallNumber : Reader Nat := do
  match ← expect .integer with
  | [n] => if n < 0x80 then pure n.toNat else fail .badEncoding
  | [0, n] => if n < 0x80 then fail .badEncoding else pure n.toNat
  | _ => fail .badEncoding

/-- The octets of a bit string without unused bits. -/
def bitString : Reader (List UInt8) :=
  nested .bitString (.trailingData .bitString) fun
    | 0x00 :: rest => .ok (rest, [])
    | _ => .error .badEncoding

/-- Folds sequences up to the end of the octets; `fuel` bounds their number. -/
def sequencesFrom {σ : Type} (fault : Fault) (step : σ → Reader σ) : Nat → σ → Reader σ
  | 0, _ => fail fault
  | fuel + 1, state => do
    let state ← nested .sequence fault (step state)
    if ← atEnd then pure state else sequencesFrom fault step fuel state

/-- Folds the sequences inside of a sequence. Unless it may be empty, there is at least one. -/
def sequenceOf {σ : Type} (mayBeEmpty : Bool) (fault : Fault) (step : σ → Reader σ) (state : σ) :
    Reader σ :=
  nested .sequence fault do
    let bytes ← get
    if mayBeEmpty && bytes.isEmpty then pure state
    else sequencesFrom fault step bytes.length state

end Reader

end WorkloadAuth.Chain
