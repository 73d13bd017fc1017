/-!
# Encoded elements

Elements of a tag, a length and a content, as they are read where a certificate is inspected. The
tag may take several octets, and the length more octets than it needs.

* `Element`: the tag and the content of an element.
* `Element.header?`: the tag and the length at the start of some octets.
* `Element.next?`: the element at the start of some octets, and what follows it.
* `Element.expect?`: the same for an element with a given tag.
* `Element.all`: the elements that a reader finds, up to the first that it does not read.
* `Element.afterEndMark?`: what follows an element of unknown length.
-/

namespace WorkloadAuth.Certificate

/-- An element. -/
structure Element where
  /-- The class of the tag: universal, application, context or private. -/
  tagClass : Nat
  /-- Whether the content is made of elements. -/
  constructed : Bool
  tag : Nat
  content : List UInt8
  deriving DecidableEq, Repr

/-- What stands in front of the content of an element. -/
structure Header where
  tagClass : Nat
  constructed : Bool
  tag : Nat
  /-- How many octets the content has. -/
  size : Nat
  deriving DecidableEq, Repr

/-! ## Tags -/

namespace Tag

def boolean : Nat := 1
def integer : Nat := 2
def bitString : Nat := 3
def octetString : Nat := 4
def objectDescriptor : Nat := 7
def utf8String : Nat := 12
def sequence : Nat := 16
def set : Nat := 17
def numericString : Nat := 18
def printableString : Nat := 19
def teletexString : Nat := 20
def videotexString : Nat := 21
def ia5String : Nat := 22
def utcTime : Nat := 23
def generalizedTime : Nat := 24
def graphicString : Nat := 25
def visibleString : Nat := 26
def generalString : Nat := 27
def bmpString : Nat := 30

end Tag

/-! ## Elements -/

namespace Element

/-- The rest of a tag of several octets, at most `fuel` of them; `tag` is its value so far. -/
def longTag? : (fuel : Nat) → (tag : Nat) → List UInt8 → Option (Nat × List UInt8)
  | 0, _, _ => none
  | _ + 1, _, [] => none
  | fuel + 1, tag, b :: rest =>
    let tag := (tag * 128 + b.toNat % 128) % UInt32.size
    if b < 0x80 then some (tag, rest) else longTag? fuel tag rest

/-- The length at the start of some octets, and what follows it. -/
def length? : List UInt8 → Option (Nat × List UInt8)
  | [] => none
  | n :: rest =>
    if n < 0x80 then some (n.toNat, rest)
    else
      let size := n.toNat - 0x80
      if size = 0 ∨ size = 0x7f ∨ rest.length < size then none
      else
        let value := (rest.take size).foldl (fun v b => v * 256 + b.toNat) 0
        if value < UInt64.size then some (value, rest.drop size) else none

/-- The tag at the start of some octets: its class, whether the content is made of elements, and its
number; and what follows it. -/
def tag? : List UInt8 → Option ((Nat × Bool × Nat) × List UInt8)
  | [] => none
  | b :: rest => do
    let low := b.toNat % 32
    let (number, rest) ← if low = 31 then longTag? 5 0 rest else some (low, rest)
    some ((b.toNat / 64, b.toNat / 32 % 2 = 1, number), rest)

/-- The tag and the length at the start of some octets, and what follows them. -/
def header? (bytes : List UInt8) : Option (Header × List UInt8) := do
  let ((tagClass, constructed, tag), rest) ← tag? bytes
  let (size, rest) ← length? rest
  some (⟨tagClass, constructed, tag, size⟩, rest)

/-- The element at the start of some octets, and what follows it. -/
def next? (bytes : List UInt8) : Option (Element × List UInt8) := do
  let (h, rest) ← header? bytes
  if h.size ≤ rest.length then
    some (⟨h.tagClass, h.constructed, h.tag, rest.take h.size⟩, rest.drop h.size)
  else none

/-- The element at the start of some octets, if it has a given tag. -/
def expect? (tag : Nat) (bytes : List UInt8) : Option (Element × List UInt8) :=
  match next? bytes with
  | some (e, rest) => if e.tag = tag then some (e, rest) else none
  | none => none

/-- The elements that a reader finds, up to the first that it does not read, and what is left from
there on; `fuel` bounds their number. -/
def all {α : Type} (read : List UInt8 → Option (α × List UInt8)) :
    (fuel : Nat) → List UInt8 → List α × List UInt8
  | 0, bytes => ([], bytes)
  | fuel + 1, bytes =>
    match read bytes with
    | none => ([], bytes)
    | some (a, rest) =>
      let (more, rest) := all read fuel rest
      (a :: more, rest)

/-- The elements of some octets, of which a reader has to read all. -/
def allOf? {α : Type} (read : List UInt8 → Option (α × List UInt8)) (bytes : List UInt8) :
    Option (List α) :=
  let (items, rest) := all read bytes.length bytes
  if rest.isEmpty then some items else none

/-- An object identifier: an element of any tag that is not made of elements. -/
def objectId? (bytes : List UInt8) : Option (List UInt8 × List UInt8) :=
  match next? bytes with
  | some (e, rest) => if e.constructed then none else some (e.content, rest)
  | none => none

/-- The octets of a bit string, by its content; the number of its octets and of its unused bits have
to fit together, and the unused bits are zero. -/
def bits? (e : Element) : Option (List UInt8) :=
  if e.constructed then none
  else
    match e.content with
    | [] => none
    | [unused] => if unused = 0 then some [] else none
    | unused :: octets =>
      let last := (octets.getLast?.getD 0).toNat
      if unused ≤ 8 ∧ last % (1 <<< unused.toNat) = 0 then some octets else none

/-- A bit string. -/
def bitString? (bytes : List UInt8) : Option (List UInt8 × List UInt8) := do
  let (e, rest) ← expect? Tag.bitString bytes
  let octets ← e.bits?
  some (octets, rest)

/-! ## Elements of unknown length -/

/-- The number of the tag of an element of unknown length, which is made of elements and ends with a
mark; and what follows its header. -/
def openTag? (bytes : List UInt8) : Option (Nat × List UInt8) := do
  let ((_, constructed, tag), rest) ← tag? bytes
  match rest with
  | 0x80 :: rest => if constructed then some (tag, rest) else none
  | _ => none

/-- How deep elements may be nested in one of unknown length. -/
def maxDepth : Nat := 49

/-- What follows the content of an element of unknown length: elements up to an empty one with the
number 0. They may be nested as deep as `depth` allows; `fuel` bounds their number. -/
def afterEndMark? : (depth fuel : Nat) → List UInt8 → Option (List UInt8)
  | 0, _, _ => none
  | _, 0, _ => none
  | depth + 1, fuel + 1, bytes =>
    match openTag? bytes with
    | some (_, rest) => do afterEndMark? (depth + 1) fuel (← afterEndMark? depth fuel rest)
    | none => do
      let (h, rest) ← header? bytes
      if h.tag = 0 ∧ h.size = 0 then some rest
      else if h.size ≤ rest.length then afterEndMark? (depth + 1) fuel (rest.drop h.size)
      else none

end Element

end WorkloadAuth.Certificate
