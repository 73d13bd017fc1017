import WorkloadAuth.Chain.Budget
import WorkloadAuth.Chain.Certificate

/-!
# Name constraints

An issuer may restrict the names that certificates below it carry: their alternative names, and
their subject as a directory name. Every name has to lie in one of the permitted subtrees of its
own kind, if there are any, and in none of the excluded ones.

* `GeneralName`: the kinds of names.
* `Dns.isName`, `Dns.isConstraint`, `Dns.within`: names of hosts and subtrees of them.
* `Address.within`: addresses and networks.
* `GeneralName.within`: how a name relates to a subtree.
* `checkNames`: applies the constraints of an issuer to the certificates below it.
-/

namespace WorkloadAuth.Chain

/-- A name in a certificate or a subtree of a constraint. -/
inductive GeneralName where
  | dns (name : List UInt8)
  | directory
  | address (octets : List UInt8)
  | uri
  /-- A name of a kind that cannot be compared. -/
  | other (tag : UInt8)
  deriving DecidableEq, Repr

/-- The next name. -/
def generalName : Reader GeneralName := do
  let (tag, content) ← Reader.element
  if tag = 0x82 then pure (.dns content)
  else if tag = 0xa4 then pure .directory
  else if tag = 0x87 then pure (.address content)
  else if tag = 0x86 then pure .uri
  else if tag ∈ [0xa0, 0x81, 0xa3, 0xa5, 0x88] then pure (.other (tag &&& 0x1f))
  else Reader.fail .badEncoding

/-! ## Host names -/

namespace Dns

/-- A label without its dots. -/
abbrev Label := List UInt8

/-- The labels of a name. -/
def labels (name : List UInt8) : List Label := name.splitOnP (· == 0x2e)

/-- Whether an octet is a decimal digit. -/
def isDigit (b : UInt8) : Bool := 0x30 ≤ b && b ≤ 0x39

/-- Whether an octet may stand in a label. -/
def isLabelOctet (b : UInt8) : Bool :=
  b == 0x2d || isDigit b || (0x61 ≤ b && b ≤ 0x7a) || (0x41 ≤ b && b ≤ 0x5a) || b == 0x5f

/-- A label has 1 to 63 letters, digits, hyphens and underscores, and no hyphen at its ends. -/
def isLabel (l : Label) : Bool :=
  !l.isEmpty && l.length ≤ 63 && l.all isLabelOctet && l.head? != some 0x2d &&
    l.getLast? != some 0x2d

/-- Some labels make a name: there is one, and the last is not a number. -/
def areLabels (ls : List Label) : Bool :=
  !ls.isEmpty && ls.all isLabel && !(ls.getLast?.any fun l => l.all isDigit)

/-- The longest name. -/
def maxLength : Nat := 253

/-- Whether octets are the name of a host. The first label may be a lone asterisk if two others
follow. -/
def isName (name : List UInt8) : Bool :=
  name.length ≤ maxLength &&
    match labels name with
    | [0x2a] :: ls => areLabels ls && 2 ≤ ls.length
    | ls => areLabels ls

/-- Whether octets are a subtree of host names: a name, or one after a dot, or nothing. -/
def isConstraint (name : List UInt8) : Bool :=
  name.length ≤ maxLength &&
    match labels name with
    | [[]] => true
    | [] :: ls => areLabels ls
    | ls => areLabels ls

/-- An octet with its letter in lower case. -/
def lower (b : UInt8) : UInt8 := if 0x41 ≤ b && b ≤ 0x5a then b + 0x20 else b

/-- Whether a name equals another one, where a first asterisk stands for one label. -/
def sameName (name other : List UInt8) : Bool :=
  match name with
  | 0x2a :: rest =>
    match other with
    | [] => false
    | _ :: more => (more.dropWhile (· != 0x2e)).map lower == rest.map lower
  | _ => name.map lower == other.map lower

/-- Whether a name lies in a subtree. A subtree that starts with a dot holds the names that end with
it; any other one holds its own name and those that end with a dot and it. -/
def inSubtree (name subtree : List UInt8) : Bool :=
  if subtree.length < name.length then
    if subtree.isEmpty then true
    else if subtree.head? = some 0x2e then
      sameName (name.drop (name.length - subtree.length)) subtree
    else
      let tail := name.drop (name.length - subtree.length - 1)
      tail.head? == some 0x2e && sameName tail.tail subtree
  else sameName name subtree

/-- Whether a name lies in a subtree, if both are well formed. -/
def within (name subtree : List UInt8) : Except Fault Bool :=
  if !isName name then .error .malformedDnsName
  else if !isConstraint subtree then .error .malformedDnsConstraint
  else .ok (inSubtree name subtree)

end Dns

/-! ## Addresses -/

namespace Address

/-- The number of leading ones of an octet of a mask: ones with only zeros after them. -/
def maskOctet? (b : UInt8) : Option Nat :=
  [0x00, 0x80, 0xc0, 0xe0, 0xf0, 0xf8, 0xfc, 0xfe, 0xff].findIdx? (· == b)

/-- Compares an address with a network octet by octet. A mask is found ill-formed only where the
octets before agree. -/
def compare (open? : Bool) : List (UInt8 × UInt8 × UInt8) → Except Fault Bool
  | [] => .ok true
  | (octet, network, mask) :: rest =>
    if (maskOctet? mask).isNone || (!open? && mask != 0) then .error .badNetworkMask
    else if (octet ^^^ network) &&& mask ≠ 0 then .ok false
    else compare (open? && mask == 0xff) rest

/-- Whether an address lies in a network, which is an address followed by a mask. Addresses of one
family lie in no network of the other. -/
def within (address network : List UInt8) : Except Fault Bool :=
  let size := address.length
  if size = 4 ∨ size = 16 then
    if network.length = 2 * size then
      compare true (address.zip ((network.take size).zip (network.drop size)))
    else if network.length = 8 ∨ network.length = 32 then .ok false
    else .error .badNetworkMask
  else .error .badEncoding

end Address

/-! ## Names and subtrees -/

/-- Whether a name lies in a subtree of its own kind; nothing for one of another kind. Directory
names cannot be compared: they lie in no permitted subtree and in every excluded one. -/
def GeneralName.within (permitted : Bool) : GeneralName → GeneralName → Except Fault (Option Bool)
  | .dns name, .dns subtree => (Dns.within name subtree).map some
  | .directory, .directory => .ok (some (!permitted))
  | .address octets, .address network => (Address.within octets network).map some
  | .other tag, .other subtree =>
    if tag = subtree then .error .nameConstraintViolation else .ok none
  | _, _ => .ok none

/-- What a reader finds in some octets, up to the first fault; `fuel` bounds the count. -/
def items {α : Type} (reader : Reader α) : Nat → List UInt8 → List (Except Fault α)
  | 0, _ => []
  | _ + 1, [] => []
  | fuel + 1, bytes =>
    match reader bytes with
    | .ok (a, rest) => .ok a :: items reader fuel rest
    | .error fault => [.error fault]

/-- The next subtree. -/
def subtree : Reader GeneralName := do
  let content ← Reader.expect .sequence
  match Reader.whole (.trailingData .generalName) generalName content with
  | .ok name => pure name
  | .error fault => Reader.fail fault

/-- The subtrees of a constraint, up to the first fault. -/
def subtrees (bytes : List UInt8) : List (Except Fault GeneralName) :=
  items subtree bytes.length bytes

/-- The names of a certificate: its alternative names, up to the first fault, and its subject. -/
def Link.names (link : Link) : List (Except Fault GeneralName) :=
  let alternative := link.alternativeNames.getD []
  items generalName alternative.length alternative ++ [.ok .directory]

/-! ## Checks -/

/-- Checks a name against permitted subtrees: if some are of its kind, it lies in one of them. -/
def checkPermitted (name : GeneralName) :
    List (Except Fault GeneralName) → (inside outside : Bool) → Search Unit
  | [], inside, outside => if outside && !inside then throw .nameConstraintViolation else pure ()
  | base :: more, inside, outside => do
    spendComparison
    let base ← ofExcept base
    match ← ofExcept (name.within true base) with
    | none => checkPermitted name more inside outside
    | some true => checkPermitted name more true outside
    | some false => checkPermitted name more inside true

/-- Checks a name against excluded subtrees: it lies in none of them. -/
def checkExcluded (name : GeneralName) : List (Except Fault GeneralName) → Search Unit
  | [] => pure ()
  | base :: more => do
    spendComparison
    let base ← ofExcept base
    match ← ofExcept (name.within false base) with
    | some true => throw .nameConstraintViolation
    | _ => checkExcluded name more

/-- The permitted and the excluded subtrees of an issuer. -/
def constraintParts : Reader (Option (List UInt8) × Option (List UInt8)) := do
  let part? (tag : Tag) : Reader (Option (List UInt8)) := do
    if ← Reader.startsWith tag then pure (some (← Reader.expect tag)) else pure none
  let permitted ← part? .context0
  let excluded ← part? .context1
  pure (permitted, excluded)

/-- Applies the constraints of an issuer to some certificates. -/
def checkNames (constraints : List UInt8) (links : List Link) : Search Unit := do
  let ((permitted, excluded), rest) ← ofExcept (constraintParts constraints)
  let permitted := subtrees (permitted.getD [])
  let excluded := subtrees (excluded.getD [])
  for link in links do
    for name in link.names do
      let name ← ofExcept name
      checkPermitted name permitted false false
      checkExcluded name excluded
  if rest.isEmpty then pure () else throw .badEncoding

end WorkloadAuth.Chain
