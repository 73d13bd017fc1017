import WorkloadAuth.Net.Address

/-!
# Networks

An address with the number of leading bits that all addresses of the network share. The other
bits of the address are kept, so that a network is written as it was read.

* `Network`: an address and a prefix length of its family.
* `Network.parse?`, `Network.render`: the text `address/length`. Octets with leading zeros are
  read too, and a gap that stands for no group.
* `Network.contains`: whether an address has the leading bits of a network of its own family.
-/

namespace WorkloadAuth.Net

/-- An address and the number of its leading bits that matter. -/
inductive Network where
  | v4 (address : BitVec 32) (length : Fin 33)
  | v6 (address : BitVec 128) (length : Fin 129)
  deriving DecidableEq, Repr

/-- The freedoms granted to the address of a network. -/
def networkRules : AddressRules := ⟨true, true⟩

/-- A prefix length: decimal digits, at most `width` of them, for a number below `bound`. -/
def prefixLength? (width : Nat) (bound : Nat) (cs : List Char) : Option (Fin bound) :=
  if 1 ≤ cs.length ∧ cs.length ≤ width ∧ cs.all Text.isDigit then
    if h : Text.decimalValue cs < bound then some ⟨Text.decimalValue cs, h⟩ else none
  else none

/-- The network of a text. -/
def Network.ofChars? (cs : List Char) : Option Network :=
  match split '/' cs with
  | [address, length] =>
    match v4Bits? networkRules address with
    | some bits => (prefixLength? 2 33 length).map (.v4 bits)
    | none => do
      let bits ← v6Bits? networkRules address
      (prefixLength? 3 129 length).map (.v6 bits)
  | _ => none

/-- The network of a text. -/
def Network.parse? (s : String) : Option Network := Network.ofChars? s.toList

/-- The text of a network. -/
def Network.render : Network → String
  | .v4 bits length => String.ofList (renderV4 bits ++ '/' :: Text.decimal length)
  | .v6 bits length => String.ofList (renderV6 bits ++ '/' :: Text.decimal length)

/-- Whether two bit vectors agree on their first `length` bits. -/
def sharePrefix {w : Nat} (length : Nat) (a b : BitVec w) : Bool :=
  (a ^^^ b) >>> (w - length) == 0

/-- Whether the network contains an address. Families are not mixed: an IPv4 address lies in no
IPv6 network, nor the other way round. -/
def Network.contains : Network → IpAddress → Bool
  | .v4 bits length, .v4 address => sharePrefix length bits address
  | .v6 bits length, .v6 address => sharePrefix length bits address
  | _, _ => false

end WorkloadAuth.Net
