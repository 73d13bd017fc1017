import WorkloadAuth.Http.Percent
import WorkloadAuth.Idna.Domain
import WorkloadAuth.Net.Address

/-!
# Hosts

What a URL names behind `//`: an address, or a name.

* `Host`: a host.
* `Host.parse?`: the host of a text, in a URL whose scheme is special or not. A special URL names a
  domain in any script, or an IPv4 address in one of its many notations.
* `Host.render`: the text of a host.
-/

namespace WorkloadAuth.Http

open Net

/-- A host. -/
inductive Host where
  | address (a : IpAddress)
  | named (name : List Char)
  deriving DecidableEq, Repr

namespace Host

/-! ## IPv4 notations -/

/-- The number that a text of digits writes in a base; the empty text writes zero. -/
def digits? (base : Nat) (cs : List Char) : Option Nat := do
  let values ← cs.mapM Text.hexValue?
  if values.all (· < base) then some (positional base values) else none

/-- A part of an IPv4 notation: hexadecimal behind `0x`, octal behind `0`, or decimal. -/
def number? : List Char → Option Nat
  | [] => none
  | '0' :: 'x' :: rest => digits? 16 rest
  | '0' :: 'X' :: rest => digits? 16 rest
  | '0' :: c :: rest => digits? 8 (c :: rest)
  | cs => digits? 10 cs

/-- The parts of a notation; a point at the end is passed over. -/
def parts (cs : List Char) : List (List Char) :=
  let ps := split '.' cs
  if 1 < ps.length ∧ ps.getLast? = some [] then ps.dropLast else ps

/-- Whether a name has to be an IPv4 address, since its last part is a number. -/
def endsInNumber (cs : List Char) : Bool :=
  match (parts cs).getLast? with
  | none => false
  | some last => (!last.isEmpty && last.all Text.isDigit) || (number? last).isSome

/-- An IPv4 address of at most four parts, where the last part fills the octets that are left. -/
def v4? (cs : List Char) : Option IpAddress := do
  let ns ← (parts cs).mapM number?
  let last ← ns.getLast?
  let room := Nat.pow 256 (5 - ns.length)
  if ns.length ≤ 4 ∧ ns.dropLast.all (· < 256) ∧ last < room then
    some (.v4 (BitVec.ofNat 32 (positional 256 ns.dropLast * room + last)))
  else none

/-! ## Hosts -/

/-- The characters that no host has. -/
def isForbidden (c : Char) : Bool :=
  ['\x00', '\t', '\n', '\x0d', ' ', '#', '/', ':', '<', '>', '?', '@', '[', '\\', ']', '^',
    '|'].contains c

/-- The characters that no domain has. -/
def isForbiddenInDomain (c : Char) : Bool :=
  isForbidden c || c.toNat < 0x20 || c = '%' || c.toNat = 0x7f

/-- The domain that a text names, in ASCII. -/
def domain? (cs : List Char) : Option (List Char) := do
  let name ← Idna.Domain.toAscii? (← Text.Utf8.decode? (Percent.decode cs))
  if name.isEmpty || name.any isForbiddenInDomain then none else some name

/-- The host of a text that is not empty. -/
def parse? (special : Bool) (cs : List Char) : Option Host :=
  match cs with
  | '[' :: inner =>
    if inner.getLast? = some ']' then
      (v6Bits? .strict inner.dropLast).map fun bits => .address (.v6 bits)
    else none
  | cs =>
    if special then
      match domain? cs with
      | none => none
      | some name => if endsInNumber name then (v4? name).map .address else some (.named name)
    else if cs.any isForbidden then none
    else some (.named (Percent.escape Percent.controls cs))

/-- The text of a host. All groups of an IPv6 address are written as groups. -/
def render : Host → List Char
  | address (.v4 bits) => renderV4 bits
  | address (.v6 bits) => '[' :: renderShortest (groups bits) ++ [']']
  | named name => name

end Host

end WorkloadAuth.Http
