import WorkloadAuth.Text.Hex

/-!
# IP addresses

Addresses of both families, their text, and the reading of an IPv4-mapped IPv6 address as the
IPv4 address inside it.

* `IpAddress`: the bits of an address.
* `IpAddress.parse?`, `IpAddress.render`: the usual text of an address. Many texts name one IPv6
  address; `render` writes the shortest one in lower case.
* `IpAddress.canonical`: an IPv4-mapped address as its IPv4 address.
-/

namespace WorkloadAuth.Net

/-- An address of either family. -/
inductive IpAddress where
  | v4 (bits : BitVec 32)
  | v6 (bits : BitVec 128)
  deriving DecidableEq, Repr

/-- Freedoms that a reader of addresses may grant. -/
structure AddressRules where
  /-- Zeros may stand in front of an octet, up to three digits. -/
  paddedOctets : Bool
  /-- The gap `::` may stand for no group at all. -/
  emptyGap : Bool

/-- No freedom is granted. -/
def AddressRules.strict : AddressRules := ⟨false, false⟩

/-! ## Reading -/

/-- The pieces of a text between the occurrences of a character. -/
def split (separator : Char) (cs : List Char) : List (List Char) :=
  cs.splitOnP (· == separator)

/-- A number of up to three decimal digits below 256. -/
def octet? (rules : AddressRules) (cs : List Char) : Option Nat :=
  if 1 ≤ cs.length ∧ cs.length ≤ 3 ∧ cs.all Text.isDigit ∧ Text.decimalValue cs < 256 ∧
      (rules.paddedOctets ∨ cs.length = 1 ∨ cs.head? ≠ some '0') then
    some (Text.decimalValue cs)
  else none

/-- The number that digits of a base write, most significant first. -/
def positional (base : Nat) (digits : List Nat) : Nat := digits.foldl (fun n d => n * base + d) 0

/-- An IPv4 address: four octets with points between them. -/
def v4Bits? (rules : AddressRules) (cs : List Char) : Option (BitVec 32) :=
  match split '.' cs with
  | [a, b, c, d] => do
    let a ← octet? rules a
    let b ← octet? rules b
    let c ← octet? rules c
    let d ← octet? rules d
    some (BitVec.ofNat 32 (positional 256 [a, b, c, d]))
  | _ => none

/-- A group of an IPv6 address: one to four hexadecimal digits. -/
def group? (cs : List Char) : Option Nat :=
  if 1 ≤ cs.length ∧ cs.length ≤ 4 then
    (cs.mapM Text.hexValue?).map (positional 16)
  else none

/-- The groups of a list of pieces. Where `tail` is set, the last piece may be an IPv4 address,
which stands for two groups. -/
def groups? (rules : AddressRules) (tail : Bool) : List (List Char) → Option (List Nat)
  | [] => some []
  | [piece] =>
    match group? piece with
    | some g => some [g]
    | none =>
      if tail then (v4Bits? rules piece).map fun b => [b.toNat / 65536, b.toNat % 65536] else none
  | piece :: pieces => do
    let g ← group? piece
    let gs ← groups? rules tail pieces
    some (g :: gs)

/-- The groups on one side of the gap; there may be none. -/
def side? (rules : AddressRules) (tail : Bool) (cs : List Char) : Option (List Nat) :=
  if cs.isEmpty then some [] else groups? rules tail (split ':' cs)

/-- The texts before and after the first two colons in a row. -/
def gap? : List Char → Option (List Char × List Char)
  | [] => none
  | ':' :: ':' :: rest => some ([], rest)
  | c :: rest => (gap? rest).map fun (before, after) => (c :: before, after)

/-- An IPv6 address: eight groups with colons between them, where one gap may stand for a run of
zero groups. -/
def v6Bits? (rules : AddressRules) (cs : List Char) : Option (BitVec 128) :=
  match gap? cs with
  | some (before, after) => do
    let head ← side? rules false before
    let tail ← side? rules true after
    let size := head.length + tail.length
    if head.length < 8 ∧ size ≤ (if rules.emptyGap then 8 else 7) then
      some (BitVec.ofNat 128 (positional 65536 (head ++ List.replicate (8 - size) 0 ++ tail)))
    else none
  | none => do
    let groups ← groups? rules true (split ':' cs)
    if groups.length = 8 then some (BitVec.ofNat 128 (positional 65536 groups)) else none

/-- The address of a text, in either family. -/
def IpAddress.ofChars? (rules : AddressRules) (cs : List Char) : Option IpAddress :=
  ((v4Bits? rules cs).map .v4).or ((v6Bits? rules cs).map .v6)

/-- The address of a text, without freedoms. -/
def IpAddress.parse? (s : String) : Option IpAddress :=
  IpAddress.ofChars? .strict s.toList

/-! ## Writing -/

/-- The four octets of an IPv4 address. -/
def octets (bits : BitVec 32) : List Nat :=
  [24, 16, 8, 0].map fun shift => bits.toNat >>> shift % 256

/-- The eight groups of an IPv6 address. -/
def groups (bits : BitVec 128) : List Nat :=
  [112, 96, 80, 64, 48, 32, 16, 0].map fun shift => bits.toNat >>> shift % 65536

/-- An IPv4 address as four decimal numbers. -/
def renderV4 (bits : BitVec 32) : List Char :=
  ['.'].intercalate ((octets bits).map Text.decimal)

/-- Groups in hexadecimal, with colons between them. -/
def renderGroups (gs : List Nat) : List Char :=
  [':'].intercalate (gs.map Text.hexOfNat)

/-- The number of zero groups at the start of a list. -/
def zeroRun (gs : List Nat) : Nat := (gs.takeWhile (· == 0)).length

/-- Where the longest run of zero groups starts, and how long it is; the first one of several. -/
def longestZeroRun : List Nat → Nat × Nat
  | [] => (0, 0)
  | g :: gs =>
    let here := zeroRun (g :: gs)
    let later := longestZeroRun gs
    if later.2 ≤ here then (0, here) else (later.1 + 1, later.2)

/-- The first twelve bytes of an IPv4-mapped address. -/
def mappedPrefix : Nat := 0xffff

/-- The IPv4 address inside an IPv4-mapped IPv6 address. -/
def mapped? (bits : BitVec 128) : Option (BitVec 32) :=
  if bits.toNat >>> 32 = mappedPrefix then some (BitVec.ofNat 32 bits.toNat) else none

/-- The shortest text of some groups: lower case, no leading zeros, and a gap for the longest run of
two or more zero groups. -/
def renderShortest (gs : List Nat) : List Char :=
  let (start, length) := longestZeroRun gs
  if 1 < length then
    renderGroups (gs.take start) ++ [':', ':'] ++ renderGroups (gs.drop (start + length))
  else renderGroups gs

/-- The shortest text of an IPv6 address. Only IPv4-mapped addresses show their last four bytes as
octets. -/
def renderV6 (bits : BitVec 128) : List Char :=
  match mapped? bits with
  | some inner => "::ffff:".toList ++ renderV4 inner
  | none => renderShortest (groups bits)

/-- The text of an address. -/
def IpAddress.render : IpAddress → String
  | .v4 bits => String.ofList (renderV4 bits)
  | .v6 bits => String.ofList (renderV6 bits)

/-! ## Mapped addresses -/

/-- An IPv4-mapped IPv6 address as the IPv4 address inside it; any other address as it is. -/
def IpAddress.canonical : IpAddress → IpAddress
  | .v4 bits => .v4 bits
  | .v6 bits =>
    match mapped? bits with
    | some inner => .v4 inner
    | none => .v6 bits

/-- The address of four or sixteen bytes in network order (`ip_from_bytes`). -/
def IpAddress.ofBytes? (bytes : List UInt8) : Option IpAddress :=
  let n := positional 256 (bytes.map UInt8.toNat)
  if bytes.length = 4 then some (.v4 (BitVec.ofNat 32 n))
  else if bytes.length = 16 then some (.v6 (BitVec.ofNat 128 n))
  else none

end WorkloadAuth.Net
