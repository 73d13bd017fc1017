/-!
# Numbers as octets

* `Octets.toNat`: the number that octets write, most significant first.
* `Octets.ofNat`: a number in a given count of octets.
* `Octets.littleEndian`: the number that octets write, least significant first.
* `Octets.natural?`: the content of an ASN.1 integer as a positive number, if it is one.
-/

namespace WorkloadAuth.Crypto.Octets

/-- The number that octets write, most significant first. -/
def toNat (bytes : List UInt8) : Nat := bytes.foldl (fun n b => n * 256 + b.toNat) 0

/-- The last `size` octets of a number, most significant first. -/
def ofNat : (size : Nat) → (n : Nat) → List UInt8
  | 0, _ => []
  | size + 1, n => ofNat size (n / 256) ++ [UInt8.ofNat (n % 256)]

/-- The number that octets write, least significant first. -/
def littleEndian (bytes : List UInt8) : Nat := bytes.foldr (fun b n => b.toNat + n * 256) 0

/-- The octets of a number, least significant first. -/
def toLittleEndian (size n : Nat) : List UInt8 := (ofNat size n).reverse

/-- Positive numbers are written in as few octets as keep their sign bit clear. -/
def natural? : List UInt8 → Option Nat
  | [] => none
  | [b] => if b = 0 || 0x80 ≤ b then none else some b.toNat
  | a :: b :: rest =>
    if 0x80 ≤ a || (a = 0 && b < 0x80) then none else some (toNat (a :: b :: rest))

/-- The octets that a number needs. -/
def size (n : Nat) : Nat := (n.log2 + 8) / 8

/-- Two octet strings combined octet by octet. -/
def xor (a b : List UInt8) : List UInt8 := List.zipWith (· ^^^ ·) a b

end WorkloadAuth.Crypto.Octets
