import WorkloadAuth.Crypto.Modular
import WorkloadAuth.Crypto.Octets
import WorkloadAuth.Crypto.Sha2

/-!
# RSA signatures

* `Rsa.Key`, `Rsa.Key.Valid`: a public key, and which ones are used.
* `Rsa.Key.open?`: the octets that a signature encodes.
* `Rsa.pkcs1`: the one encoding of a digest with a fixed padding.
* `Rsa.pssAccepts`: whether octets are an encoding of a digest with a random salt.
-/

namespace WorkloadAuth.Crypto.Rsa

/-- A public key. -/
structure Key where
  modulus : Nat
  exponent : Nat

/-- The number of bits of a number. -/
def bitLength (n : Nat) : Nat := if n = 0 then 0 else n.log2 + 1

/-- The number of octets of a number. -/
def byteLength (n : Nat) : Nat := (bitLength n + 7) / 8

/-- Keys are used that have 2048 to 8192 bits, where the lower bound counts whole octets, and an
odd exponent from 3 to `2^33 - 1`. -/
def Key.Valid (k : Key) : Prop :=
  k.modulus % 2 = 1 ∧ 256 ≤ byteLength k.modulus ∧ bitLength k.modulus ≤ 8192 ∧
    k.exponent % 2 = 1 ∧ 3 ≤ k.exponent ∧ k.exponent < 1 <<< 33

instance (k : Key) : Decidable k.Valid := inferInstanceAs (Decidable (_ ∧ _))

/-- The octets that a signature encodes: as many as the modulus has. -/
def Key.open? (k : Key) (signature : List UInt8) : Option (List UInt8) :=
  let size := byteLength k.modulus
  let s := Octets.toNat signature
  if signature.length = size ∧ s < k.modulus then
    some (Octets.ofNat size (power k.modulus s k.exponent))
  else none

/-- What stands in front of a digest in a fixed padding: an ASN.1 structure that names the hash
function. -/
def digestHeader : Hash → List UInt8
  | .sha256 => [0x30, 0x31, 0x30, 0x0d, 0x06, 0x09, 0x60, 0x86, 0x48, 0x01, 0x65, 0x03, 0x04, 0x02,
      0x01, 0x05, 0x00, 0x04, 0x20]
  | .sha384 => [0x30, 0x41, 0x30, 0x0d, 0x06, 0x09, 0x60, 0x86, 0x48, 0x01, 0x65, 0x03, 0x04, 0x02,
      0x02, 0x05, 0x00, 0x04, 0x30]
  | .sha512 => [0x30, 0x51, 0x30, 0x0d, 0x06, 0x09, 0x60, 0x86, 0x48, 0x01, 0x65, 0x03, 0x04, 0x02,
      0x03, 0x05, 0x00, 0x04, 0x40]

/-- The fixed padding of a message's digest, in a given number of octets. -/
def pkcs1 (hash : Hash) (size : Nat) (message : List UInt8) : List UInt8 :=
  let tail := digestHeader hash ++ hash.digest message
  0x00 :: 0x01 :: List.replicate (size - 3 - tail.length) 0xff ++ 0x00 :: tail

/-- The first octets of a mask made from a seed, from `count` blocks of digests. -/
def mask (hash : Hash) (seed : List UInt8) (count : Nat) : List UInt8 :=
  (List.range count).flatMap fun i => hash.digest (seed ++ Octets.ofNat 4 i)

/-- Whether octets are an encoding of a message's digest with a salt of the digest's length. The
encoding takes `bits` bits. -/
def pssAccepts (hash : Hash) (bits : Nat) (message encoded : List UInt8) : Bool :=
  let size := (bits + 7) / 8
  let spareBits := 8 * size - bits
  let hashSize := hash.size
  let dbSize := size - hashSize - 1
  let maskedDb := encoded.take dbSize
  let h := (encoded.drop dbSize).take hashSize
  let unmasked := Octets.xor maskedDb (mask hash h (dbSize / hashSize + 1))
  let topMask := 1 <<< (8 - spareBits)
  let db := match unmasked with
    | top :: rest => UInt8.ofNat (top.toNat % topMask) :: rest
    | [] => []
  let padding := db.take (dbSize - hashSize - 1)
  let salt := db.drop (dbSize - hashSize)
  decide (2 * hashSize + 2 ≤ size) && encoded.length == size &&
    encoded.drop (size - 1) == [0xbc] &&
    maskedDb.head?.all (fun top => top.toNat < topMask) &&
    padding.all (· == 0) && (db.drop (dbSize - hashSize - 1)).head? == some 1 &&
    hash.digest (List.replicate 8 0 ++ hash.digest message ++ salt) == h

/-- Whether a signature with fixed padding fits a message. -/
def Key.acceptsPkcs1 (k : Key) (hash : Hash) (message signature : List UInt8) : Bool :=
  decide k.Valid && k.open? signature == some (pkcs1 hash (byteLength k.modulus) message)

/-- Whether a signature with a salt fits a message. The encoding is a bit shorter than the modulus;
an octet in front of it is zero. -/
def Key.acceptsPss (k : Key) (hash : Hash) (message signature : List UInt8) : Bool :=
  decide k.Valid &&
    match k.open? signature with
    | none => false
    | some octets =>
      let bits := bitLength k.modulus - 1
      if bits % 8 = 0 then octets.head? == some 0 && pssAccepts hash bits message octets.tail
      else pssAccepts hash bits message octets

end WorkloadAuth.Crypto.Rsa
