import WorkloadAuth.Crypto.Modular
import WorkloadAuth.Crypto.Octets
import WorkloadAuth.Crypto.Sha2

/-!
# Ed25519 signatures

The twisted Edwards curve `-x² + y² = 1 + d x² y²` over the field of `2^255 - 19` elements, its
points in extended coordinates, and signatures over it.

* `Edwards.decodePoint?`, `Edwards.encodePoint`: points as 32 octets.
* `Edwards.accepts`: whether 64 octets sign a message under a key.
-/

namespace WorkloadAuth.Crypto.Edwards

/-- The size of the field. -/
def p : Nat := (1 <<< 255) - 19

/-- The order of the base point. -/
def order : Nat := (1 <<< 252) + 27742317777372353535851937790883648493

/-- The coefficient of the curve. -/
def d : Nat := 37095705934669439343138083508754565189542113879843219016388785533085940283555

/-- A square root of minus one. -/
def root : Nat := 19681161376707505956807079304988542015446066515923890162744021073123829784752

/-- A point in extended coordinates: `x = X/Z`, `y = Y/Z` and `x y = T/Z`. -/
structure Point where
  x : Nat
  y : Nat
  z : Nat
  t : Nat

/-- A number reduced to the field. -/
def reduce (n : Int) : Nat := (n % (p : Int)).toNat

/-- The neutral point. -/
def neutral : Point := ⟨0, 1, 1, 0⟩

/-- The sum of two points; one formula serves all pairs. -/
def add (s u : Point) : Point :=
  let a : Int := reduce (((s.y : Int) - s.x) * ((u.y : Int) - u.x))
  let b : Int := reduce (((s.y : Int) + s.x) * ((u.y : Int) + u.x))
  let c : Int := reduce (2 * d * s.t % p * u.t : Nat)
  let e : Int := reduce (2 * s.z * u.z : Nat)
  ⟨reduce ((b - a) * (e - c)), reduce ((e + c) * (b + a)), reduce ((e - c) * (e + c)),
    reduce ((b - a) * (b + a))⟩

/-- The negative of a point. -/
def negate (s : Point) : Point := ⟨reduce (-(s.x : Int)), s.y, s.z, reduce (-(s.t : Int))⟩

/-- The sum of `m` times `s` and `n` times `u`, by the bits of both numbers from `bit` down. -/
def combineBits (s u both : Point) (m n : Nat) : Nat → Point → Point
  | 0, acc => acc
  | bit + 1, acc =>
    let twice := add acc acc
    combineBits s u both m n bit <|
      match m.testBit bit, n.testBit bit with
      | true, true => add twice both
      | true, false => add twice s
      | false, true => add twice u
      | false, false => twice

/-- The sum of `m` times `s` and `n` times `u`. -/
def combine (m : Nat) (s : Point) (n : Nat) (u : Point) : Point :=
  combineBits s u (add s u) m n (max m n).log2.succ neutral

/-- The `x` of a point with a given `y`, up to sign. -/
def recoverX? (y : Nat) : Option Nat :=
  let u := reduce ((y * y : Nat) - 1)
  let v := (d * y % p * y + 1) % p
  let candidate := u * power p v 3 % p * power p (u * power p v 7 % p) ((p - 5) / 8) % p
  if v * candidate % p * candidate % p = u then some candidate
  else if v * candidate % p * candidate % p = reduce (-(u : Int)) then some (candidate * root % p)
  else none

/-- The point of 32 octets: `y` with the lowest octet first, and the lowest bit of `x` on top. The
number `y` need not be below the size of the field. -/
def decodePoint? (bytes : List UInt8) : Option Point :=
  let n := Octets.littleEndian bytes
  let y := n % (1 <<< 255) % p
  let sign := n >>> 255
  if bytes.length = 32 then
    (recoverX? y).map fun x =>
      let x := if x % 2 = sign then x else reduce (-(x : Int))
      ⟨x, y, 1, x * y % p⟩
  else none

/-- The 32 octets of a point. -/
def encodePoint (s : Point) : List UInt8 :=
  let inv := inverse p s.z
  let x := s.x * inv % p
  let y := s.y * inv % p
  Octets.toLittleEndian 32 (y + (x % 2) <<< 255)

/-- The octets of the base point: `y = 4/5` and an even `x`. -/
def baseOctets : List UInt8 := Octets.toLittleEndian 32 (4 * inverse p 5 % p)

/-- Whether a signature fits a message under a key. Its first half is compared with the encoding
of the point that the key gives for its second half. -/
def accepts (key message signature : List UInt8) : Bool :=
  let r := signature.take 32
  let s := Octets.littleEndian (signature.drop 32)
  if signature.length = 64 ∧ s < order then
    match decodePoint? key, decodePoint? baseOctets with
    | some a, some base =>
      let h := Octets.littleEndian (Hash.sha512.digest (r ++ key ++ message)) % order
      encodePoint (combine s base h (negate a)) == r
    | _, _ => false
  else false

end WorkloadAuth.Crypto.Edwards
