import WorkloadAuth.Crypto.Modular
import WorkloadAuth.Crypto.Octets

/-!
# Elliptic curves in Weierstrass form

The curves P-256 and P-384, their points in projective coordinates, and ECDSA signatures over them.

* `Curve`: the field, the coefficients, the base point and its order.
* `Point.add`: addition by one formula for all pairs of points, since the curves have odd order.
* `Curve.combine`: the sum of two multiples.
* `Curve.decodePoint?`: a point written without compression.
* `Curve.accepts`: whether a pair of numbers signs a digest.
-/

namespace WorkloadAuth.Crypto

/-- A curve `y² = x³ + a x + b` over a prime field, with a base point of prime order. -/
structure Curve where
  /-- The octets of a coordinate. -/
  size : Nat
  p : Nat
  a : Nat
  b : Nat
  order : Nat
  gx : Nat
  gy : Nat

/-- The curve P-256. -/
def Curve.p256 : Curve where
  size := 32
  p := 0xffffffff00000001000000000000000000000000ffffffffffffffffffffffff
  a := 0xffffffff00000001000000000000000000000000fffffffffffffffffffffffc
  b := 0x5ac635d8aa3a93e7b3ebbd55769886bc651d06b0cc53b0f63bce3c3e27d2604b
  order := 0xffffffff00000000ffffffffffffffffbce6faada7179e84f3b9cac2fc632551
  gx := 0x6b17d1f2e12c4247f8bce6e563a440f277037d812deb33a0f4a13945d898c296
  gy := 0x4fe342e2fe1a7f9b8ee7eb4a7c0f9e162bce33576b315ececbb6406837bf51f5

/-- The curve P-384. -/
def Curve.p384 : Curve where
  size := 48
  p := 0xfffffffffffffffffffffffffffffffffffffffffffffffffffffffffffffffeffffffff0000000000000000ffffffff
  a := 0xfffffffffffffffffffffffffffffffffffffffffffffffffffffffffffffffeffffffff0000000000000000fffffffc
  b := 0xb3312fa7e23ee7e4988e056be3f82d19181d9c6efe8141120314088f5013875ac656398d8a2ed19d2a85c8edd3ec2aef
  order := 0xffffffffffffffffffffffffffffffffffffffffffffffffc7634d81f4372ddf581a0db248b0a77aecec196accc52973
  gx := 0xaa87ca22be8b05378eb1c71ef320ad746e1d3b628ba79b9859f741e082542a385502f25dbf55296c3a545e3872760ab7
  gy := 0x3617de4a96262c6f5d9e98bf9292dc29f8f41dbd289a147ce9da3113b5f0b8c00a60b1ce1d7e819d7a431d7c90ea0e5f

/-- A point in projective coordinates; the neutral point has `z = 0`. -/
structure Point where
  x : Nat
  y : Nat
  z : Nat

namespace Curve

variable (c : Curve)

/-- A number reduced to the field. -/
def reduce (n : Int) : Nat := (n % (c.p : Int)).toNat

/-- The neutral point. -/
def neutral : Point := ⟨0, 1, 0⟩

/-- The sum of two points. -/
def add (s t : Point) : Point :=
  let xx : Int := c.reduce (s.x * t.x)
  let yy : Int := c.reduce (s.y * t.y)
  let zz : Int := c.reduce (s.z * t.z)
  let xy : Int := c.reduce (s.x * t.y + t.x * s.y)
  let xz : Int := c.reduce (s.x * t.z + t.x * s.z)
  let yz : Int := c.reduce (s.y * t.z + t.y * s.z)
  let a : Int := c.a
  let b₃ : Int := 3 * c.b
  let u : Int := c.reduce (a * xz + b₃ * zz)
  let v : Int := c.reduce (a * xx + b₃ * xz - a * a * zz)
  let w : Int := c.reduce (3 * xx + a * zz)
  ⟨c.reduce (xy * (yy - u) - yz * v), c.reduce ((yy + u) * (yy - u) + w * v),
    c.reduce (yz * (yy + u) + xy * w)⟩

/-- The base point. -/
def base : Point := ⟨c.gx, c.gy, 1⟩

/-- The sum of `m` times `s` and `n` times `t`, by the bits of both numbers from `bit` down. -/
def combineBits (s t both : Point) (m n : Nat) : Nat → Point → Point
  | 0, acc => acc
  | bit + 1, acc =>
    let twice := c.add acc acc
    combineBits s t both m n bit <|
      match m.testBit bit, n.testBit bit with
      | true, true => c.add twice both
      | true, false => c.add twice s
      | false, true => c.add twice t
      | false, false => twice

/-- The sum of `m` times `s` and `n` times `t`. -/
def combine (m : Nat) (s : Point) (n : Nat) (t : Point) : Point :=
  combineBits c s t (c.add s t) m n (max m n).log2.succ neutral

/-- The first coordinate of a point as a field element, unless it is the neutral point. -/
def affineX? (t : Point) : Option Nat :=
  if t.z = 0 then none else some (t.x * inverse c.p t.z % c.p)

/-- Whether two field elements are the coordinates of a point of the curve. -/
def onCurve (x y : Nat) : Bool :=
  y * y % c.p == (x * x * x + c.a * x + c.b) % c.p

/-- A point written without compression: the octet 4 and both coordinates. -/
def decodePoint? (bytes : List UInt8) : Option Point :=
  match bytes with
  | 4 :: coordinates =>
    let x := Octets.toNat (coordinates.take c.size)
    let y := Octets.toNat (coordinates.drop c.size)
    if coordinates.length = 2 * c.size ∧ x < c.p ∧ y < c.p ∧ c.onCurve x y then some ⟨x, y, 1⟩
    else none
  | _ => none

/-- Whether the numbers `r` and `s` sign a digest under a key. The digest counts to the length of a
coordinate. -/
def accepts (key : Point) (digest : List UInt8) (r s : Nat) : Bool :=
  let n := c.order
  if 0 < r ∧ r < n ∧ 0 < s ∧ s < n then
    let e := Octets.toNat (digest.take c.size) % n
    let inv := inverse n s
    match c.affineX? (c.combine (e * inv % n) c.base (r * inv % n) key) with
    | some x => x % n == r
    | none => false
  else false

end Curve

end WorkloadAuth.Crypto
