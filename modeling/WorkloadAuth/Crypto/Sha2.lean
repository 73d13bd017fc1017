/-!
# The SHA-2 hash functions

A message is padded to whole blocks; each block is stretched to one word per round, and the rounds
change eight chaining words. The 256 bit functions work on words of 32 bits, the larger ones on
words of 64 bits.

* `Hash`: the three functions that signatures are made with, their lengths and block sizes.
* `Hash.digest`: the digest of a message.
-/

namespace WorkloadAuth.Crypto

/-- The hash functions that signatures are made with. -/
inductive Hash where
  | sha256
  | sha384
  | sha512
  deriving DecidableEq, Repr

namespace Sha2

/-- A message followed by a one bit, zeros, and its length in bits, up to a multiple of the block
size. The length takes an eighth of a block. -/
def pad (block : Nat) (message : List UInt8) : List UInt8 :=
  let lengthSize := block / 8
  let used := (message.length + 1 + lengthSize) % block
  let zeros := (block - used) % block
  let bits := message.length * 8
  let lengthBytes := (List.range lengthSize).map fun i =>
    UInt8.ofNat (bits >>> (8 * (lengthSize - 1 - i)) % 256)
  message ++ 0x80 :: List.replicate zeros 0 ++ lengthBytes

/-- The chunks of a list, of `size` items each. A shorter rest is dropped. -/
def chunks {α : Type} (size : Nat) : Nat → List α → List (List α)
  | 0, _ => []
  | count + 1, items => items.take size :: chunks size count (items.drop size)

/-- The whole chunks of a list. -/
def wholeChunks {α : Type} (size : Nat) (items : List α) : List (List α) :=
  chunks size (items.length / size) items

/-- The eight words that the rounds change. -/
structure Chain (W : Type) where
  (a b c d e f g h : W)

/-- What the rounds compute on words of one size. -/
structure Rounds (W : Type) where
  add : W → W → W
  choose : W → W → W → W
  majority : W → W → W → W
  bigSigma0 : W → W
  bigSigma1 : W → W
  smallSigma0 : W → W
  smallSigma1 : W → W
  constants : List W

variable {W : Type}

/-- The chaining words after one round, for its constant and its word. -/
@[specialize] def Rounds.step (r : Rounds W) (s : Chain W) (k w : W) : Chain W :=
  let t₁ := r.add (r.add (r.add s.h (r.bigSigma1 s.e)) (r.add (r.choose s.e s.f s.g) k)) w
  let t₂ := r.add (r.bigSigma0 s.a) (r.majority s.a s.b s.c)
  ⟨r.add t₁ t₂, s.a, s.b, s.c, r.add s.d t₁, s.e, s.f, s.g⟩

/-- The word after the last sixteen. -/
@[specialize] def Rounds.nextWord (r : Rounds W) (zero : W) (window : List W) : W :=
  let word (i : Nat) : W := window.getD i zero
  r.add (r.add (r.smallSigma1 (word 14)) (word 9)) (r.add (r.smallSigma0 (word 1)) (word 0))

/-- The rounds of one block: `window` holds the next sixteen words. -/
@[specialize] def Rounds.run (r : Rounds W) (zero : W) : List W → List W → Chain W → Chain W
  | [], _, s => s
  | k :: constants, window, s =>
    r.run zero constants (window.tail ++ [r.nextWord zero window]) (r.step s k (window.headD zero))

/-- The chaining words after one block. -/
@[specialize] def Rounds.compress (r : Rounds W) (zero : W) (s : Chain W) (block : List W) :
    Chain W :=
  let t := r.run zero r.constants block s
  ⟨r.add s.a t.a, r.add s.b t.b, r.add s.c t.c, r.add s.d t.d,
    r.add s.e t.e, r.add s.f t.f, r.add s.g t.g, r.add s.h t.h⟩

/-- The words of a chain, in order. -/
def Chain.words (s : Chain W) : List W := [s.a, s.b, s.c, s.d, s.e, s.f, s.g, s.h]

/-! ## Words of 32 bits -/

/-- Rotation to the right. -/
def rotate32 (x n : UInt32) : UInt32 := x >>> n ||| x <<< (32 - n)

/-- The word of four bytes, most significant first. -/
def word32 (bytes : List UInt8) : UInt32 := bytes.foldl (fun w b => w <<< 8 ||| b.toUInt32) 0

/-- The four bytes of a word. -/
def bytes32 (w : UInt32) : List UInt8 :=
  [24, 16, 8, 0].map fun (shift : UInt32) => (w >>> shift).toUInt8

/-- The rounds on words of 32 bits. -/
def rounds32 : Rounds UInt32 where
  add := (· + ·)
  choose x y z := (x &&& y) ^^^ (~~~x &&& z)
  majority x y z := (x &&& y) ^^^ (x &&& z) ^^^ (y &&& z)
  bigSigma0 x := rotate32 x 2 ^^^ rotate32 x 13 ^^^ rotate32 x 22
  bigSigma1 x := rotate32 x 6 ^^^ rotate32 x 11 ^^^ rotate32 x 25
  smallSigma0 x := rotate32 x 7 ^^^ rotate32 x 18 ^^^ x >>> 3
  smallSigma1 x := rotate32 x 17 ^^^ rotate32 x 19 ^^^ x >>> 10
  constants := [
    0x428a2f98, 0x71374491, 0xb5c0fbcf, 0xe9b5dba5, 0x3956c25b, 0x59f111f1, 0x923f82a4,
    0xab1c5ed5, 0xd807aa98, 0x12835b01, 0x243185be, 0x550c7dc3, 0x72be5d74, 0x80deb1fe,
    0x9bdc06a7, 0xc19bf174, 0xe49b69c1, 0xefbe4786, 0x0fc19dc6, 0x240ca1cc, 0x2de92c6f,
    0x4a7484aa, 0x5cb0a9dc, 0x76f988da, 0x983e5152, 0xa831c66d, 0xb00327c8, 0xbf597fc7,
    0xc6e00bf3, 0xd5a79147, 0x06ca6351, 0x14292967, 0x27b70a85, 0x2e1b2138, 0x4d2c6dfc,
    0x53380d13, 0x650a7354, 0x766a0abb, 0x81c2c92e, 0x92722c85, 0xa2bfe8a1, 0xa81a664b,
    0xc24b8b70, 0xc76c51a3, 0xd192e819, 0xd6990624, 0xf40e3585, 0x106aa070, 0x19a4c116,
    0x1e376c08, 0x2748774c, 0x34b0bcb5, 0x391c0cb3, 0x4ed8aa4a, 0x5b9cca4f, 0x682e6ff3,
    0x748f82ee, 0x78a5636f, 0x84c87814, 0x8cc70208, 0x90befffa, 0xa4506ceb, 0xbef9a3f7,
    0xc67178f2]

/-- The first chaining words of SHA-256. -/
def start256 : Chain UInt32 :=
  ⟨0x6a09e667, 0xbb67ae85, 0x3c6ef372, 0xa54ff53a, 0x510e527f, 0x9b05688c, 0x1f83d9ab,
    0x5be0cd19⟩

/-- The chaining words after all blocks of a message. -/
def chain32 (start : Chain UInt32) (message : List UInt8) : Chain UInt32 :=
  (wholeChunks 64 (pad 64 message)).foldl
    (fun s block => rounds32.compress 0 s ((wholeChunks 4 block).map word32)) start

/-! ## Words of 64 bits -/

/-- Rotation to the right. -/
def rotate64 (x n : UInt64) : UInt64 := x >>> n ||| x <<< (64 - n)

/-- The word of eight bytes, most significant first. -/
def word64 (bytes : List UInt8) : UInt64 := bytes.foldl (fun w b => w <<< 8 ||| b.toUInt64) 0

/-- The eight bytes of a word. -/
def bytes64 (w : UInt64) : List UInt8 :=
  [56, 48, 40, 32, 24, 16, 8, 0].map fun (shift : UInt64) => (w >>> shift).toUInt8

/-- The rounds on words of 64 bits. -/
def rounds64 : Rounds UInt64 where
  add := (· + ·)
  choose x y z := (x &&& y) ^^^ (~~~x &&& z)
  majority x y z := (x &&& y) ^^^ (x &&& z) ^^^ (y &&& z)
  bigSigma0 x := rotate64 x 28 ^^^ rotate64 x 34 ^^^ rotate64 x 39
  bigSigma1 x := rotate64 x 14 ^^^ rotate64 x 18 ^^^ rotate64 x 41
  smallSigma0 x := rotate64 x 1 ^^^ rotate64 x 8 ^^^ x >>> 7
  smallSigma1 x := rotate64 x 19 ^^^ rotate64 x 61 ^^^ x >>> 6
  constants := [
    0x428a2f98d728ae22, 0x7137449123ef65cd, 0xb5c0fbcfec4d3b2f, 0xe9b5dba58189dbbc,
    0x3956c25bf348b538, 0x59f111f1b605d019, 0x923f82a4af194f9b, 0xab1c5ed5da6d8118,
    0xd807aa98a3030242, 0x12835b0145706fbe, 0x243185be4ee4b28c, 0x550c7dc3d5ffb4e2,
    0x72be5d74f27b896f, 0x80deb1fe3b1696b1, 0x9bdc06a725c71235, 0xc19bf174cf692694,
    0xe49b69c19ef14ad2, 0xefbe4786384f25e3, 0x0fc19dc68b8cd5b5, 0x240ca1cc77ac9c65,
    0x2de92c6f592b0275, 0x4a7484aa6ea6e483, 0x5cb0a9dcbd41fbd4, 0x76f988da831153b5,
    0x983e5152ee66dfab, 0xa831c66d2db43210, 0xb00327c898fb213f, 0xbf597fc7beef0ee4,
    0xc6e00bf33da88fc2, 0xd5a79147930aa725, 0x06ca6351e003826f, 0x142929670a0e6e70,
    0x27b70a8546d22ffc, 0x2e1b21385c26c926, 0x4d2c6dfc5ac42aed, 0x53380d139d95b3df,
    0x650a73548baf63de, 0x766a0abb3c77b2a8, 0x81c2c92e47edaee6, 0x92722c851482353b,
    0xa2bfe8a14cf10364, 0xa81a664bbc423001, 0xc24b8b70d0f89791, 0xc76c51a30654be30,
    0xd192e819d6ef5218, 0xd69906245565a910, 0xf40e35855771202a, 0x106aa07032bbd1b8,
    0x19a4c116b8d2d0c8, 0x1e376c085141ab53, 0x2748774cdf8eeb99, 0x34b0bcb5e19b48a8,
    0x391c0cb3c5c95a63, 0x4ed8aa4ae3418acb, 0x5b9cca4f7763e373, 0x682e6ff3d6b2b8a3,
    0x748f82ee5defb2fc, 0x78a5636f43172f60, 0x84c87814a1f0ab72, 0x8cc702081a6439ec,
    0x90befffa23631e28, 0xa4506cebde82bde9, 0xbef9a3f7b2c67915, 0xc67178f2e372532b,
    0xca273eceea26619c, 0xd186b8c721c0c207, 0xeada7dd6cde0eb1e, 0xf57d4f7fee6ed178,
    0x06f067aa72176fba, 0x0a637dc5a2c898a6, 0x113f9804bef90dae, 0x1b710b35131c471b,
    0x28db77f523047d84, 0x32caab7b40c72493, 0x3c9ebe0a15c9bebc, 0x431d67c49c100d4c,
    0x4cc5d4becb3e42b6, 0x597f299cfc657e2a, 0x5fcb6fab3ad6faec, 0x6c44198c4a475817]

/-- The first chaining words of SHA-384. -/
def start384 : Chain UInt64 :=
  ⟨0xcbbb9d5dc1059ed8, 0x629a292a367cd507, 0x9159015a3070dd17, 0x152fecd8f70e5939,
    0x67332667ffc00b31, 0x8eb44a8768581511, 0xdb0c2e0d64f98fa7, 0x47b5481dbefa4fa4⟩

/-- The first chaining words of SHA-512. -/
def start512 : Chain UInt64 :=
  ⟨0x6a09e667f3bcc908, 0xbb67ae8584caa73b, 0x3c6ef372fe94f82b, 0xa54ff53a5f1d36f1,
    0x510e527fade682d1, 0x9b05688c2b3e6c1f, 0x1f83d9abfb41bd6b, 0x5be0cd19137e2179⟩

/-- The chaining words after all blocks of a message. -/
def chain64 (start : Chain UInt64) (message : List UInt8) : Chain UInt64 :=
  (wholeChunks 128 (pad 128 message)).foldl
    (fun s block => rounds64.compress 0 s ((wholeChunks 8 block).map word64)) start

end Sha2

namespace Hash

/-- The bytes of a digest. -/
def size : Hash → Nat
  | .sha256 => 32
  | .sha384 => 48
  | .sha512 => 64

/-- The digest of a message. -/
def digest : Hash → List UInt8 → List UInt8
  | .sha256, m => (Sha2.chain32 Sha2.start256 m).words.flatMap Sha2.bytes32
  | .sha384, m => ((Sha2.chain64 Sha2.start384 m).words.flatMap Sha2.bytes64).take 48
  | .sha512, m => (Sha2.chain64 Sha2.start512 m).words.flatMap Sha2.bytes64

end Hash

end WorkloadAuth.Crypto
