/-!
# UTF-8

Texts as bytes. A byte sequence is cut into characters and ill-formed pieces, where an ill-formed
piece is the longest start of a character's encoding that the sequence does not continue, or else
a single byte.

* `encode`: the bytes of a text.
* `pieces`: the characters and ill-formed pieces of a byte sequence; `none` is an ill-formed piece.
* `decode?`: the text of a byte sequence without ill-formed pieces.
* `decodeLossy`: the text in which U+FFFD stands for each ill-formed piece.
-/

namespace WorkloadAuth.Text.Utf8

/-- The bytes of one character. -/
def encodeChar (c : Char) : List UInt8 :=
  let n := c.toNat
  let tail (shift : Nat) : UInt8 := UInt8.ofNat (0x80 + n >>> shift % 64)
  if n < 0x80 then [UInt8.ofNat n]
  else if n < 0x800 then [UInt8.ofNat (0xc0 + n / 64), tail 0]
  else if n < 0x10000 then [UInt8.ofNat (0xe0 + n / 4096), tail 6, tail 0]
  else [UInt8.ofNat (0xf0 + n / 262144), tail 12, tail 6, tail 0]

/-- The bytes of a text. -/
def encode (cs : List Char) : List UInt8 := cs.flatMap encodeChar

/-- Whether a byte continues the encoding of a character. -/
def isTail (b : UInt8) : Bool := 0x80 ≤ b && b ≤ 0xbf

/-- The bytes that may follow the first byte `a` of a character of three or four bytes; shorter
encodings and surrogates are ruled out here. -/
def isSecond (a b : UInt8) : Bool :=
  if a == 0xe0 then 0xa0 ≤ b && b ≤ 0xbf
  else if a == 0xed then 0x80 ≤ b && b ≤ 0x9f
  else if a == 0xf0 then 0x90 ≤ b && b ≤ 0xbf
  else if a == 0xf4 then 0x80 ≤ b && b ≤ 0x8f
  else isTail b

/-- The six bits that a continuation byte carries. -/
def tailBits (b : UInt8) : Nat := b.toNat % 64

/-- The first piece of a byte sequence that starts with `a`, and what follows it. -/
def piece (a : UInt8) (rest : List UInt8) : Option Char × List UInt8 :=
  if a < 0x80 then (some (Char.ofNat a.toNat), rest)
  else if 0xc2 ≤ a && a ≤ 0xdf then
    match rest with
    | b :: rest₁ =>
      if isTail b then (some (Char.ofNat (a.toNat % 32 * 64 + tailBits b)), rest₁) else (none, rest)
    | [] => (none, [])
  else if 0xe0 ≤ a && a ≤ 0xef then
    match rest with
    | b :: rest₁ =>
      if isSecond a b then
        match rest₁ with
        | c :: rest₂ =>
          if isTail c then
            (some (Char.ofNat (a.toNat % 16 * 4096 + tailBits b * 64 + tailBits c)), rest₂)
          else (none, rest₁)
        | [] => (none, [])
      else (none, rest)
    | [] => (none, [])
  else if 0xf0 ≤ a && a ≤ 0xf4 then
    match rest with
    | b :: rest₁ =>
      if isSecond a b then
        match rest₁ with
        | c :: rest₂ =>
          if isTail c then
            match rest₂ with
            | d :: rest₃ =>
              if isTail d then
                (some (Char.ofNat (a.toNat % 8 * 262144 + tailBits b * 4096 + tailBits c * 64
                  + tailBits d)), rest₃)
              else (none, rest₂)
            | [] => (none, [])
          else (none, rest₁)
        | [] => (none, [])
      else (none, rest)
    | [] => (none, [])
  else (none, rest)

/-- What follows the first piece is no longer than what follows the first byte. -/
theorem length_piece_le (a : UInt8) (rest : List UInt8) :
    (piece a rest).2.length ≤ rest.length := by
  unfold piece
  repeat' split
  all_goals simp_all <;> omega

/-- The characters and ill-formed pieces of a byte sequence, in order. -/
def pieces : List UInt8 → List (Option Char)
  | [] => []
  | a :: rest => (piece a rest).1 :: pieces (piece a rest).2
termination_by bytes => bytes.length
decreasing_by
  have := length_piece_le a rest
  simp only [List.length_cons]
  omega

/-- The characters of a list of pieces, if none is ill-formed. -/
def wellFormed : List (Option Char) → Option (List Char)
  | [] => some []
  | none :: _ => none
  | some c :: rest => (wellFormed rest).map (c :: ·)

/-- The text that a byte sequence encodes, unless some piece of it is ill-formed. -/
def decode? (bytes : List UInt8) : Option (List Char) := wellFormed (pieces bytes)

/-- The text of a byte sequence, with U+FFFD for each ill-formed piece. -/
def decodeLossy (bytes : List UInt8) : List Char :=
  (pieces bytes).map fun p => p.getD (Char.ofNat 0xfffd)

end WorkloadAuth.Text.Utf8
