/-!
# Punycode

Labels of domain names in which other characters than ASCII occur are written in ASCII: the ASCII
characters first, then the places and values of the others as numbers of a mixed base.

* `encode`: the ASCII text of a label.
* `decode?`: the label that an ASCII text writes.
-/

namespace WorkloadAuth.Idna.Punycode

/-- The digit of a value below thirty-six. -/
def digit (n : Nat) : Char := if n < 26 then Char.ofNat (0x61 + n) else Char.ofNat (0x16 + n)

/-- The weight that ends a number, which grows with the place `k` of its digit. -/
def threshold (k bias : Nat) : Nat := min 26 (max 1 (k - bias))

/-- A number in digits of the mixed base, least significant first; `fuel` digits suffice. -/
def digits (bias : Nat) : Nat → Nat → Nat → List Char
  | 0, _, _ => []
  | fuel + 1, k, q =>
    let t := threshold k bias
    if q < t then [digit q]
    else digit (t + (q - t) % (36 - t)) :: digits bias fuel (k + 36) ((q - t) / (36 - t))

/-- Divides a delta until it is small, and counts the divisions. -/
def settle : Nat → Nat → Nat → Nat
  | 0, k, _ => k
  | fuel + 1, k, delta =>
    if 455 < delta then settle fuel (k + 36) (delta / 35) else k + 36 * delta / (delta + 38)

/-- The bias after a delta, of which `count` characters are known by then. -/
def adapt (delta count : Nat) (first : Bool) : Nat :=
  let delta := if first then delta / 700 else delta / 2
  settle (delta + 1) 0 (delta + delta / count)

/-- Where the encoding stands within the insertion of one code point. -/
structure Progress where
  delta : Nat
  bias : Nat
  /-- How many characters are written. -/
  count : Nat
  first : Bool
  output : List Char

/-- Writes the places at which the code point `n` stands among the code points of a label. -/
def place (n : Nat) (p : Progress) (c : Nat) : Progress :=
  if c < n then { p with delta := p.delta + 1 }
  else if c = n then
    ⟨0, adapt p.delta (p.count + 1) p.first, p.count + 1, false,
      p.output ++ digits p.bias (p.delta + 1) 36 p.delta⟩
  else p

/-- Writes the code points of a label that are not ASCII, in ascending order. -/
def insertions (label : List Nat) : Nat → List Nat → Progress → Progress
  | _, [], p => p
  | n, m :: rest, p =>
    let p := { p with delta := p.delta + (m - n) * (p.count + 1) }
    let p := label.foldl (place m) p
    insertions label (m + 1) rest { p with delta := p.delta + 1 }

/-- The ASCII text of a label. -/
def encode (cs : List Char) : List Char :=
  let basic := cs.filter fun c => c.toNat < 0x80
  let others := ((cs.map Char.toNat).filter (0x80 ≤ ·)).mergeSort.eraseDups
  let start := if basic.isEmpty then [] else basic ++ ['-']
  start ++ (insertions (cs.map Char.toNat) 0x80 others ⟨0, 72, basic.length, true, []⟩).output

/-! ## Reading -/

/-- The value of a digit. -/
def value? (c : Char) : Option Nat :=
  let n := c.toNat
  if 0x61 ≤ n ∧ n ≤ 0x7a then some (n - 0x61)
  else if 0x41 ≤ n ∧ n ≤ 0x5a then some (n - 0x41)
  else if 0x30 ≤ n ∧ n ≤ 0x39 then some (n - 0x16)
  else none

/-- A number in digits of the mixed base at the start of a text, and what follows it. The number is
added to `sum`; `weight` is that of the next digit. Neither may reach 2^32. -/
def number? (bias : Nat) : (k weight sum : Nat) → List Char → Option (Nat × List Char)
  | _, _, _, [] => none
  | k, weight, sum, c :: rest => do
    let digit ← value? c
    let sum := sum + digit * weight
    let t := threshold k bias
    if UInt32.size ≤ sum then none
    else if digit < t then some (sum, rest)
    else if (UInt32.size - 1) / (36 - t) < weight then none
    else number? bias (k + 36) (weight * (36 - t)) sum rest

/-- Where the reading stands: the code point of the last insertion, the place after it, and the
characters so far. -/
structure Insertion where
  code : Nat := 0x80
  place : Nat := 0
  bias : Nat := 72
  output : List Char

/-- One more character, by the steps that lead to it from the last one. -/
def Insertion.next? (p : Insertion) (steps : Nat) : Option Insertion :=
  let count := p.output.length + 1
  let code := p.code + steps / count
  let place := steps % count
  if code.isValidChar then
    some ⟨code, place + 1, adapt (steps - p.place) count (p.place = 0),
      p.output.take place ++ Char.ofNat code :: p.output.drop place⟩
  else none

/-- The characters that numbers insert; `fuel` bounds how many there are. -/
def inserted? : (fuel : Nat) → Insertion → List Char → Option (List Char)
  | _, p, [] => some p.output
  | 0, _, _ => none
  | fuel + 1, p, cs => do
    let (steps, rest) ← number? p.bias 36 1 p.place cs
    inserted? fuel (← p.next? steps) rest

/-- The label that an ASCII text writes. -/
def decode? (cs : List Char) : Option (List Char) :=
  let digits := (cs.reverse.takeWhile (· != '-')).reverse
  let basic := (cs.take (cs.length - digits.length)).dropLast
  if basic.isEmpty then inserted? cs.length { output := [] } cs
  else inserted? cs.length { output := basic } digits

end WorkloadAuth.Idna.Punycode
