import WorkloadAuth.Text.CombiningClass
import WorkloadAuth.Text.Composition

/-!
# Canonical composition

One and the same text may be written with composed characters or with sequences of marks. Its
canonical form takes all characters apart, puts the marks of each sequence in order, and composes
what may be composed.

* `decomposed`: the characters that a character stands for, taken apart.
* `ordered`: the marks in order.
* `composed`: characters and marks composed.
* `normalized`: the canonical form of a text.
-/

namespace WorkloadAuth.Text

/-! ## Syllables

The syllables of Hangul are composed of two or three letters by arithmetic.
-/

namespace Syllable

/-- The first syllable. -/
def base : Nat := 0xac00

/-- The first of the nineteen letters that start a syllable. -/
def leadBase : Nat := 0x1100

/-- The first of the twenty-one vowels. -/
def vowelBase : Nat := 0x1161

/-- The code point before the twenty-seven letters that end a syllable. -/
def tailBase : Nat := 0x11a7

def leads : Nat := 19

def vowels : Nat := 21

/-- How many ends a syllable may have; one of them is to have none. -/
def tails : Nat := 28

/-- The letters of a syllable. -/
def letters? (n : Nat) : Option (List Nat) :=
  if base ≤ n ∧ n < base + leads * vowels * tails then
    let i := n - base
    let start := [leadBase + i / (vowels * tails), vowelBase + i / tails % vowels]
    some (if i % tails = 0 then start else start ++ [tailBase + i % tails])
  else none

/-- The syllable of two letters, or of a syllable without end and the letter that ends it. -/
def compose? (a b : Nat) : Option Nat :=
  if leadBase ≤ a ∧ a < leadBase + leads ∧ vowelBase ≤ b ∧ b < vowelBase + vowels then
    some (base + ((a - leadBase) * vowels + (b - vowelBase)) * tails)
  else if base ≤ a ∧ a < base + leads * vowels * tails ∧ (a - base) % tails = 0 ∧
      tailBase < b ∧ b < tailBase + tails then
    some (a + (b - tailBase))
  else none

end Syllable

/-! ## Taking apart -/

/-- The code points that a code point stands for. The first of two may be composed itself; `fuel`
bounds how often. -/
def decomposition : (fuel : Nat) → Nat → List Nat
  | 0, n => [n]
  | fuel + 1, n =>
    match composites.find? (·.1 == n) with
    | some (_, first, second) => decomposition fuel first ++ [second]
    | none =>
      match singletons.find? (·.1 == n) with
      | some (_, other) => [other]
      | none =>
        match sequences.find? (·.1 == n) with
        | some (_, others) => others
        | none => (Syllable.letters? n).getD [n]

/-- How often the first of two may be composed itself. -/
def maxDepth : Nat := 4

/-- The characters that a character stands for, taken apart. -/
def decomposed (c : Char) : List Char :=
  if c.toNat < 0xc0 then [c] else (decomposition maxDepth c.toNat).map Char.ofNat

/-! ## Order -/

/-- A mark among other marks, which are in order: behind those of the same class. -/
def insertMark (c : Char) : (marks : List Char) → List Char
  | [] => [c]
  | m :: marks =>
    if combiningClass c < combiningClass m then c :: m :: marks else m :: insertMark c marks

/-- The marks of each sequence in order; those found since the last start, `marks`, are in order. -/
def ordered (marks : List Char) : List Char → List Char
  | [] => marks
  | c :: rest =>
    if combiningClass c = 0 then marks ++ c :: ordered [] rest
    else ordered (insertMark c marks) rest

/-! ## Composing -/

/-- The character that is written for two others. -/
def compose? (a b : Char) : Option Char :=
  ((Syllable.compose? a.toNat b.toNat).or
    ((composites.find? fun (_, first, second) => first == a.toNat && second == b.toNat).map
      (·.1))).map Char.ofNat

/-- Composes a character that starts a sequence with what follows it. Between them stand characters
that are not composed, the last one first; a mark is cut off from the start by one that is of no
lower class. -/
def composed (start : Char) (between : List Char) : List Char → List Char
  | [] => start :: between.reverse
  | c :: rest =>
    let reaches := between.head?.all fun m => combiningClass m < combiningClass c
    match if reaches then compose? start c else none with
    | some whole => composed whole between rest
    | none =>
      if combiningClass c = 0 then start :: between.reverse ++ composed c [] rest
      else composed start (c :: between) rest

/-- Composes a text: marks in front of the first start stay as they are. -/
def composedText (cs : List Char) : List Char :=
  let isMarkOnly (c : Char) : Bool := combiningClass c != 0
  match cs.dropWhile isMarkOnly with
  | [] => cs
  | start :: rest => cs.takeWhile isMarkOnly ++ composed start [] rest

/-- The canonical form of a text. -/
def normalized (cs : List Char) : List Char :=
  composedText (ordered [] (cs.flatMap decomposed))

end WorkloadAuth.Text
