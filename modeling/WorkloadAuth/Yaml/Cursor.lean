/-!
# Places in a YAML text

* `isAllowed`, `isBlank`, `isBreak`: kinds of characters.
* `endsWord`, `endsLine`, `startsMarker`: what a text goes on with.
* `Cursor`: a place in a text, with its line and its column.
-/

namespace WorkloadAuth.Yaml

/-! ## Characters -/

/-- Whether a character may stand in a text. Control characters may not, but for some blanks. -/
def isAllowed (c : Char) : Bool :=
  let n := c.toNat
  n == 0x09 || n == 0x0a || n == 0x0d || (0x20 ≤ n && n ≤ 0x7e) || n == 0x85 ||
    (0xa0 ≤ n && n ≤ 0xd7ff) || (0xe000 ≤ n && n ≤ 0xfffd) || 0x10000 ≤ n

/-- Whether a character is a space or a tab. -/
def isBlank (c : Char) : Bool := c == ' ' || c == '\t'

/-- The line separator. -/
def lineSeparator : Char := Char.ofNat 0x2028

/-- The paragraph separator. -/
def paragraphSeparator : Char := Char.ofNat 0x2029

/-- The character that goes to the next line. -/
def nextLine : Char := Char.ofNat 0x85

/-- Whether a character breaks a line. -/
def isBreak (c : Char) : Bool :=
  c == '\n' || c == '\r' || c == nextLine || c == lineSeparator || c == paragraphSeparator

/-- A line break as it is kept in a scalar. Most of them become a line feed. -/
def keptBreak (c : Char) : Char :=
  if c = lineSeparator ∨ c = paragraphSeparator then c else '\n'

/-- Whether a character may stand in the name of an anchor, of a handle or of a directive. -/
def isNameChar (c : Char) : Bool := c.isAlphanum || c == '_' || c == '-'

/-! ## What a text goes on with -/

/-- The text ends, or goes on with a blank or a break. -/
def endsWord : List Char → Bool
  | [] => true
  | c :: _ => isBlank c || isBreak c

/-- The text ends, or goes on with a break. -/
def endsLine : List Char → Bool
  | [] => true
  | c :: _ => isBreak c

/-- The text goes on with a character. -/
def startsWith (c : Char) (cs : List Char) : Bool := cs.head? == some c

/-- The text goes on with three hyphens or three points on their own, which start or end a document
where they stand at the start of a line. -/
def startsMarker : List Char → Bool
  | '-' :: '-' :: '-' :: rest => endsWord rest
  | '.' :: '.' :: '.' :: rest => endsWord rest
  | _ => false

/-- What follows the break at the start of a text. A carriage return and a line feed are one. -/
def afterBreak : List Char → List Char
  | '\r' :: '\n' :: rest => rest
  | c :: rest => if isBreak c then rest else c :: rest
  | [] => []

/-- What follows the blanks, the comment and the break with which a line ends, if nothing else
stands on it. -/
def afterLine? (cs : List Char) : Option (List Char) :=
  let rest := cs.dropWhile isBlank
  let rest := if startsWith '#' rest then rest.dropWhile (!isBreak ·) else rest
  if endsLine rest then some (afterBreak rest) else none

/-! ## Places -/

/-- A place in a text: what follows it, and where it is. All counts begin at zero. -/
structure Cursor where
  rest : List Char
  /-- How many characters stand before it. -/
  index : Nat
  line : Nat
  column : Nat
  deriving Repr

namespace Cursor

/-- The start of a text. -/
def start (text : List Char) : Cursor := ⟨text, 0, 0, 0⟩

/-- The place after the next character. -/
def next (c : Cursor) : Cursor :=
  match c.rest with
  | [] => c
  | a :: rest =>
    if isBreak a && !(a == '\r' && startsWith '\n' rest) then ⟨rest, c.index + 1, c.line + 1, 0⟩
    else ⟨rest, c.index + 1, c.line, c.column + 1⟩

/-- The place some characters later. -/
def skip (c : Cursor) : Nat → Cursor
  | 0 => c
  | n + 1 => c.next.skip n

/-- The later place that is followed by `rest`. -/
def upTo (c : Cursor) (rest : List Char) : Cursor := c.skip (c.rest.length - rest.length)

end Cursor

end WorkloadAuth.Yaml
