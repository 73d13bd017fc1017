import WorkloadAuth.Text.Hex
import WorkloadAuth.Text.Utf8
import WorkloadAuth.Yaml.Scalar

/-!
# Tokens of a YAML text

* `Token`: the tokens.
* `Tag`: a tag as it is written, a handle and what follows it.
* `tag?`, `anchorName?`, `directive?`: how tags, the names of anchors and directives are read.
-/

namespace WorkloadAuth.Yaml

/-- A tag as it is written. The handle stands for the start of the whole tag; an empty one stands
for nothing. -/
structure Tag where
  handle : String
  suffix : List UInt8
  deriving DecidableEq, Repr

/-- The tokens of a text. -/
inductive Token where
  /-- The version that a document asks for. -/
  | version (major minor : Nat)
  /-- What a handle stands for. -/
  | tagStart (handle : String) (start : List UInt8)
  | documentStart
  | documentEnd
  | blockSequenceStart
  | blockMappingStart
  /-- The end of a sequence or a mapping in block form. -/
  | blockEnd
  | flowSequenceStart
  | flowSequenceEnd
  | flowMappingStart
  | flowMappingEnd
  /-- The hyphen in front of an item. -/
  | blockEntry
  /-- The comma between items. -/
  | flowEntry
  /-- The key of a mapping follows. -/
  | key
  /-- The value of a mapping follows. -/
  | value
  | reference (name : String)
  | anchor (name : String)
  | tag (tag : Tag)
  | scalar (style : Style) (text : String)
  deriving DecidableEq, Repr

/-! ## Tags -/

/-- The octet that two hexadecimal digits behind a percent sign stand for. -/
def escapedOctet? : List Char → Option (Nat × List Char)
  | '%' :: a :: b :: rest => do
    let x ← Text.hexValue? a
    let y ← Text.hexValue? b
    some (x * 16 + y, rest)
  | _ => none

/-- How many octets follow the first octet of a character. -/
def tailLength? (octet : Nat) : Option Nat :=
  if octet < 0x80 then some 0
  else if octet / 32 = 6 then some 1
  else if octet / 16 = 14 then some 2
  else if octet / 8 = 30 then some 3
  else none

/-- The escaped octets after the first one of a character. -/
def escapedTail? : Nat → List Char → Option (List UInt8 × List Char)
  | 0, cs => some ([], cs)
  | n + 1, cs => do
    let (octet, rest) ← escapedOctet? cs
    if octet / 64 = 2 then
      let (more, rest) ← escapedTail? n rest
      some (UInt8.ofNat octet :: more, rest)
    else none

/-- Whether a character may stand in a tag; commas and brackets only where `wide` is set. -/
def isTagChar (wide : Bool) (c : Char) : Bool :=
  isNameChar c || ";/?:@&=+$.!~*'()".toList.contains c || (wide && ",[]".toList.contains c)

/-- The octets of the longest part of a tag at the start of some text, and what follows it; `fuel`
bounds the number of characters. -/
def tagOctets? (wide : Bool) : (fuel : Nat) → List Char → Option (List UInt8 × List Char)
  | 0, cs => some ([], cs)
  | fuel + 1, cs =>
    match cs with
    | [] => some ([], [])
    | c :: rest =>
      if c == '%' then do
        let (octet, rest) ← escapedOctet? cs
        let (tail, rest) ← escapedTail? (← tailLength? octet) rest
        let (more, rest) ← tagOctets? wide fuel rest
        some (UInt8.ofNat octet :: tail ++ more, rest)
      else if isTagChar wide c then do
        let (more, rest) ← tagOctets? wide fuel rest
        some (Text.Utf8.encodeChar c ++ more, rest)
      else some ([], c :: rest)

/-- The octets of a part of a tag, which end before a zero octet. -/
def tagPart? (wide : Bool) (cs : List Char) : Option (List UInt8 × List Char) := do
  let (octets, rest) ← tagOctets? wide cs.length cs
  some (octets.takeWhile (· ≠ 0), rest)

/-- The same for a part that is not empty. -/
def someTagPart? (wide : Bool) (cs : List Char) : Option (List UInt8 × List Char) := do
  let (octets, rest) ← tagPart? wide cs
  if rest.length < cs.length then some (octets, rest) else none

/-- The name between the exclamation marks of a handle, whether there is a second mark, and what
follows. -/
def handle? : List Char → Option ((List Char × Bool) × List Char)
  | '!' :: rest =>
    let name := rest.takeWhile isNameChar
    match rest.dropWhile isNameChar with
    | '!' :: rest => some ((name, true), rest)
    | rest => some ((name, false), rest)
  | _ => none

/-- The text of a handle with both of its marks. -/
def handleText (name : List Char) : String := String.ofList ('!' :: name ++ ['!'])

/-- Whether a tag may end before some text. -/
def endsTag (inFlow : Bool) (cs : List Char) : Bool :=
  endsWord cs || (inFlow && startsWith ',' cs)

/-- The tag at the start of some text, and what follows it. -/
def tag? (inFlow : Bool) (cs : List Char) : Option (Tag × List Char) := do
  let (tag, rest) ← match cs with
    | '!' :: '<' :: rest => do
      let (suffix, rest) ← someTagPart? true rest
      if startsWith '>' rest then some (Tag.mk "" suffix, rest.tail) else none
    | _ => do
      let ((name, closed), rest) ← handle? cs
      if closed then
        let (suffix, rest) ← someTagPart? false rest
        some (Tag.mk (handleText name) suffix, rest)
      else
        let (more, rest) ← tagPart? false rest
        let suffix := Text.Utf8.encode name ++ more
        some (if suffix.isEmpty then Tag.mk "" [0x21] else Tag.mk "!" suffix, rest)
  if endsTag inFlow rest then some (tag, rest) else none

/-! ## Anchors -/

/-- The name of an anchor behind its indicator, and what follows it. -/
def anchorName? (cs : List Char) : Option (String × List Char) :=
  let name := cs.takeWhile isNameChar
  let rest := cs.dropWhile isNameChar
  let ends := endsWord rest || rest.head?.any fun c => "?:,]\x7d%@".toList.contains c || c == '\x60'
  if !name.isEmpty && ends then some (String.ofList name, rest) else none

/-! ## Directives -/

/-- A number of at most nine digits. -/
def versionNumber? (cs : List Char) : Option (Nat × List Char) :=
  let digits := cs.takeWhile Text.isDigit
  if 1 ≤ digits.length ∧ digits.length ≤ 9 then
    some (Text.decimalValue digits, cs.dropWhile Text.isDigit)
  else none

/-- A version behind the name of its directive. -/
def version? (cs : List Char) : Option (Token × List Char) := do
  let (major, rest) ← versionNumber? (cs.dropWhile isBlank)
  if startsWith '.' rest then
    let (minor, rest) ← versionNumber? rest.tail
    some (.version major minor, rest)
  else none

/-- A handle and what it stands for, behind the name of their directive. -/
def tagStart? (cs : List Char) : Option (Token × List Char) := do
  let ((name, closed), rest) ← handle? (cs.dropWhile isBlank)
  let handle ← if closed then some (handleText name) else if name.isEmpty then some "!" else none
  if rest.head?.any isBlank then
    let (start, rest) ← someTagPart? true (rest.dropWhile isBlank)
    if endsWord rest then some (.tagStart handle start, rest) else none
  else none

/-- The directive behind a percent sign, and what follows its line. -/
def directive? (cs : List Char) : Option (Token × List Char) := do
  let name := cs.takeWhile isNameChar
  let rest := cs.dropWhile isNameChar
  if endsWord rest then
    let (token, rest) ← match String.ofList name with
      | "YAML" => version? rest
      | "TAG" => tagStart? rest
      | _ => none
    some (token, ← afterLine? rest)
  else none

end WorkloadAuth.Yaml
