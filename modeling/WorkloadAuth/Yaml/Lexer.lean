import WorkloadAuth.Yaml.Token

/-!
# The tokens of a YAML text

A token may be followed by a colon that makes it the key of a mapping. Until then it is a possible
key: the tokens that tell of the mapping are put in front of it once the colon is found.

* `Lexer`: the tokens so far, and what may come next.
* `Lexer.step?`: one more token.
* `tokens?`: the tokens of a whole text.
-/

namespace WorkloadAuth.Yaml

/-- A token that may turn out to be a key. -/
structure PossibleKey where
  /-- Nothing else than a key may stand there. -/
  required : Bool
  /-- How many tokens stand in front of it. -/
  tokens : Nat
  index : Nat
  line : Nat
  column : Nat
  deriving Repr

/-- The tokens so far, and what may come next. -/
structure Lexer where
  cursor : Cursor
  /-- The tokens, the last one first. -/
  found : List Token := []
  /-- The indentation of the block; -1 outside of all blocks. -/
  indent : Int := -1
  /-- The indentations of the blocks around it. -/
  outer : List Int := []
  /-- Whether a key may start here. -/
  keyAllowed : Bool := true
  /-- The possible key in the innermost brackets. -/
  key : Option PossibleKey := none
  /-- The possible keys in the brackets around them, and outside of all brackets. -/
  enclosing : List (Option PossibleKey) := []

namespace Lexer

/-- The lexer at the start of a text. -/
def start (text : List Char) : Lexer := { cursor := .start text }

/-- Whether the text is inside of brackets. -/
def inFlow (l : Lexer) : Bool := !l.enclosing.isEmpty

/-- One more token. -/
def emit (l : Lexer) (token : Token) : Lexer := { l with found := token :: l.found }

/-- A token in front of the ones that were found after the first `count`. -/
def insert (l : Lexer) (count : Nat) (token : Token) : Lexer :=
  let later := l.found.length - count
  { l with found := l.found.take later ++ token :: l.found.drop later }

/-- The lexer some characters later. -/
def skip (l : Lexer) (n : Nat) : Lexer := { l with cursor := l.cursor.skip n }

/-- The lexer at a later place. -/
def upTo (l : Lexer) (rest : List Char) : Lexer := { l with cursor := l.cursor.upTo rest }

/-- A key is allowed from here on, or not. -/
def allowKey (l : Lexer) (allowed : Bool) : Lexer := { l with keyAllowed := allowed }

/-! ## Possible keys -/

/-- The longest text of a key. -/
def keyLimit : Nat := 1024

/-- The possible key if it may still be one: it stands on the same line, and not too far away. Not
to be one is a fault of a required key. -/
def fresh? (c : Cursor) : Option PossibleKey → Option (Option PossibleKey)
  | none => some none
  | some key =>
    if key.line < c.line ∨ key.index + keyLimit < c.index then
      if key.required then none else some none
    else some (some key)

/-- Drops the keys that are no longer possible. -/
def dropStale? (l : Lexer) : Option Lexer := do
  let enclosing ← l.enclosing.mapM (fresh? l.cursor)
  let key ← fresh? l.cursor l.key
  some { l with key := key, enclosing := enclosing }

/-- There is no possible key in the innermost brackets any more. -/
def dropKey? (l : Lexer) : Option Lexer :=
  match l.key with
  | some key => if key.required then none else some { l with key := none }
  | none => some l

/-- The next token may be a key, where one is allowed. -/
def saveKey? (l : Lexer) : Option Lexer :=
  if l.keyAllowed then do
    let required := !l.inFlow && l.indent == (l.cursor.column : Int)
    let l ← l.dropKey?
    some { l with
      key := some ⟨required, l.found.length, l.cursor.index, l.cursor.line, l.cursor.column⟩ }
  else some l

/-! ## Blocks -/

/-- A block starts at a column, if it is further right than the one around it. Its first token goes
in front of the ones that were found after the first `count`. -/
def openBlock (l : Lexer) (column count : Nat) (token : Token) : Lexer :=
  if !l.inFlow && l.indent < (column : Int) then
    { (l.insert count token) with indent := column, outer := l.indent :: l.outer }
  else l

/-- The blocks that are further right than a column, by the indentations around them, end. -/
def closeBlocksFrom (found : List Token) (indent : Int) :
    (outer : List Int) → (column : Int) → List Token × Int × List Int
  | [], _ => (found, indent, [])
  | next :: outer, column =>
    if column < indent then closeBlocksFrom (.blockEnd :: found) next outer column
    else (found, indent, next :: outer)

/-- The blocks that are further right than a column end. -/
def closeBlocks (l : Lexer) (column : Int) : Lexer :=
  if l.inFlow then l
  else
    let (found, indent, outer) := closeBlocksFrom l.found l.indent l.outer column
    { l with found := found, indent := indent, outer := outer }

/-! ## Blanks -/

/-- Passes over the byte order mark at the start of a line. -/
def skipMark (l : Lexer) : Lexer :=
  if l.cursor.column = 0 && startsWith (Char.ofNat 0xfeff) l.cursor.rest then l.skip 1 else l

/-- Passes over blanks, comments and breaks up to the next token; `fuel` bounds the number of lines.
A new line may start with a key. Tabs count as blanks only where no key may start. -/
def skipBlanks : (fuel : Nat) → Lexer → Lexer
  | 0, l => l
  | fuel + 1, l =>
    let l := l.skipMark
    let isSpace (c : Char) : Bool := c == ' ' || ((l.inFlow || !l.keyAllowed) && c == '\t')
    let rest := l.cursor.rest.dropWhile isSpace
    let rest := if startsWith '#' rest then rest.dropWhile (!isBreak ·) else rest
    let l := l.upTo rest
    match rest with
    | c :: _ =>
      if isBreak c then
        let l := l.upTo (afterBreak rest)
        skipBlanks fuel (if l.inFlow then l else l.allowKey true)
      else l
    | [] => l

/-! ## Tokens -/

/-- A document marker or a directive ends all blocks. -/
def endBlocks? (l : Lexer) : Option Lexer := do
  let l ← (l.closeBlocks (-1)).dropKey?
  some (l.allowKey false)

/-- The start of a collection in brackets, which may be a key as a whole. -/
def openFlow? (l : Lexer) (token : Token) : Option Lexer := do
  let l ← l.saveKey?
  let l := { l with key := none, enclosing := l.key :: l.enclosing }
  some (((l.allowKey true).skip 1).emit token)

/-- The end of a collection in brackets. -/
def closeFlow? (l : Lexer) (token : Token) : Option Lexer := do
  let l ← l.dropKey?
  let l := match l.enclosing with
    | key :: enclosing => { l with key := key, enclosing := enclosing }
    | [] => l
  some (((l.allowKey false).skip 1).emit token)

/-- The comma between items. -/
def flowEntry? (l : Lexer) : Option Lexer := do
  let l ← l.dropKey?
  some (((l.allowKey true).skip 1).emit .flowEntry)

/-- A block for what starts here, where it may start. -/
def openHere? (l : Lexer) (token : Token) : Option Lexer :=
  if l.inFlow then some l
  else if l.keyAllowed then some (l.openBlock l.cursor.column l.found.length token)
  else none

/-- The hyphen in front of an item. -/
def blockEntry? (l : Lexer) : Option Lexer := do
  let l ← (← l.openHere? .blockSequenceStart).dropKey?
  some (((l.allowKey true).skip 1).emit .blockEntry)

/-- The question mark in front of a key. -/
def keyMark? (l : Lexer) : Option Lexer := do
  let l ← (← l.openHere? .blockMappingStart).dropKey?
  some (((l.allowKey (!l.inFlow)).skip 1).emit .key)

/-- The colon in front of a value, which makes the possible key a key. -/
def valueMark? (l : Lexer) : Option Lexer :=
  match l.key with
  | some key =>
    let l := (l.insert key.tokens .key).openBlock key.column key.tokens .blockMappingStart
    some ((({ l with key := none }.allowKey false).skip 1).emit .value)
  | none => do
    let l ← l.openHere? .blockMappingStart
    some (((l.allowKey (!l.inFlow)).skip 1).emit .value)

/-- A reference or an anchor. -/
def anchor? (l : Lexer) (token : String → Token) : Option Lexer := do
  let l ← l.saveKey?
  let (name, rest) ← anchorName? l.cursor.rest.tail
  some (((l.allowKey false).upTo rest).emit (token name))

/-- A tag. -/
def tagToken? (l : Lexer) : Option Lexer := do
  let l ← l.saveKey?
  let (tag, rest) ← tag? l.inFlow l.cursor.rest
  some (((l.allowKey false).upTo rest).emit (.tag tag))

/-- A scalar in a block. -/
def blockScalar? (l : Lexer) (style : Style) : Option Lexer := do
  let l ← l.dropKey?
  let (text, rest) ← block (style == .literal) l.indent l.cursor.rest.tail
  some (((l.allowKey true).upTo rest).emit (.scalar style (String.ofList text)))

/-- A scalar between quotes. -/
def quotedScalar? (l : Lexer) (style : Style) : Option Lexer := do
  let l ← l.saveKey?
  let (text, rest) ← match style with
    | .singleQuoted => singleQuoted false .none l.cursor.rest.tail
    | _ => doubleQuoted .text false .none l.cursor.rest.tail
  some (((l.allowKey false).upTo rest).emit (.scalar style (String.ofList text)))

/-- A plain scalar. If lines have ended after it, a key may follow. -/
def plainScalar? (l : Lexer) : Option Lexer := do
  let l ← l.saveKey?
  let ((text, broken), rest) ←
    plain l.inFlow (l.indent + 1).toNat l.cursor.column .none l.cursor.rest
  some (((l.allowKey broken).upTo rest).emit (.scalar .plain (String.ofList text)))

/-- The characters that start no plain scalar. -/
def indicators : List Char := "\t-?:,[]\x7b\x7d#&*!|>'\"%@".toList ++ ['\x60']

/-- Whether a plain scalar may start with a character, by what follows it. -/
def startsPlain (inFlow : Bool) (c : Char) (rest : List Char) : Bool :=
  !indicators.contains c || (c == '-' && !endsWord rest) ||
    (!inFlow && (c == '?' || c == ':') && !endsWord rest)

/-- The token that starts with a character, which is followed by `rest`. -/
def token? (l : Lexer) (c : Char) (rest : List Char) : Option Lexer :=
  if l.cursor.column = 0 && c == '%' then do
    let l ← l.endBlocks?
    let (token, rest) ← directive? rest
    some ((l.upTo rest).emit token)
  else if l.cursor.column = 0 && startsMarker (c :: rest) then do
    let l ← l.endBlocks?
    some ((l.skip 3).emit (if c == '-' then .documentStart else .documentEnd))
  else if c == '[' then l.openFlow? .flowSequenceStart
  else if c == '\x7b' then l.openFlow? .flowMappingStart
  else if c == ']' then l.closeFlow? .flowSequenceEnd
  else if c == '\x7d' then l.closeFlow? .flowMappingEnd
  else if c == ',' then l.flowEntry?
  else if c == '-' && endsWord rest then l.blockEntry?
  else if c == '?' && (l.inFlow || endsWord rest) then l.keyMark?
  else if c == ':' && (l.inFlow || endsWord rest) then l.valueMark?
  else if c == '*' then l.anchor? .reference
  else if c == '&' then l.anchor? .anchor
  else if c == '!' then l.tagToken?
  else if c == '|' && !l.inFlow then l.blockScalar? .literal
  else if c == '>' && !l.inFlow then l.blockScalar? .folded
  else if c == '\'' then l.quotedScalar? .singleQuoted
  else if c == '"' then l.quotedScalar? .doubleQuoted
  else if startsPlain l.inFlow c rest then l.plainScalar?
  else none

/-- What follows the blanks, after the blocks that end there. -/
def settle? (l : Lexer) : Option Lexer := do
  let l ← (l.skipBlanks (l.cursor.rest.length + 1)).dropStale?
  some (l.closeBlocks l.cursor.column)

/-- The tokens up to the end of the text; `fuel` bounds the number of steps. -/
def run? : (fuel : Nat) → Lexer → Option (List Token)
  | 0, _ => none
  | fuel + 1, l => do
    let l ← l.settle?
    match l.cursor.rest with
    | [] => do
      let l ← l.endBlocks?
      some l.found.reverse
    | c :: rest => run? fuel (← l.token? c rest)

end Lexer

/-- The tokens of a text. -/
def tokens? (text : List Char) : Option (List Token) :=
  if text.all isAllowed then Lexer.run? (text.length + 1) (Lexer.start text) else none

end WorkloadAuth.Yaml
