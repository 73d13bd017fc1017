import WorkloadAuth.Text.Hex
import WorkloadAuth.Yaml.Cursor

/-!
# Scalars of a YAML text

How the text of a scalar is written. Line breaks inside of it are folded: a single one stands for a
space, and of several ones the first is dropped. Only in literal blocks they are kept.

* `Style`: the ways of writing a scalar.
* `Gap`: what stands between two words of a scalar.
* `doubleQuoted`, `singleQuoted`, `plain`, `block`: the text of a scalar, and what follows it.
-/

namespace WorkloadAuth.Yaml

/-- The ways of writing a scalar. -/
inductive Style where
  | plain
  | singleQuoted
  | doubleQuoted
  | literal
  | folded
  deriving DecidableEq, Repr

/-! ## Gaps -/

/-- What stands between two words of a scalar. -/
inductive Gap where
  /-- Blanks, if anything. -/
  | blanks (cs : List Char)
  /-- Line breaks: the first of them, unless it is escaped, and the others. -/
  | breaks (first : Option Char) (others : List Char)
  deriving DecidableEq, Repr

namespace Gap

/-- No gap. -/
def none : Gap := blanks []

/-- The gap with one more blank. Blanks around line breaks do not count. -/
def addBlank (c : Char) : Gap → Gap
  | blanks cs => blanks (cs ++ [c])
  | breaks first others => breaks first others

/-- The gap with one more line break. -/
def addBreak (c : Char) : Gap → Gap
  | blanks _ => breaks (some (keptBreak c)) []
  | breaks first others => breaks first (others ++ [keptBreak c])

/-- The text that a gap stands for. -/
def text : Gap → List Char
  | blanks cs => cs
  | breaks (some '\n') [] => [' ']
  | breaks (some '\n') others => others
  | breaks (some c) others => c :: others
  | breaks Option.none others => others

/-- Whether a gap has line breaks. -/
def isBroken : Gap → Bool
  | blanks _ => false
  | breaks _ _ => true

end Gap

/-- A text in front of that of a result. -/
def prepend (text : List Char) (result : Option (List Char × List Char)) :
    Option (List Char × List Char) :=
  result.map fun (more, rest) => (text ++ more, rest)

/-! ## Quoted scalars -/

/-- What the character after a backslash stands for. -/
inductive Escape where
  | char (c : Char)
  /-- The character whose code is written with this many hexadecimal digits. -/
  | code (digits : Nat)

/-- The escapes by the character after the backslash. -/
def escape? (c : Char) : Option Escape :=
  match c with
  | '0' => some (.char '\x00')
  | 'a' => some (.char '\x07')
  | 'b' => some (.char '\x08')
  | 't' | '\t' => some (.char '\t')
  | 'n' => some (.char '\n')
  | 'v' => some (.char '\x0b')
  | 'f' => some (.char '\x0c')
  | 'r' => some (.char '\r')
  | 'e' => some (.char '\x1b')
  | ' ' => some (.char ' ')
  | '"' => some (.char '"')
  | '/' => some (.char '/')
  | '\\' => some (.char '\\')
  | 'N' => some (.char nextLine)
  | '_' => some (.char (Char.ofNat 0xa0))
  | 'L' => some (.char lineSeparator)
  | 'P' => some (.char paragraphSeparator)
  | 'x' => some (.code 2)
  | 'u' => some (.code 4)
  | 'U' => some (.code 8)
  | _ => none

/-- Whether a code is that of a character. -/
def isCode (n : Nat) : Bool := n < 0xd800 || (0xe000 ≤ n && n < 0x110000)

/-- How the characters of a scalar between double quotes are taken. -/
inductive QuotedMode where
  | text
  /-- A backslash has been passed. -/
  | escape
  /-- The next digits belong to a code of which a part is known. -/
  | code (digits : Nat) (value : Nat)

/-- The text up to the closing double quote, and what follows it. At the start of a line there may
be no document marker; `fresh` tells whether a line starts. -/
def doubleQuoted : QuotedMode → (fresh : Bool) → Gap → List Char → Option (List Char × List Char)
  | _, _, _, [] => none
  | .text, fresh, gap, c :: rest =>
    if fresh && startsMarker (c :: rest) then none
    else if c == '"' then some (gap.text, rest)
    else if isBlank c then doubleQuoted .text false (gap.addBlank c) rest
    else if c == '\r' && startsWith '\n' rest then doubleQuoted .text false gap rest
    else if isBreak c then doubleQuoted .text true (gap.addBreak c) rest
    else if c == '\\' then prepend gap.text (doubleQuoted .escape false .none rest)
    else prepend (gap.text ++ [c]) (doubleQuoted .text false .none rest)
  | .escape, _, _, c :: rest =>
    if c == '\r' && startsWith '\n' rest then doubleQuoted .escape false .none rest
    else if isBreak c then doubleQuoted .text true (.breaks none []) rest
    else
      match escape? c with
      | some (.char e) => prepend [e] (doubleQuoted .text false .none rest)
      | some (.code digits) => doubleQuoted (.code digits 0) false .none rest
      | none => none
  | .code digits value, _, _, c :: rest =>
    match Text.hexValue? c with
    | none => none
    | some digit =>
      let value := value * 16 + digit
      if 1 < digits then doubleQuoted (.code (digits - 1) value) false .none rest
      else if isCode value then prepend [Char.ofNat value] (doubleQuoted .text false .none rest)
      else none

/-- The text up to the closing single quote, and what follows it. Two quotes stand for one. -/
def singleQuoted : (fresh : Bool) → Gap → List Char → Option (List Char × List Char)
  | _, _, [] => none
  | fresh, gap, c :: rest =>
    if fresh && startsMarker (c :: rest) then none
    else if c == '\'' then
      match rest with
      | '\'' :: rest => prepend (gap.text ++ ['\'']) (singleQuoted false .none rest)
      | rest => some (gap.text, rest)
    else if isBlank c then singleQuoted false (gap.addBlank c) rest
    else if c == '\r' && startsWith '\n' rest then singleQuoted false gap rest
    else if isBreak c then singleQuoted true (gap.addBreak c) rest
    else prepend (gap.text ++ [c]) (singleQuoted false .none rest)

/-! ## Plain scalars -/

/-- The characters that give collections in brackets their form. -/
def isFlowIndicator (c : Char) : Bool :=
  c == ',' || c == '[' || c == ']' || c == '\x7b' || c == '\x7d'

/-- The text of a plain scalar, whether a line has ended after it, and what follows it. In blocks it
ends at a line that is indented less than `indent`, and everywhere at a document marker, a comment
and a colon that is followed by a blank. -/
def plain (inFlow : Bool) (indent : Nat) :
    (column : Nat) → Gap → List Char → Option ((List Char × Bool) × List Char)
  | _, gap, [] => some (([], gap.isBroken), [])
  | column, gap, c :: rest =>
    if column = 0 && startsMarker (c :: rest) then some (([], gap.isBroken), c :: rest)
    else if isBlank c then
      if gap.isBroken && column < indent && c == '\t' then none
      else plain inFlow indent (column + 1) (gap.addBlank c) rest
    else if c == '\r' && startsWith '\n' rest then plain inFlow indent (column + 1) gap rest
    else if isBreak c then plain inFlow indent 0 (gap.addBreak c) rest
    else if gap != .none && (c == '#' || (!inFlow && column < indent)) then
      some (([], gap.isBroken), c :: rest)
    else if inFlow && c == ':' && rest.head?.any (fun d => isFlowIndicator d || d == '?') then none
    else if (c == ':' && endsWord rest) || (inFlow && isFlowIndicator c) then
      some (([], gap.isBroken), c :: rest)
    else
      (plain inFlow indent (column + 1) .none rest).map fun ((more, broken), rest) =>
        ((gap.text ++ c :: more, broken), rest)

/-! ## Block scalars -/

/-- What becomes of the line breaks at the end of a block. -/
inductive Chomping where
  /-- One of them is kept. -/
  | clip
  /-- None is kept. -/
  | strip
  /-- All are kept. -/
  | keep
  deriving DecidableEq, Repr

/-- The chomping that is asked for at the start of some text. -/
def chomping? : List Char → Option (Chomping × List Char)
  | '+' :: rest => some (.keep, rest)
  | '-' :: rest => some (.strip, rest)
  | _ => none

/-- The indentation that is asked for at the start of some text, which is not zero; zero if none is
asked for. -/
def increment? : List Char → Option (Nat × List Char)
  | [] => some (0, [])
  | c :: rest =>
    match Text.digitValue? c with
    | none => some (0, c :: rest)
    | some 0 => none
    | some n => some (n, rest)

/-- The chomping and the indentation that are asked for behind the indicator of a block, in either
order, and the lines of the block. -/
def blockHeader? (cs : List Char) : Option ((Chomping × Nat) × List Char) :=
  match chomping? cs with
  | some (chomping, rest) => do
    let (increment, rest) ← increment? rest
    some ((chomping, increment), ← afterLine? rest)
  | none => do
    let (increment, rest) ← increment? cs
    match if increment = 0 then none else chomping? rest with
    | some (chomping, rest) => some ((chomping, increment), ← afterLine? rest)
    | none => some ((.clip, increment), ← afterLine? rest)

/-- The empty lines in front of a line of a block, up to the indentation of that line. -/
structure Indentation where
  breaks : List Char
  column : Nat
  /-- The largest indentation that was passed. -/
  widest : Nat
  rest : List Char

/-- Passes over empty lines and over the indentation after them. At most `indent` spaces belong to
it, or all if `indent` is zero. -/
def indentation? (indent : Nat) :
    (column widest : Nat) → (breaks : List Char) → List Char → Option Indentation
  | column, widest, breaks, [] => some ⟨breaks, column, max widest column, []⟩
  | column, widest, breaks, c :: rest =>
    let inside : Bool := indent = 0 || column < indent
    if inside && c == ' ' then indentation? indent (column + 1) widest breaks rest
    else if inside && c == '\t' then none
    else if c == '\r' && startsWith '\n' rest then
      indentation? indent column (max widest column) breaks rest
    else if isBreak c then
      indentation? indent 0 (max widest column) (breaks ++ [keptBreak c]) rest
    else some ⟨breaks, column, max widest column, c :: rest⟩

/-- The lines of a block so far. -/
structure BlockLines where
  text : List Char := []
  /-- The break at the end of the last line. -/
  ending : List Char := []
  /-- The breaks of empty lines after it. -/
  breaks : List Char
  /-- Whether the last line starts with a blank. -/
  afterBlank : Bool := false

/-- The lines of a block with one more line, which starts with `c`. In folded blocks the break
between two lines stands for a space, unless one of them starts with a blank. -/
def BlockLines.add (b : BlockLines) (literal : Bool) (c : Char) (line ending breaks : List Char) :
    BlockLines :=
  let folds := !literal && b.ending == ['\n'] && !b.afterBlank && !isBlank c
  let joint := if folds then (if b.breaks.isEmpty then [' '] else []) else b.ending
  ⟨b.text ++ joint ++ b.breaks ++ line, ending, breaks, isBlank c⟩

/-- The break at the start of some text, as it is kept. -/
def breakAt : List Char → List Char
  | [] => []
  | c :: _ => if isBreak c then [keptBreak c] else []

/-- The lines of a block, which are those with its indentation; `fuel` bounds their number. -/
def blockLines? (literal : Bool) (indent : Nat) :
    (fuel : Nat) → (column : Nat) → BlockLines → List Char → Option (BlockLines × List Char)
  | 0, _, _, _ => none
  | _ + 1, _, b, [] => some (b, [])
  | fuel + 1, column, b, c :: rest =>
    if column = indent then do
      let line := (c :: rest).takeWhile (!isBreak ·)
      let after := (c :: rest).dropWhile (!isBreak ·)
      let i ← indentation? indent (if after.isEmpty then column + line.length else 0) 0 []
        (afterBreak after)
      let b := b.add literal c line (breakAt after) i.breaks
      blockLines? literal indent fuel i.column b i.rest
    else some (b, c :: rest)

/-- The text of a block with `outer` as the indentation around it, and what follows it. -/
def block (literal : Bool) (outer : Int) (cs : List Char) : Option (List Char × List Char) := do
  let ((chomping, increment), rest) ← blockHeader? cs
  let asked := if increment = 0 then 0 else ((max outer 0) + increment).toNat
  let i ← indentation? asked 0 0 [] rest
  let indent := if asked = 0 then max i.widest (max (outer + 1).toNat 1) else asked
  let (b, rest) ←
    blockLines? literal indent (rest.length + 1) i.column ⟨[], [], i.breaks, false⟩ i.rest
  let tail := match chomping with
    | .strip => []
    | .clip => b.ending
    | .keep => b.ending ++ b.breaks
  some (b.text ++ tail, rest)

end WorkloadAuth.Yaml
