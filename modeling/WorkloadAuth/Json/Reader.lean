import WorkloadAuth.Json.Value
import WorkloadAuth.Text.Hex
import WorkloadAuth.Text.Utf8

/-!
# Reading JSON text

A reader takes what it needs from the start of a text and leaves the rest. The first problem in
text order is the one reported.

* `Fault`: the text ends early, is no JSON, or is JSON of another kind than wanted.
* `Reader`: a reader, with `blanks`, `literal`, `string`, `number` and `mismatch`.
* `elements`, `members`: the items of an array and the members of an object, by a reader for one.
* `skip`: passes over a value of any depth. Strings and numbers are checked less than when they
  are read: unpaired surrogates and numbers of any size pass.
* `value`: reads a value of any kind, down to a given depth.
-/

namespace WorkloadAuth.Json

/-- Why a text cannot be read. -/
inductive Fault where
  /-- The text ended too early. -/
  | truncated
  /-- The text is not JSON, or goes on after its end. -/
  | malformed
  /-- The text is JSON up to here, but not of the kind wanted. -/
  | mismatched
  deriving DecidableEq, Repr

/-- A reader takes its value from the start of a text and leaves the rest. -/
abbrev Reader (α : Type) := StateT (List Char) (Except Fault) α

namespace Reader

/-- Fails with a fault. -/
def fail {α : Type} (f : Fault) : Reader α := fun _ => .error f

/-- The next character, which stays in the text. -/
def peek : Reader (Option Char) := fun cs => .ok (cs.head?, cs)

/-- Passes over the next character. -/
def advance : Reader Unit := fun cs => .ok ((), cs.tail)

/-- Whether a character is JSON whitespace. -/
def isSpace (c : Char) : Bool := c == ' ' || c == '\t' || c == '\n' || c == '\r'

/-- Passes over whitespace, and answers the character after it, which stays in the text. -/
def blanks : Reader (Option Char) := fun cs =>
  let rest := cs.dropWhile isSpace
  .ok (rest.head?, rest)

/-- Passes over a given run of characters. -/
def expect : List Char → List Char → Except Fault (Unit × List Char)
  | [], cs => .ok ((), cs)
  | _ :: _, [] => .error .truncated
  | e :: es, c :: cs => if c = e then expect es cs else .error .malformed

/-- Passes over a word of the language such as `null`. -/
def literal (word : String) : Reader Unit := expect word.toList

/-! ## Strings -/

/-- The value of four hexadecimal digits. A text that ends before four bytes is truncated. -/
def hex4 (cs : List Char) : Except Fault (Nat × List Char) :=
  match cs with
  | a :: b :: c :: d :: rest =>
    match Text.hexValue? a, Text.hexValue? b, Text.hexValue? c, Text.hexValue? d with
    | some a, some b, some c, some d => .ok (((a * 16 + b) * 16 + c) * 16 + d, rest)
    | _, _, _, _ => .error .malformed
  | _ => if (Text.Utf8.encode cs).length < 4 then .error .truncated else .error .malformed

/-- The second half of a surrogate pair, and the character that the pair encodes. -/
def lowSurrogate (high : Nat) (cs : List Char) : Except Fault (Char × List Char) :=
  match cs with
  | [] => .error .truncated
  | '\\' :: [] => .error .truncated
  | '\\' :: 'u' :: rest => do
    let (low, rest) ← hex4 rest
    if 0xdc00 ≤ low ∧ low ≤ 0xdfff then
      .ok (Char.ofNat ((high - 0xd800) * 1024 + (low - 0xdc00) + 0x10000), rest)
    else .error .malformed
  | _ => .error .malformed

/-- The character of an escape, after its backslash. -/
def escape (cs : List Char) : Except Fault (Char × List Char) :=
  match cs with
  | [] => .error .truncated
  | 'u' :: rest => do
    let (n, rest) ← hex4 rest
    if 0xdc00 ≤ n ∧ n ≤ 0xdfff then .error .malformed
    else if 0xd800 ≤ n ∧ n ≤ 0xdbff then lowSurrogate n rest
    else .ok (Char.ofNat n, rest)
  | c :: rest =>
    match c with
    | '"' | '\\' | '/' => .ok (c, rest)
    | 'b' => .ok ('\x08', rest)
    | 'f' => .ok ('\x0c', rest)
    | 'n' => .ok ('\n', rest)
    | 'r' => .ok ('\r', rest)
    | 't' => .ok ('\t', rest)
    | _ => .error .malformed

/-- The rest of a string, after its opening quote; `done` holds the characters before, the last
one first. Every step takes at least one character, so the text itself is enough `fuel`. -/
def stringBody : (fuel : List Char) → List Char → List Char → Except Fault (String × List Char)
  | [], _, _ => .error .truncated
  | _ :: _, _, [] => .error .truncated
  | _ :: fuel, done, c :: rest =>
    if c = '"' then .ok (String.ofList done.reverse, rest)
    else if c = '\\' then do
      let (e, rest) ← escape rest
      stringBody fuel (e :: done) rest
    else if c.toNat < 0x20 then .error .malformed
    else stringBody fuel (c :: done) rest

/-- A string, after its opening quote. -/
def string : Reader String := fun cs => stringBody cs [] cs

/-! ## Numbers -/

/-- A natural number rounded to fifty-three binary digits, ties to the even neighbour. -/
def roundBinary (n : Nat) : Nat :=
  let excess := n.log2 - 52
  let unit := 1 <<< excess
  let low := n / unit * unit
  let remainder := n - low
  if 2 * remainder < unit ∨ (2 * remainder = unit ∧ n / unit % 2 = 0) then low else low + unit

/-- The least number that no double precision number reaches. -/
def overflow : Nat := 1 <<< 1024

/-- Whether digits with a power of ten lie beyond the double precision numbers. The digits and the
power are rounded first, then their product. -/
def outOfRange (significand : Nat) (exponent : Int) : Bool :=
  if significand = 0 ∨ exponent < 0 then false
  else if 308 < exponent then true
  else overflow ≤ roundBinary (roundBinary significand * roundBinary (Nat.pow 10 exponent.toNat))

/-- Digits read into a number of sixty-four bits: the number, the digits that no longer fit, and
how many were taken. -/
def accumulate (n : Nat) : List Char → Nat × List Char
  | [] => (n, [])
  | c :: cs =>
    let more := n * 10 + (c.toNat - 0x30)
    if more < UInt64.size then accumulate more cs else (n, c :: cs)

/-- What follows an exponent sign: a decimal number. -/
def exponentDigits (cs : List Char) : Except Fault (List Char × List Char) :=
  match cs with
  | [] => .error .truncated
  | c :: _ =>
    if Text.isDigit c then .ok (cs.takeWhile Text.isDigit, cs.dropWhile Text.isDigit)
    else .error .malformed

/-- The exponent of a number, if there is one, as its sign and digits. -/
def exponent (cs : List Char) : Except Fault (Option (Bool × List Char) × List Char) :=
  match cs with
  | c :: rest =>
    if c = 'e' ∨ c = 'E' then
      match rest with
      | '+' :: rest => do
        let (digits, rest) ← exponentDigits rest
        .ok (some (true, digits), rest)
      | '-' :: rest => do
        let (digits, rest) ← exponentDigits rest
        .ok (some (false, digits), rest)
      | _ => do
        let (digits, rest) ← exponentDigits rest
        .ok (some (true, digits), rest)
    else .ok (none, cs)
  | [] => .ok (none, cs)

/-- The fraction of a number, if there is one, as its digits. -/
def fraction (cs : List Char) : Except Fault (Option (List Char) × List Char) :=
  match cs with
  | '.' :: rest =>
    match rest with
    | [] => .error .truncated
    | c :: _ =>
      if Text.isDigit c then
        .ok (some (rest.takeWhile Text.isDigit), rest.dropWhile Text.isDigit)
      else .error .malformed
  | _ => .ok (none, cs)

/-- The digits of a number before its fraction: no zero stands in front of another digit. -/
def wholeDigits (cs : List Char) : Except Fault (List Char × List Char) :=
  match cs with
  | [] => .error .truncated
  | '0' :: rest =>
    if rest.head?.any Text.isDigit then .error .malformed else .ok (['0'], rest)
  | c :: _ =>
    if Text.isDigit c then .ok (cs.takeWhile Text.isDigit, cs.dropWhile Text.isDigit)
    else .error .malformed

/-- Whether a number with a fraction or an exponent, or of more digits than sixty-four bits hold,
lies beyond the double precision numbers. -/
def realOutOfRange (whole : List Char) (frac : Option (List Char))
    (exp : Option (Bool × List Char)) : Bool :=
  let (significand, dropped) := accumulate 0 whole
  let digits := frac.getD []
  let (significand, unread) := accumulate significand digits
  let scale : Int := dropped.length - (digits.length - unread.length : Nat)
  match exp with
  | none => outOfRange significand scale
  | some (positive, digits) =>
    let e := Text.decimalValue digits
    if positive then outOfRange significand (scale + e)
    else outOfRange significand (scale - e)

/-- A number that is kept as it is written: the start of `cs` in front of `rest`. -/
def written (positive : Bool) (cs rest : List Char) : Number :=
  let text := cs.take (cs.length - rest.length)
  .real (String.ofList (if positive then text else '-' :: text))

/-- A number, after its sign. Whole numbers that sixty-four bits hold are told apart, other than the
negative zero. -/
def unsigned (positive : Bool) (cs : List Char) : Except Fault (Number × List Char) := do
  let (whole, rest) ← wholeDigits cs
  let (frac, rest) ← fraction rest
  let (exp, rest) ← exponent rest
  let n := Text.decimalValue whole
  let isWhole := frac.isNone && exp.isNone
  if isWhole ∧ positive ∧ n < UInt64.size then .ok (.natural (UInt64.ofNat n), rest)
  else if isWhole ∧ !positive ∧ 0 < n ∧ 2 * n ≤ UInt64.size then .ok (.negative n, rest)
  else if realOutOfRange whole frac exp then .error .malformed
  else .ok (written positive cs rest, rest)

/-- A number. -/
def number : Reader Number := fun cs =>
  match cs with
  | '-' :: rest => unsigned false rest
  | _ => unsigned true cs

/-! ## Other kinds of values -/

/-- Fails on a value of another kind than wanted. Words, numbers and strings are read first, since
they may be ill-formed themselves. -/
def mismatch {α : Type} : Reader α := do
  match ← peek with
  | some 'n' => literal "null"; fail .mismatched
  | some 't' => literal "true"; fail .mismatched
  | some 'f' => literal "false"; fail .mismatched
  | some '"' => advance; let _ ← string; fail .mismatched
  | some '[' => fail .mismatched
  | some '{' => fail .mismatched
  | some c =>
    if c = '-' || Text.isDigit c then
      let _ ← number
      fail .mismatched
    else fail .malformed
  | none => fail .malformed

/-! ## Arrays and objects -/

/-- Whether an array goes on, after its bracket or an item; passes over the comma. -/
def hasElement (first : Bool) : Reader Bool := do
  match ← blanks with
  | none => fail .truncated
  | some ']' => pure false
  | some c =>
    if first then pure true
    else if c = ',' then
      advance
      match ← blanks with
      | none => fail .truncated
      | some ']' => fail .malformed
      | some _ => pure true
    else fail .malformed

/-- Passes over the bracket at the end of an array. -/
def endArray : Reader Unit := do
  match ← blanks with
  | some ']' => advance
  | some _ => fail .malformed
  | none => fail .truncated

/-- The items of an array; `done` holds the items before, the last one first. Every item and the
closing bracket take at least one character, so the text itself is enough `fuel`. -/
def elementsFrom {α : Type} (item : Reader α) :
    (fuel : List Char) → Bool → List α → Reader (List α)
  | [], _, _ => fail .truncated
  | _ :: fuel, first, done => do
    if ← hasElement first then
      let x ← item
      elementsFrom item fuel false (x :: done)
    else pure done.reverse

/-- The items of an array, after its opening bracket, by a reader for one item. -/
def elements {α : Type} (item : Reader α) : Reader (List α) := do
  let cs ← get
  let items ← elementsFrom item cs true []
  endArray
  pure items

/-- The name of the next member of an object, after its brace or a member; passes over the comma
and answers nothing at the closing brace. -/
def memberName (first : Bool) : Reader (Option String) := do
  match ← blanks with
  | none => fail .truncated
  | some '}' => pure none
  | some c =>
    if first then
      if c = '"' then advance; some <$> string else fail .malformed
    else if c = ',' then
      advance
      match ← blanks with
      | some '"' => advance; some <$> string
      | some _ => fail .malformed
      | none => fail .truncated
    else fail .malformed

/-- Passes over the colon between a name and its value. -/
def colon : Reader Unit := do
  match ← blanks with
  | some ':' => advance
  | some _ => fail .malformed
  | none => fail .truncated

/-- Passes over the brace at the end of an object. -/
def endObject : Reader Unit := do
  match ← blanks with
  | some '}' => advance
  | some _ => fail .malformed
  | none => fail .truncated

/-- Folds the members of an object into `state`. The step is run after each name, before its colon.
Every member and the closing brace take at least one character, so the text itself is enough
`fuel`. -/
def membersFrom {σ : Type} (step : σ → String → Reader σ) :
    (fuel : List Char) → Bool → σ → Reader σ
  | [], _, _ => fail .truncated
  | _ :: fuel, first, state => do
    match ← memberName first with
    | none => pure state
    | some name =>
      let state ← step state name
      membersFrom step fuel false state

/-- Folds the members of an object, after its opening brace and up to its closing one. -/
def members {σ : Type} (step : σ → String → Reader σ) (state : σ) : Reader σ := do
  let cs ← get
  membersFrom step cs true state

/-! ## Passing over values -/

/-- Passes over the rest of a string, after its opening quote. The text itself is enough `fuel`. -/
def skipStringBody : (fuel : List Char) → List Char → Except Fault (Unit × List Char)
  | [], _ => .error .truncated
  | _ :: _, [] => .error .truncated
  | _ :: fuel, c :: rest =>
    if c = '"' then .ok ((), rest)
    else if c = '\\' then
      match rest with
      | [] => .error .truncated
      | 'u' :: rest => do
        let (_, rest) ← hex4 rest
        skipStringBody fuel rest
      | e :: rest =>
        if e ∈ ['"', '\\', '/', 'b', 'f', 'n', 'r', 't'] then skipStringBody fuel rest
        else .error .malformed
    else if c.toNat < 0x20 then .error .malformed
    else skipStringBody fuel rest

/-- Passes over a string, after its opening quote. -/
def skipString : Reader Unit := fun cs => skipStringBody cs cs

/-- Passes over at least one digit; none is an ill-formed number even where the text ends. -/
def skipDigits (cs : List Char) : Except Fault (List Char) :=
  if cs.head?.any Text.isDigit then .ok (cs.dropWhile Text.isDigit) else .error .malformed

/-- Passes over an exponent, if there is one. -/
def skipExponent (cs : List Char) : Except Fault (List Char) :=
  match cs with
  | c :: rest =>
    if c = 'e' ∨ c = 'E' then
      match rest with
      | '+' :: rest => skipDigits rest
      | '-' :: rest => skipDigits rest
      | _ => skipDigits rest
    else .ok cs
  | [] => .ok cs

/-- Passes over a number, after its sign. -/
def skipNumber (cs : List Char) : Except Fault (Unit × List Char) := do
  let rest ← match cs with
    | '0' :: rest => if rest.head?.any Text.isDigit then .error .malformed else .ok rest
    | _ => skipDigits cs
  let rest ← match rest with
    | '.' :: rest => skipDigits rest
    | _ => .ok rest
  let rest ← skipExponent rest
  .ok ((), rest)

/-- An array or an object that is being passed over. -/
inductive Nest where
  | array
  | object
  deriving DecidableEq

/-- Passes over the name and the colon in front of the next value, if it belongs to an object. -/
def skipName : Nest → Reader Unit
  | .array => pure ()
  | .object => do
    match ← blanks with
    | some '"' => advance; skipString; colon
    | some _ => fail .malformed
    | none => fail .truncated

/-- After a value, or at the start of a container: passes over closing brackets, and the comma in
front of the next value. Answers the containers that are still open, the innermost one first. -/
def skipClosings : Bool → List Nest → Reader (List Nest)
  | _, [] => pure []
  | comma, nest :: outer => do
    match ← blanks with
    | none => fail .truncated
    | some c =>
      if c = ',' && comma then
        advance
        pure (nest :: outer)
      else if (c = ']' && nest = .array) || (c = '}' && nest = .object) then
        advance
        skipClosings true outer
      else if comma then fail .malformed
      else pure (nest :: outer)

/-- Passes over values until no container is open. Every value takes at least one character, so the
text itself is enough `fuel`. -/
def skipFrom : (fuel : List Char) → List Nest → Reader Unit
  | [], _ => fail .truncated
  | _ :: fuel, nests => do
    let goOn (comma : Bool) (nests : List Nest) : Reader Unit := do
      match ← skipClosings comma nests with
      | [] => pure ()
      | nest :: outer =>
        skipName nest
        skipFrom fuel (nest :: outer)
    match ← blanks with
    | none => fail .truncated
    | some 'n' => literal "null"; goOn true nests
    | some 't' => literal "true"; goOn true nests
    | some 'f' => literal "false"; goOn true nests
    | some '"' => advance; skipString; goOn true nests
    | some '[' => advance; goOn false (.array :: nests)
    | some '{' => advance; goOn false (.object :: nests)
    | some '-' => advance; skipNumber; goOn true nests
    | some c => if Text.isDigit c then do skipNumber; goOn true nests else fail .malformed

/-- Passes over a value of any kind and depth. -/
def skip : Reader Unit := do
  let cs ← get
  skipFrom cs []

/-! ## Values of any kind -/

/-- A value whose containers nest less than `depth` deep. -/
def value : Nat → Reader Value
  | 0 => fail .malformed
  | depth + 1 => do
    match ← blanks with
    | none => fail .truncated
    | some 'n' => literal "null"; pure .null
    | some 't' => literal "true"; pure (.bool true)
    | some 'f' => literal "false"; pure (.bool false)
    | some '"' => advance; .string <$> string
    | some '[' =>
      if depth = 0 then fail .malformed
      else
        advance
        .array <$> elements (value depth)
    | some '{' =>
      if depth = 0 then fail .malformed
      else
        advance
        let found ← members (fun found name => do
          colon
          let v ← value depth
          pure ((name, v) :: found)) []
        endObject
        pure (.object found.reverse)
    | some c => if c = '-' || Text.isDigit c then .number <$> number else fail .malformed

/-- The depth that containers of a value that is kept have to stay below. -/
def depthLimit : Nat := 128

/-- Reads a whole text: after the value, only whitespace may follow. -/
def run {α : Type} (reader : Reader α) (text : String) : Except Fault α := do
  let (a, rest) ← reader text.toList
  let (next, _) ← blanks rest
  if next.isSome then .error .malformed else .ok a

end Reader

/-- The value of a text. -/
def parse (text : String) : Except Fault Value := Reader.run (Reader.value Reader.depthLimit) text

end WorkloadAuth.Json
