import WorkloadAuth.Yaml.Lexer

/-!
# The nodes of a YAML text

* `Node`: scalars, sequences and mappings, with marks on the nodes that others refer to.
* `Node.ofTokens?`: the node that some tokens write. A text has a single document.
* `Node.resolve`: a node without marks and references.
-/

namespace WorkloadAuth.Yaml

/-- A node of a text. -/
inductive Node where
  /-- A reference to the marked node. -/
  | reference (mark : Nat)
  /-- A scalar with its whole tag. -/
  | scalar (tag : Option (List UInt8)) (style : Style) (text : String)
  | sequence (items : List Node)
  | mapping (entries : List (Node × Node))
  /-- A node that others refer to. -/
  | marked (mark : Nat) (node : Node)
  deriving Repr, Inhabited

namespace Node

/-- The node of which nothing is written. -/
def empty : Node := .scalar none .plain ""

/-! ## Tags -/

/-- What handles stand for. -/
abbrev Handles := List (String × List UInt8)

/-- What handles stand for where nothing else is said. -/
def defaultHandles : Handles :=
  [("!", [0x21]), ("!!", Text.Utf8.encode "tag:yaml.org,2002:".toList)]

/-- A whole tag. -/
def wholeTag? (handles : Handles) (tag : Tag) : Option (List UInt8) :=
  if tag.handle.isEmpty then some tag.suffix
  else
    match handles.find? (fun h => h.1 == tag.handle) with
    | some (_, start) => some (start ++ tag.suffix)
    | none => none

/-! ## Reading tokens -/

/-- What is left of the tokens, and the marks of the anchors so far. -/
structure Reading where
  tokens : List Token
  marks : List (String × Nat) := []

/-- Takes what it needs from the tokens. -/
abbrev Reader (α : Type) := StateT Reading Option α

/-- The next token, which stays. -/
def peek : Reader (Option Token) := fun r => some (r.tokens.head?, r)

/-- Passes over the next token. -/
def skip : Reader Unit := fun r => some ((), { r with tokens := r.tokens.tail })

/-- Passes over the next token if it is a given one, and tells whether it is. -/
def accept (token : Token) : Reader Bool := fun r =>
  if r.tokens.head? = some token then some (true, { r with tokens := r.tokens.tail })
  else some (false, r)

/-- Passes over the next token, which is a given one. -/
def expect (token : Token) : Reader Unit := fun r =>
  if r.tokens.head? = some token then some ((), { r with tokens := r.tokens.tail }) else none

/-- Whether the next token is one of some. -/
def isNext (tokens : List Token) : Reader Bool := fun r =>
  some (r.tokens.head?.any tokens.contains, r)

/-- A new mark for the node of an anchor: the number of other anchors there are by now. An anchor
that is given again marks the new node. -/
def mark (anchor : String) : Reader Nat := fun r =>
  let fresh := r.marks.length
  some (fresh, { r with marks := (anchor, fresh) :: r.marks.filter (fun m => m.1 ≠ anchor) })

/-- The mark of an anchor. -/
def markOf (anchor : String) : Reader Nat := fun r =>
  match r.marks.find? (fun m => m.1 == anchor) with
  | some (_, n) => some (n, r)
  | none => none

/-- The anchor in front of a node. -/
def anchor? : Reader (Option String) := do
  match ← peek with
  | some (.anchor name) => skip; pure (some name)
  | _ => pure none

/-- The tag in front of a node. -/
def tag? : Reader (Option Tag) := do
  match ← peek with
  | some (.tag tag) => skip; pure (some tag)
  | _ => pure none

/-- The anchor and the tag in front of a node, in either order. -/
def properties : Reader (Option String × Option Tag) := do
  match ← anchor? with
  | some name => pure (some name, ← tag?)
  | none =>
    match ← tag? with
    | some tag => pure (← anchor?, some tag)
    | none => pure (none, none)

/-- The whole tag of a node. -/
def resolveTag (handles : Handles) : Option Tag → Reader (Option (List UInt8))
  | none => pure none
  | some tag => fun r => (wholeTag? handles tag).map fun whole => (some whole, r)

mutual

/-- A node. In brackets there are no blocks; where `indentless` is set, the items of a sequence may
stand without a block of their own. The readers of nodes take `fuel` for the number of steps. -/
def node (handles : Handles) (inBlock indentless : Bool) : (fuel : Nat) → Reader Node
  | 0 => failure
  | fuel + 1 => do
    match ← peek with
    | some (.reference name) => skip; pure (.reference (← markOf name))
    | _ =>
      let (anchor, tag) ← properties
      let tag ← resolveTag handles tag
      match anchor with
      | some name =>
        let n ← mark name
        pure (.marked n (← content handles inBlock indentless true tag fuel))
      | none => content handles inBlock indentless tag.isSome tag fuel

/-- What follows the anchor and the tag of a node. It may be empty if there is one of them. -/
def content (handles : Handles) (inBlock indentless mayBeEmpty : Bool) (tag : Option (List UInt8)) :
    (fuel : Nat) → Reader Node
  | 0 => failure
  | fuel + 1 => do
    match ← peek with
    | some (.scalar style text) =>
      skip
      pure (.scalar tag style text)
    | some .flowSequenceStart => skip; pure (.sequence (← flowSequence handles true fuel))
    | some .flowMappingStart => skip; pure (.mapping (← flowMapping handles true fuel))
    | next =>
      if indentless && next == some .blockEntry then
        pure (.sequence (← indentlessSequence handles fuel))
      else if inBlock && next == some .blockSequenceStart then
        skip
        pure (.sequence (← blockSequence handles fuel))
      else if inBlock && next == some .blockMappingStart then
        skip
        pure (.mapping (← blockMapping handles fuel))
      else if mayBeEmpty then pure (.scalar tag .plain "")
      else failure

/-- A node in a block, or an empty one if one of some tokens follows. -/
def blockNode (handles : Handles) (indentless : Bool) (ends : List Token) :
    (fuel : Nat) → Reader Node
  | 0 => failure
  | fuel + 1 => do
    if ← isNext ends then pure empty else node handles true indentless fuel

/-- A node in brackets, or an empty one if one of some tokens follows. -/
def flowNode (handles : Handles) (ends : List Token) : (fuel : Nat) → Reader Node
  | 0 => failure
  | fuel + 1 => do
    if ← isNext ends then pure empty else node handles false false fuel

/-- The items of a sequence in a block. -/
def blockSequence (handles : Handles) : (fuel : Nat) → Reader (List Node)
  | 0 => failure
  | fuel + 1 => do
    if ← accept .blockEntry then
      let item ← blockNode handles false [.blockEntry, .blockEnd] fuel
      pure (item :: (← blockSequence handles fuel))
    else
      expect .blockEnd
      pure []

/-- The items of a sequence that has no block of its own. -/
def indentlessSequence (handles : Handles) : (fuel : Nat) → Reader (List Node)
  | 0 => failure
  | fuel + 1 => do
    if ← accept .blockEntry then
      let item ← blockNode handles false [.blockEntry, .key, .value, .blockEnd] fuel
      pure (item :: (← indentlessSequence handles fuel))
    else pure []

/-- The entries of a mapping in a block. -/
def blockMapping (handles : Handles) : (fuel : Nat) → Reader (List (Node × Node))
  | 0 => failure
  | fuel + 1 => do
    if ← accept .key then
      let key ← blockNode handles true [.key, .value, .blockEnd] fuel
      let value ←
        if ← accept .value then blockNode handles true [.key, .value, .blockEnd] fuel
        else pure empty
      pure ((key, value) :: (← blockMapping handles fuel))
    else
      expect .blockEnd
      pure []

/-- The items of a sequence in brackets. Behind the first one, items follow commas. -/
def flowSequence (handles : Handles) (first : Bool) : (fuel : Nat) → Reader (List Node)
  | 0 => failure
  | fuel + 1 => do
    if ← accept .flowSequenceEnd then pure []
    else
      if !first then expect .flowEntry
      if ← accept .flowSequenceEnd then pure []
      else
        let item ←
          if ← accept .key then flowPair handles fuel
          else node handles false false fuel
        pure (item :: (← flowSequence handles false fuel))

/-- A mapping of a single entry, as an item of a sequence in brackets. Where nothing is written of
its key, the token that tells so is lost. -/
def flowPair (handles : Handles) : (fuel : Nat) → Reader Node
  | 0 => failure
  | fuel + 1 => do
    let key ←
      if ← isNext [.value, .flowEntry, .flowSequenceEnd] then
        skip
        pure empty
      else node handles false false fuel
    let value ←
      if ← accept .value then flowNode handles [.flowEntry, .flowSequenceEnd] fuel
      else pure empty
    pure (.mapping [(key, value)])

/-- The entries of a mapping in brackets. Behind the first one, entries follow commas. -/
def flowMapping (handles : Handles) (first : Bool) : (fuel : Nat) → Reader (List (Node × Node))
  | 0 => failure
  | fuel + 1 => do
    if ← accept .flowMappingEnd then pure []
    else
      if !first then expect .flowEntry
      if ← accept .flowMappingEnd then pure []
      else if ← accept .key then
        let key ← flowNode handles [.value, .flowEntry, .flowMappingEnd] fuel
        let value ←
          if ← accept .value then flowNode handles [.flowEntry, .flowMappingEnd] fuel
          else pure empty
        pure ((key, value) :: (← flowMapping handles false fuel))
      else
        let key ← node handles false false fuel
        pure ((key, empty) :: (← flowMapping handles false fuel))

end

/-! ## Documents -/

/-- The handles of the directives at the start of a document, which ask for a version that can be
read and give no handle twice; `versioned` tells whether a version has been asked for. -/
def directives : (versioned : Bool) → Handles → List Token → Option (Handles × List Token)
  | versioned, handles, .version major minor :: rest =>
    if versioned ∨ major ≠ 1 ∨ (minor ≠ 1 ∧ minor ≠ 2) then none else directives true handles rest
  | versioned, handles, .tagStart handle start :: rest =>
    if handles.any (fun h => h.1 == handle) then none
    else directives versioned ((handle, start) :: handles) rest
  | _, handles, tokens => some (handles ++ defaultHandles, tokens)

/-- Whether a token belongs to the structure of documents. -/
def isDocumentToken : Token → Bool
  | .version _ _ | .tagStart _ _ | .documentStart | .documentEnd => true
  | _ => false

/-- The node that some tokens write, and the tokens behind it. -/
def whole? (handles : Handles) (tokens : List Token) : Option (Node × List Token) := do
  let (n, r) ← (node handles true false (4 * tokens.length + 4)).run { tokens := tokens }
  some (n, r.tokens)

/-- The node of the document at the start of some tokens, and the tokens behind it. -/
def document? (tokens : List Token) : Option (Node × List Token) :=
  match tokens with
  | [] => none
  | .documentEnd :: _ => none
  | first :: _ =>
    if isDocumentToken first then do
      match ← directives false [] tokens with
      | (handles, .documentStart :: rest) =>
        if rest.head?.all isDocumentToken then some (empty, rest) else whole? handles rest
      | _ => none
    else whole? defaultHandles tokens

/-- The node that some tokens write; no other document follows. -/
def ofTokens? (tokens : List Token) : Option Node := do
  let (n, rest) ← document? tokens
  if (rest.dropWhile (· == .documentEnd)).isEmpty then some n else none

/-- The node of a text. -/
def parse? (text : String) : Option Node := do ofTokens? (← tokens? text.toList)

/-! ## References -/

mutual

/-- The marked nodes inside of a node, in the order of their starts. -/
def marks : Node → List (Nat × Node)
  | .reference _ => []
  | .scalar _ _ _ => []
  | .sequence items => marksOfItems items
  | .mapping entries => marksOfEntries entries
  | .marked n inner => (n, inner) :: inner.marks

/-- The marked nodes inside of some nodes. -/
def marksOfItems : List Node → List (Nat × Node)
  | [] => []
  | item :: items => item.marks ++ marksOfItems items

/-- The marked nodes inside of some entries. -/
def marksOfEntries : List (Node × Node) → List (Nat × Node)
  | [] => []
  | (key, value) :: entries => key.marks ++ value.marks ++ marksOfEntries entries

end

/-- A node without its mark, or the node that it refers to, which is the last one with that mark. -/
def resolve (marks : List (Nat × Node)) : Node → Node
  | .reference n => ((marks.reverse.find? (fun m => m.1 == n)).map (·.2)).getD empty
  | .marked _ inner => inner
  | n => n

end Node

end WorkloadAuth.Yaml
