import WorkloadAuth.Schema
import WorkloadAuth.Text.Utf8
import WorkloadAuth.Yaml.Node

/-!
# Reading YAML by a schema

A record is written as a mapping. Of its entries, unknown ones are passed over, and a field may not
be given twice. Texts may be written as scalars of any style, also where they look like something
else; numbers only as plain ones.

* `Shape.ofNode`: the value of a node.
* `Shape.ofYaml`: the value of a whole text.
-/

namespace WorkloadAuth

open Yaml

namespace Yaml.Node

/-- The text of a scalar. -/
def text? : Node → Option String
  | .scalar _ _ text => some text
  | _ => none

/-- Whether nothing is written of a node. -/
def isBlank : Node → Bool
  | .scalar _ .plain "" => true
  | _ => false

/-- The items of a sequence, of which nothing need be written if there are none. -/
def items? : Node → Option (List Node)
  | .sequence items => some items
  | n => if n.isBlank then some [] else none

/-- The entries of a mapping, of which nothing need be written if there are none. -/
def entries? : Node → Option (List (Node × Node))
  | .mapping entries => some entries
  | n => if n.isBlank then some [] else none

/-- The tag of whole numbers. -/
def wholeNumberTag : List UInt8 := Text.Utf8.encode "tag:yaml.org,2002:int".toList

/-- The text of a scalar that may be a number: plain ones, and literal blocks that say so. -/
def numeral? : Node → Option (List Char)
  | .scalar _ .plain text => some text.toList
  | .scalar (some tag) .literal text => if tag = wholeNumberTag then some text.toList else none
  | _ => none

/-- The texts of nothing. -/
def nullTexts : List String := ["", "~", "null", "Null", "NULL"]

/-- Whether a plain scalar stands for nothing. -/
def isNull : Node → Bool
  | .scalar _ .plain text => nullTexts.contains text
  | _ => false

end Yaml.Node

namespace Yaml

/-! ## Numbers -/

/-- The value of a digit of any base up to sixteen. -/
def digitOf? (base : Nat) (c : Char) : Option Nat :=
  match Text.hexValue? c with
  | some d => if d < base then some d else none
  | none => none

/-- The number that digits of a base write; there is at least one. -/
def number? (base : Nat) (digits : List Char) : Option Nat :=
  if digits.isEmpty then none
  else (digits.mapM (digitOf? base)).map fun ds => ds.foldl (fun n d => n * base + d) 0

/-- The digits of a number of some base, behind what tells the base. -/
def digits? (start : List Char) (cs : List Char) : Option (List Char) :=
  if start.isPrefixOf cs then some (cs.drop start.length) else none

/-- Whether zeros stand in front of a decimal number, which is no number then. -/
def isPadded : List Char → Bool
  | '0' :: c :: rest => (c :: rest).all Text.isDigit
  | _ => false

/-- A number without sign: a decimal one, or one of another base behind what tells the base. A base
that does not fit is no fault yet. -/
def magnitude? (cs : List Char) : Option Nat :=
  ((digits? "0x".toList cs).bind (number? 16)).or <|
    ((digits? "0o".toList cs).bind (number? 8)).or <|
      ((digits? "0b".toList cs).bind (number? 2)).or <|
        if isPadded cs then none else number? 10 cs

/-- A number from 0 to 2^64 - 1, with an optional plus. -/
def natural? (cs : List Char) : Option UInt64 := do
  let n ← magnitude? (match cs with
    | '+' :: rest => rest
    | cs => cs)
  if n < UInt64.size then some (UInt64.ofNat n) else none

/-- A number from -2^63 to 2^63 - 1, with an optional sign. -/
def integer? (cs : List Char) : Option Int64 := do
  let n ← match cs with
    | '-' :: rest => (magnitude? rest).map fun n => -(n : Int)
    | '+' :: rest => (magnitude? rest).map Int.ofNat
    | cs => (magnitude? cs).map Int.ofNat
  if Int64.minValue.toInt ≤ n ∧ n ≤ Int64.maxValue.toInt then some (Int64.ofInt n) else none

/-- A truth value. -/
def flag? (text : String) : Option Bool :=
  if ["true", "True", "TRUE"].contains text then some true
  else if ["false", "False", "FALSE"].contains text then some false
  else none

/-! ## Choices -/

/-- The name of the option that a node writes: the name of its own tag, if it has one and nothing
else, or its text. -/
def optionName? : Node → Option String
  | .scalar (some (0x21 :: name)) style text =>
    if Node.isNull (.scalar none style text) then
      (Text.Utf8.decode? name).map String.ofList
    else none
  | .scalar _ _ text => some text
  | _ => none

end Yaml

/-! ## Values -/

mutual

/-- The value of a node, which may refer to the marked nodes. There is no schema of arbitrary JSON
here. -/
def Shape.ofNode (marks : List (Nat × Node)) : {α : Type} → Shape α → Node → Option α
  | _, .text, n => (n.resolve marks).text?
  | _, .natural, n => do natural? (← (n.resolve marks).numeral?)
  | _, .integer, n => do integer? (← (n.resolve marks).numeral?)
  | _, .flag, n => do flag? (String.ofList (← (n.resolve marks).numeral?))
  | _, .parsed parse _, n => do parse (← (n.resolve marks).text?)
  | _, .choice options _, n => do
    let name ← optionName? (n.resolve marks)
    (options.find? (fun o => o.1 == name)).map (·.2)
  | _, .list item, n => do (← (n.resolve marks).items?).mapM (item.ofNode marks)
  | _, .dictionary, n => do
    let entries ← (← (n.resolve marks).entries?).mapM fun (key, value) => do
      some (← (key.resolve marks).text?, ← (value.resolve marks).text?)
    some (Dictionary.ofList entries)
  | _, .any, _ => none
  | _, .record fields build _, n => do
    let entries ← (n.resolve marks).entries?
    let draft ← entries.foldlM (fun draft (key, value) => do
      fields.ofEntry marks (← (key.resolve marks).text?) value draft) fields.blank
    (fields.fill draft).map build

/-- The fields with one more entry of a mapping. -/
def Fields.ofEntry (marks : List (Nat × Node)) : {ρ : Type} → (fields : Fields ρ) → String → Node →
    fields.Draft → Option fields.Draft
  | _, .nil, _, _, _ => some ()
  | _, .cons (α := α) field _ shape rest, name, n, draft =>
    let (given, more) : Option α × rest.Draft := draft
    if name = field then
      match given with
      | some _ => none
      | none => (shape.ofNode marks n).map fun a => ((some a, more) : Option α × rest.Draft)
    else (rest.ofEntry marks name n more).map fun more => ((given, more) : Option α × rest.Draft)

end

/-- The value of a whole text. -/
def Shape.ofYaml {α : Type} (shape : Shape α) (text : String) : Option α := do
  let n ← Node.parse? text
  shape.ofNode n.marks n

end WorkloadAuth
