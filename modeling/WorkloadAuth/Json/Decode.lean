import WorkloadAuth.Schema
import WorkloadAuth.Json.Reader

/-!
# Reading JSON by a schema

A record is written as an object, whose members may come in any order and of which unknown ones
are passed over, or as the array of its fields. A field that is given twice is a fault at its
second name, and a missing one at the end of the record.

* `Shape.reader`: the reader of a schema.
* `Shape.ofJson`: the value of a whole text.
-/

namespace WorkloadAuth

open Json Json.Reader

namespace Json.Reader

/-- A text. -/
def readText : Reader String := do
  match ← blanks with
  | none => fail .truncated
  | some '"' => advance; string
  | some _ => mismatch

/-- A whole number from 0 to 2^64 - 1. -/
def readNatural : Reader UInt64 := do
  match ← blanks with
  | none => fail .truncated
  | some c =>
    if c = '-' || Text.isDigit c then
      match ← number with
      | .natural n => pure n
      | _ => fail .mismatched
    else mismatch

/-- A whole number from -2^63 to 2^63 - 1. -/
def readInteger : Reader Int64 := do
  match ← blanks with
  | none => fail .truncated
  | some c =>
    if c = '-' || Text.isDigit c then
      match ← number with
      | .natural n =>
        if n.toNat ≤ Int64.maxValue.toInt then pure (Int64.ofNat n.toNat) else fail .mismatched
      | .negative n => pure (Int64.ofInt (-n))
      | .real _ => fail .mismatched
    else mismatch

/-- A truth value. -/
def readFlag : Reader Bool := do
  match ← blanks with
  | none => fail .truncated
  | some 't' => literal "true"; pure true
  | some 'f' => literal "false"; pure false
  | some _ => mismatch

/-- The option with a given name. -/
def option {α : Type} (options : List (String × α)) (name : String) : Reader α :=
  match options.find? (fun o => o.1 == name) with
  | some o => pure o.2
  | none => fail .mismatched

/-- The nothing that belongs to a name without content. -/
def readNull : Reader Unit := do
  match ← blanks with
  | none => fail .truncated
  | some 'n' => literal "null"
  | some _ => mismatch

/-- One of some names, alone or as the name of an object's only member, whose value is `null`. -/
def readChoice {α : Type} (options : List (String × α)) : Reader α := do
  match ← blanks with
  | none => fail .truncated
  | some '"' => advance; option options (← string)
  | some '\x7b' =>
    advance
    let a ← option options (← readText)
    colon
    readNull
    match ← blanks with
    | some '\x7d' => advance; pure a
    | some _ => fail .malformed
    | none => fail .truncated
  | some _ => fail .malformed

end Json.Reader

mutual

/-- The reader of a schema. Containers may nest less than `depth` deep. -/
def Shape.reader : {α : Type} → Shape α → Nat → Reader α
  | _, .text, _ => readText
  | _, .natural, _ => readNatural
  | _, .integer, _ => readInteger
  | _, .flag, _ => readFlag
  | _, .parsed parse _, _ => do
    match parse (← readText) with
    | some a => pure a
    | none => fail .mismatched
  | _, .choice options _, _ => readChoice options
  | _, .list item, depth => do
    match ← blanks with
    | none => fail .truncated
    | some '[' =>
      if depth ≤ 1 then fail .malformed
      else advance; elements (item.reader (depth - 1))
    | some _ => mismatch
  | _, .dictionary, depth => do
    match ← blanks with
    | none => fail .truncated
    | some '\x7b' =>
      if depth ≤ 1 then fail .malformed
      else
        advance
        let found ← members (fun (found : Dictionary String) name => do
          colon
          let v ← readText
          pure (found.insert name v)) Dictionary.empty
        endObject
        pure found
    | some _ => mismatch
  | _, .any, depth => value depth
  | _, .record fields build _, depth => do
    match ← blanks with
    | none => fail .truncated
    | some '[' =>
      if depth ≤ 1 then fail .malformed
      else
        advance
        let draft ← fields.readSequence (depth - 1) true
        match fields.fill draft with
        | some r => endArray; pure (build r)
        | none => fail .mismatched
    | some '\x7b' =>
      if depth ≤ 1 then fail .malformed
      else
        advance
        let draft ←
          members (fun draft name => fields.readMember (depth - 1) name draft) fields.blank
        match fields.fill draft with
        | some r => endObject; pure (build r)
        | none => fail .mismatched
    | some _ => mismatch

/-- Reads the value of a member after its name. -/
def Fields.readMember : {ρ : Type} → (fields : Fields ρ) → Nat → String → fields.Draft →
    Reader fields.Draft
  | _, .nil, _, _, _ => do
    colon
    skip
  | _, .cons (α := α) field _ shape rest, depth, name, draft =>
    let (given, more) : Option α × rest.Draft := draft
    if name = field then
      match given with
      | some _ => fail .mismatched
      | none => do
        colon
        let a ← shape.reader depth
        pure ((some a, more) : Option α × rest.Draft)
    else do
      let more ← rest.readMember depth name more
      pure ((given, more) : Option α × rest.Draft)

/-- Reads fields from the items of an array, until there are no more items or fields. -/
def Fields.readSequence : {ρ : Type} → (fields : Fields ρ) → Nat → Bool → Reader fields.Draft
  | _, .nil, _, _ => pure ()
  | _, .cons (α := α) _ default shape rest, depth, first => do
    if ← hasElement first then
      let a ← shape.reader depth
      let more ← rest.readSequence depth false
      pure ((some a, more) : Option α × rest.Draft)
    else if default.isSome then
      let more ← rest.readSequence depth first
      pure ((none, more) : Option α × rest.Draft)
    else fail .mismatched

end

/-- The value of a whole text. -/
def Shape.ofJson {α : Type} (shape : Shape α) (text : String) : Except Fault α :=
  run (shape.reader depthLimit) text

end WorkloadAuth
