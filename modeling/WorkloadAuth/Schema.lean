import WorkloadAuth.Dictionary
import WorkloadAuth.Json.Value

/-!
# Schemas

What the text of a value looks like, independent of whether that text is JSON or YAML. A schema is
read by the one and the other reader, and written by the JSON writer.

* `Shape α`: the schema of the values of a type.
* `Fields ρ`: the fields of a record, in order; `ρ` is the product of their types.
* `Fields.Draft`: the fields of a record of which some have been read.
* `Fields.fill`: the record of a draft, where defaults stand for fields that were not given.
-/

namespace WorkloadAuth

mutual

/-- The schema of the values of a type. -/
inductive Shape : Type → Type 1 where
  /-- A text. -/
  | text : Shape String
  /-- A whole number from 0 to 2^64 - 1. -/
  | natural : Shape UInt64
  /-- A whole number from -2^63 to 2^63 - 1. -/
  | integer : Shape Int64
  /-- A truth value. -/
  | flag : Shape Bool
  /-- A text in a form of its own. -/
  | parsed {α : Type} (parse : String → Option α) (render : α → String) : Shape α
  /-- One of some names. -/
  | choice {α : Type} (options : List (String × α)) (name : α → String) : Shape α
  /-- A list. -/
  | list {α : Type} (item : Shape α) : Shape (List α)
  /-- A map from texts to texts. -/
  | dictionary : Shape (Dictionary String)
  /-- Any JSON value. -/
  | any : Shape Json.Value
  /-- A record; `build` and `parts` go between the value and the product of its fields. -/
  | record {ρ α : Type} (fields : Fields ρ) (build : ρ → α) (parts : α → ρ) : Shape α

/-- The fields of a record. A field with a default need not be given. -/
inductive Fields : Type → Type 1 where
  | nil : Fields Unit
  | cons {α ρ : Type} (name : String) (default : Option α) (shape : Shape α) (rest : Fields ρ) :
      Fields (α × ρ)

end

namespace Fields

/-- A required field in front of others. -/
def required {α ρ : Type} (name : String) (shape : Shape α) (rest : Fields ρ) : Fields (α × ρ) :=
  .cons name none shape rest

/-- A field with a default in front of others. -/
def optional {α ρ : Type} (name : String) (default : α) (shape : Shape α) (rest : Fields ρ) :
    Fields (α × ρ) :=
  .cons name (some default) shape rest

/-- The fields of a record of which some have been read. -/
def Draft : {ρ : Type} → Fields ρ → Type
  | _, .nil => Unit
  | _, .cons (α := α) _ _ _ rest => Option α × rest.Draft

/-- The draft of which nothing has been read. -/
def blank : {ρ : Type} → (fields : Fields ρ) → fields.Draft
  | _, .nil => ()
  | _, .cons _ _ _ rest => (none, rest.blank)

/-- The fields of a draft, with defaults for those that were not given. -/
def fill : {ρ : Type} → (fields : Fields ρ) → fields.Draft → Option ρ
  | _, .nil, _ => some ()
  | _, .cons (α := α) _ default _ rest, draft => do
    let (given, more) : Option α × rest.Draft := draft
    let field ← given.or default
    let fields ← rest.fill more
    some (field, fields)

/-- The names of the fields, in order. -/
def names : {ρ : Type} → Fields ρ → List String
  | _, .nil => []
  | _, .cons name _ _ rest => name :: rest.names

end Fields

end WorkloadAuth
