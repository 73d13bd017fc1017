import WorkloadAuth.Schema
import WorkloadAuth.Json.Writer

/-!
# Writing JSON by a schema

A record is written as the object of its fields, in order and without leaving any out.

* `Shape.encode`: the JSON value of a value, whose names and texts the schema gives.
* `Shape.toJson`: its compact text.
-/

namespace WorkloadAuth

open Json

/-- The whole number of sixty-four bits with a sign, as a JSON number. -/
def Json.integer (n : Int64) : Json.Value := Json.Value.ofInt n.toInt

mutual

/-- The JSON value of a value. -/
def Shape.encode : {α : Type} → Shape α → α → Json.Value
  | _, .text, s => .string s
  | _, .natural, n => .number (.natural n)
  | _, .integer, n => Json.integer n
  | _, .flag, b => .bool b
  | _, .parsed _ render, a => .string (render a)
  | _, .choice _ name, a => .string (name a)
  | _, .list item, as => .array (as.map item.encode)
  | _, .dictionary, d => .object (d.entries.map fun (k, v) => (k, .string v))
  | _, .any, v => v
  | _, .record fields _ parts, a => .object (fields.encode (parts a))

/-- The members of a record. -/
def Fields.encode : {ρ : Type} → Fields ρ → ρ → List (String × Json.Value)
  | _, .nil, _ => []
  | _, .cons name _ shape rest, (field, more) => (name, shape.encode field) :: rest.encode more

end

/-- The compact JSON text of a value. -/
def Shape.toJson {α : Type} (shape : Shape α) (a : α) : String := (shape.encode a).render

end WorkloadAuth
