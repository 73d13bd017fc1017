/-!
# JSON values

* `Number`: a number. Whole numbers that fit into sixty-four bits are told apart from the others,
  since only they can be counts.
* `Value`: a JSON value. The members of an object keep the order they have in the text; where a
  name is given twice, `Value.member?` finds the last one.
-/

namespace WorkloadAuth.Json

/-- A number. -/
inductive Number where
  /-- A whole number below 2^64, written without sign, fraction or exponent. -/
  | natural (n : UInt64)
  /-- The negative of a whole number from 1 to 2^63, written without fraction or exponent. -/
  | negative (n : Nat)
  /-- Any other number, by its text. -/
  | real (text : String)
  deriving DecidableEq, Repr

/-- A JSON value. -/
inductive Value where
  | null
  | bool (b : Bool)
  | number (n : Number)
  | string (s : String)
  | array (items : List Value)
  | object (members : List (String × Value))
  deriving Repr, Inhabited

namespace Value

/-- The value of the last member of an object with a given name. -/
def member? (v : Value) (name : String) : Option Value :=
  match v with
  | .object members => (members.reverse.find? (fun m => m.1 == name)).map (·.2)
  | _ => none

/-- The text of a string value. -/
def text? : Value → Option String
  | .string s => some s
  | _ => none

/-- The items of an array. -/
def items? : Value → Option (List Value)
  | .array items => some items
  | _ => none

/-- A whole number. -/
def int? : Value → Option Int
  | .number (.natural n) => some n.toNat
  | .number (.negative n) => some (-n)
  | _ => none

/-- A whole number that is not negative, as a value. -/
def ofNat (n : Nat) : Value := .number (.natural (UInt64.ofNat n))

/-- A whole number as a value. -/
def ofInt : Int → Value
  | .ofNat n => ofNat n
  | .negSucc n => .number (.negative (n + 1))

end Value

end WorkloadAuth.Json
