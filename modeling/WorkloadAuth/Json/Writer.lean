import WorkloadAuth.Json.Value
import WorkloadAuth.Text.Hex

/-!
# Writing JSON text

Compact text: no blanks, and no escapes but those that JSON asks for.

* `writeString`: a string; control characters have their short escape or four digits.
* `writeNumber`, `write`: numbers and values.
-/

namespace WorkloadAuth.Json

/-- One character of a string. -/
def writeChar (c : Char) : List Char :=
  if c = '"' then ['\\', '"']
  else if c = '\\' then ['\\', '\\']
  else if c = '\x08' then ['\\', 'b']
  else if c = '\x0c' then ['\\', 'f']
  else if c = '\n' then ['\\', 'n']
  else if c = '\r' then ['\\', 'r']
  else if c = '\t' then ['\\', 't']
  else if c.toNat < 0x20 then
    ['\\', 'u', '0', '0', Text.hexDigit (c.toNat / 16), Text.hexDigit (c.toNat % 16)]
  else [c]

/-- A string between its quotes. -/
def writeString (s : String) : List Char := '"' :: s.toList.flatMap writeChar ++ ['"']

/-- A number. -/
def writeNumber : Number → List Char
  | .natural n => Text.decimal n.toNat
  | .negative n => '-' :: Text.decimal n
  | .real text => text.toList

/-- Texts with commas between them. -/
def commaSeparated (parts : List (List Char)) : List Char := [','].intercalate parts

/-- A value. -/
def write : Value → List Char
  | .null => "null".toList
  | .bool true => "true".toList
  | .bool false => "false".toList
  | .number n => writeNumber n
  | .string s => writeString s
  | .array items => '[' :: commaSeparated (items.map write) ++ [']']
  | .object members =>
    '\x7b' :: commaSeparated (members.attach.map fun ⟨m, _⟩ =>
      writeString m.1 ++ ':' :: write m.2) ++ ['\x7d']
termination_by v => sizeOf v
decreasing_by
  all_goals simp_wf
  · have := List.sizeOf_lt_of_mem ‹_ ∈ items›
    omega
  · rename_i h
    have h₁ := List.sizeOf_lt_of_mem h
    obtain ⟨name, v⟩ := m
    simp only [Prod.mk.sizeOf_spec] at h₁
    simp only
    omega

/-- The compact text of a value. -/
def Value.render (v : Value) : String := String.ofList (write v)

end WorkloadAuth.Json
