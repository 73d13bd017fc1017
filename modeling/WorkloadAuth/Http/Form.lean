import WorkloadAuth.Http.Percent

/-!
# Forms

Names with values, written as the body of a request.

* `Form.encode`: the text of a form.
-/

namespace WorkloadAuth.Http.Form

/-- The characters that stand for themselves. -/
def isPlain (c : Char) : Bool := c.isAlphanum || ['*', '-', '.', '_'].contains c

/-- A name or a value: a space is written as a plus sign, and all that is not plain is escaped. -/
def escape (s : String) : List Char :=
  s.toList.flatMap fun c =>
    if c = ' ' then ['+'] else Percent.escape (fun c => !isPlain c) [c]

/-- The text of a form. -/
def encode (fields : List (String × String)) : String :=
  String.ofList
    (['&'].intercalate (fields.map fun (name, value) => escape name ++ '=' :: escape value))

end WorkloadAuth.Http.Form
