import WorkloadAuth.Text.Printable
import WorkloadAuth.Text.Hex

/-!
# Quoted texts

How texts and lists of texts are shown inside an error message: between double quotes, with a
backslash in front of the quote and the backslash, short escapes for tab, line feed, carriage
return and the zero character, and the code point of every other character that has no shape of
its own or attaches to the character before it.

* `quoted`: one text.
* `quotedList`: a list of texts, between brackets and separated by a comma and a space.
-/

namespace WorkloadAuth.Text

/-- One character of a quoted text. -/
def quotedChar (c : Char) : List Char :=
  if c = '\x00' then ['\\', '0']
  else if c = '\t' then ['\\', 't']
  else if c = '\r' then ['\\', 'r']
  else if c = '\n' then ['\\', 'n']
  else if c = '\\' ∨ c = '"' then ['\\', c]
  else if isPrintable c && !isExtender c then [c]
  else ['\\', 'u', '\x7b'] ++ hexOfNat c.toNat ++ ['\x7d']

/-- A text between double quotes. -/
def quoted (s : String) : String :=
  String.ofList ('"' :: s.toList.flatMap quotedChar ++ ['"'])

/-- A list of quoted texts between brackets. -/
def quotedList (texts : List String) : String :=
  "[" ++ String.intercalate ", " (texts.map quoted) ++ "]"

end WorkloadAuth.Text
