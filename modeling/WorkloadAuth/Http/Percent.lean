import WorkloadAuth.Text.Hex
import WorkloadAuth.Text.Utf8

/-!
# Percent-encoding

Characters that may not stand somewhere in a URL are written byte by byte, each as a percent sign
and two upper case hexadecimal digits.

* `escape`: the text in which the characters of a set are written so.
* `controls`, `fragment`, `query`, `specialQuery`, `path`, `userinfo`: the sets of the parts of a
  URL.
* `decode`: the bytes of a text; a percent sign without two digits stands for itself.
-/

namespace WorkloadAuth.Http.Percent

/-- One byte. -/
def escapeByte (b : UInt8) : List Char :=
  ['%', Text.hexDigitUpper (b.toNat / 16), Text.hexDigitUpper (b.toNat % 16)]

/-- The text in which the characters of a set are written byte by byte. -/
def escape (set : Char → Bool) (cs : List Char) : List Char :=
  cs.flatMap fun c => if set c then (Text.Utf8.encodeChar c).flatMap escapeByte else [c]

/-! ## Sets -/

/-- The characters outside of printable ASCII. -/
def controls (c : Char) : Bool := c.toNat < 0x20 || 0x7e < c.toNat

/-- The characters that are escaped in a fragment. -/
def fragment (c : Char) : Bool := controls c || [' ', '"', '<', '>', '\x60'].contains c

/-- The characters that are escaped in a query. -/
def query (c : Char) : Bool := controls c || [' ', '"', '#', '<', '>'].contains c

/-- The characters that are escaped in the query of a special URL. -/
def specialQuery (c : Char) : Bool := query c || c = '\''

/-- The characters that are escaped in a segment of a path. -/
def path (c : Char) : Bool := fragment c || ['#', '?', '\x7b', '\x7d'].contains c

/-- The characters that are escaped in a user name or a password. -/
def userinfo (c : Char) : Bool :=
  path c || ['/', ':', ';', '=', '@', '[', '\\', ']', '^', '|'].contains c

/-! ## Decoding -/

/-- The bytes of a text. -/
def decode : List Char → List UInt8
  | '%' :: a :: b :: rest =>
    match Text.hexValue? a, Text.hexValue? b with
    | some x, some y => UInt8.ofNat (x * 16 + y) :: decode rest
    | _, _ => 0x25 :: decode (a :: b :: rest)
  | c :: rest => Text.Utf8.encodeChar c ++ decode rest
  | [] => []

end WorkloadAuth.Http.Percent
