/-!
# Hexadecimal digits

* `hexDigit`, `hexDigitUpper`: the digit of a value below sixteen, in lower or upper case.
* `hexValue?`: the value of a digit of either case.
* `hexOfNat`: a number in lower case without leading zeros.
* `hexOfBytes`, `hexUpperOfBytes`: two digits for each byte.
-/

namespace WorkloadAuth.Text

/-- The lower case hexadecimal digit of a value below sixteen. -/
def hexDigit (n : Nat) : Char :=
  if n < 10 then Char.ofNat (0x30 + n) else Char.ofNat (0x57 + n)

/-- The upper case hexadecimal digit of a value below sixteen. -/
def hexDigitUpper (n : Nat) : Char :=
  if n < 10 then Char.ofNat (0x30 + n) else Char.ofNat (0x37 + n)

/-- The value of a hexadecimal digit of either case. -/
def hexValue? (c : Char) : Option Nat :=
  let n := c.toNat
  if 0x30 ≤ n ∧ n ≤ 0x39 then some (n - 0x30)
  else if 0x41 ≤ n ∧ n ≤ 0x46 then some (n - 0x37)
  else if 0x61 ≤ n ∧ n ≤ 0x66 then some (n - 0x57)
  else none

/-- The value of a decimal digit. -/
def digitValue? (c : Char) : Option Nat :=
  let n := c.toNat
  if 0x30 ≤ n ∧ n ≤ 0x39 then some (n - 0x30) else none

/-- The value of a run of decimal digits, most significant first. -/
def decimalValue (digits : List Char) : Nat :=
  digits.foldl (fun n c => n * 10 + (c.toNat - 0x30)) 0

/-- Whether a character is one of the ten ASCII digits. -/
def isDigit (c : Char) : Bool := 0x30 ≤ c.toNat && c.toNat ≤ 0x39

/-- The decimal digits of a number, without leading zeros. -/
def decimal (n : Nat) : List Char := Nat.toDigits 10 n

/-- The decimal digits of a number, with zeros in front up to a given width. -/
def decimalPadded (width n : Nat) : List Char :=
  let digits := decimal n
  List.replicate (width - digits.length) '0' ++ digits

/-- A number in lower case hexadecimal, without leading zeros. -/
def hexOfNat (n : Nat) : List Char := Nat.toDigits 16 n

/-- Two lower case hexadecimal digits for each byte. -/
def hexOfBytes (bytes : List UInt8) : List Char :=
  bytes.flatMap fun b => [hexDigit (b.toNat / 16), hexDigit (b.toNat % 16)]

/-- Two upper case hexadecimal digits for each byte. -/
def hexUpperOfBytes (bytes : List UInt8) : List Char :=
  bytes.flatMap fun b => [hexDigitUpper (b.toNat / 16), hexDigitUpper (b.toNat % 16)]

end WorkloadAuth.Text
