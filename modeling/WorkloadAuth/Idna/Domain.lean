import WorkloadAuth.Idna.Direction
import WorkloadAuth.Idna.Joining
import WorkloadAuth.Idna.Punycode
import WorkloadAuth.Text.Normal

/-!
# Domain names

Domain names may be written in all scripts, but are asked for in ASCII. Characters are mapped to
those that they stand for, and labels that are still not ASCII are encoded. What is encoded already
has to be what this would have led to.

* `Label`: a label as it is read and as it is asked for.
* `Label.ofMapped?`: the label of a mapped text.
* `Domain.labels?`: the labels of a name.
* `Domain.toAscii?`: the name that is asked for.
-/

namespace WorkloadAuth.Idna

open Text

/-- A label of a domain name. -/
structure Label where
  /-- As it is read. -/
  text : List Char
  /-- As it is asked for. -/
  ascii : List Char
  deriving DecidableEq, Repr

/-- Whether a text is of ASCII characters only. -/
def isAscii (cs : List Char) : Bool := cs.all fun c => c.toNat < 0x80

namespace Label

/-- What stands in front of an encoded label. -/
def encodedStart : List Char := "xn--".toList

/-- The most characters of a label that is not ASCII. -/
def maxText : Nat := 1000

/-- The most characters of an encoded label behind its start. -/
def maxEncoded : Nat := 2000

/-- Whether a label may be read like this: it does not start with a mark on the character before it,
its joiners may stand where they are, and it is not too long. -/
def isReadable (text : List Char) : Bool :=
  !(text.head?.any isMark) && joinersFit [] text && (isAscii text || text.length ≤ maxText)

/-- The label of an encoded text. It consists of characters that stand for themselves, and has its
canonical form. -/
def ofEncoded? (ascii : List Char) : Option Label := do
  let digits := ascii.drop encodedStart.length
  if isAscii digits && digits.getLast?.any (· != '-') && digits.length ≤ maxEncoded then
    let text ← Punycode.decode? digits
    if text.all isValid && normalized text == text && isReadable text then some ⟨text, ascii⟩
    else none
  else none

/-- The label of a text of mapped characters. -/
def ofMapped? (text : List Char) : Option Label :=
  if encodedStart.isPrefixOf text then ofEncoded? text
  else if isReadable text then
    some ⟨text, if isAscii text then text else encodedStart ++ Punycode.encode text⟩
  else none

end Label

namespace Domain

/-- The labels of a name. If one of them runs from right to left, all of them keep their
direction. -/
def labels? (name : List Char) : Option (List Label) := do
  let mapped ← name.mapM map?
  let labels ← ((normalized mapped.flatten).splitOnP (· == '.')).mapM Label.ofMapped?
  if labels.any (fun l => runsLeft l.text) && !labels.all (fun l => keepsDirection l.text) then none
  else some labels

/-- The name that is asked for. -/
def toAscii? (name : List Char) : Option (List Char) :=
  (labels? name).map fun labels => ['.'].intercalate (labels.map (·.ascii))

end Domain

end WorkloadAuth.Idna
