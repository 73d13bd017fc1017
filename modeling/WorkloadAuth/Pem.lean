import WorkloadAuth.Text.Base64
import WorkloadAuth.Text.Blank
import WorkloadAuth.Text.Infix

/-!
# PEM blocks

Octets inside of text. A block stands between a line that begins with `-----BEGIN ` and one that
begins with `-----END `; its octets are written in base64 on the lines between them. Other lines are
passed over.

* `Pem.Block`, `Pem.Fault`: a block, and why a text has none where one begins.
* `Pem.blocks`: the blocks of a text, up to the first fault.
-/

namespace WorkloadAuth.Pem

/-- A block: its label and its octets. -/
structure Block where
  label : String
  content : List UInt8
  deriving DecidableEq, Repr

/-- Why a block cannot be read. -/
inductive Fault where
  /-- The first line of the block has no dashes behind its label. -/
  | invalidHeader
  /-- The text ends inside of the block. -/
  | incomplete
  /-- The lines of the block are no base64. -/
  | notBase64
  deriving DecidableEq, Repr

/-- The words for a fault. -/
def Fault.message : Fault → String
  | .invalidHeader => "invalid header"
  | .incomplete => "incomplete PEM"
  | .notBase64 => "base64 decode error"

/-- How the first line of a block begins. -/
def opening : List Char := "-----BEGIN ".toList

/-- How the last line of a block begins. -/
def closing : List Char := "-----END ".toList

/-- Five dashes. -/
def dashes : List Char := "-----".toList

/-- The lines of a text. -/
def lines (text : String) : List (List Char) := text.toList.splitOnP (· == '\n')

/-- The label in the first line of a block: what stands between its opening and the next dash.
Five dashes have to follow somewhere. -/
def label? (line : List Char) : Option String :=
  let rest := line.drop opening.length
  if Text.occursIn dashes rest then some (String.ofList (rest.takeWhile (· != '-'))) else none

/-- The blocks of some lines, up to the first fault. Inside of a block, its label and the text of
its lines so far are known. -/
def scan : Option (String × List Char) → List (List Char) → List (Except Fault Block)
  | none, [] => []
  | some _, [] => [.error .incomplete]
  | none, line :: rest =>
    if opening.isPrefixOf line then
      match label? line with
      | some label => scan (some (label, [])) rest
      | none => [.error .invalidHeader]
    else scan none rest
  | some (label, body), line :: rest =>
    if closing.isPrefixOf line then
      match Text.Base64.decode? body with
      | some content => .ok ⟨label, content⟩ :: scan none rest
      | none => [.error .notBase64]
    else scan (some (label, body ++ Text.trimEnd line)) rest

/-- The blocks of a text, up to the first fault. -/
def blocks (text : String) : List (Except Fault Block) := scan none (lines text)

end WorkloadAuth.Pem
