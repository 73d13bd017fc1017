import WorkloadAuth.Failure
import WorkloadAuth.Yaml.Decode

/-!
# Configuration files

A configuration is kept in a file as YAML.

* `StoredFile`: what is found where a file is looked for.
* `Configuration.load`: the configuration in a file.
-/

namespace WorkloadAuth

/-- What is found where a file is looked for. -/
inductive StoredFile where
  | missing
  /-- Something that is no file that can be read, with the words of the system for it. -/
  | unreadable (words : String)
  | content (octets : List UInt8)
  deriving DecidableEq, Repr

/-- The text of some octets. -/
def StoredFile.textOf (octets : List UInt8) : Except Cause String :=
  match Text.Utf8.decode? octets with
  | some cs => .ok (String.ofList cs)
  | none => .error (.foreign .files "stream did not contain valid UTF-8")

/-- The configuration in a text, by the words for texts that are no YAML of a configuration. -/
def Configuration.ofText (yaml : String → String) (text : String) : Except Cause Configuration :=
  match Configuration.shape.ofYaml text with
  | some c => .ok c
  | none => .error (.foreign .yaml (yaml text))

/-- The configuration in the file at a path (`load`). Its certificates are not looked at. The words
for texts that are no YAML of a configuration are given. -/
def Configuration.load (yaml : String → String) (path : String) :
    StoredFile → Except Failure Configuration
  | .missing => .error (.of (.fileNotFound path))
  | .unreadable words =>
    .error ((Failure.of (.foreign .files words)).within (.fileUnreadable path))
  | .content octets => do
    let text ← (StoredFile.textOf octets).mapError fun cause =>
      (Failure.of cause).within (.fileUnreadable path)
    (Configuration.ofText yaml text).mapError fun cause =>
      (Failure.of cause).within (.fileUndecodable path)

end WorkloadAuth
