import WorkloadAuth.Text.Infix

/-!
# Log records

* `Log.Level`: how severe a record is.
* `Log.Context`: the pairs that every record of an activity carries, the latest first.
* `Log.Record`, `Log.Record.line`: a record, and its line of text.
* `Log.Context.record`: a record with the pairs of a context.
* `Log.contains`: whether some records tell of something.
-/

namespace WorkloadAuth.Log

/-- How severe a record is. -/
inductive Level where
  | error
  | warning
  | info
  | debug
  deriving DecidableEq, Repr

/-- The name of a level. -/
def Level.name : Level → String
  | .error => "ERROR"
  | .warning => "WARNING"
  | .info => "INFO"
  | .debug => "DEBUG"

/-- A key and its value. -/
abbrev Pair := String × String

/-- A record: its message, and its pairs in the order in which they are shown. -/
structure Record where
  level : Level
  message : String
  pairs : List Pair
  deriving DecidableEq, Repr

/-- The line of a record: the message, and after it each pair behind a space. -/
def Record.line (r : Record) : String :=
  r.pairs.foldl (fun line (key, value) => s!"{line} {key}={value}") r.message

/-- The pairs that all records of an activity carry, the latest first. -/
structure Context where
  pairs : List Pair := []
  deriving DecidableEq, Repr

namespace Context

/-- The context without pairs. -/
def root : Context := {}

/-- A context with more pairs. -/
def attach (c : Context) (pairs : List Pair) : Context := ⟨pairs.reverse ++ c.pairs⟩

/-- The keys of a context, as a list in parentheses. -/
def describe (c : Context) : String :=
  "(" ++ String.intercalate ", " (c.pairs.map (·.1)) ++ ")"

/-- A record with entries of its own. What is written last is shown first, but the pairs of one
entry keep their order. -/
def record (c : Context) (level : Level) (message : String) (entries : List (List Pair)) : Record :=
  ⟨level, message, entries.reverse.flatten ++ c.pairs⟩

end Context

/-- Whether some record of a level has all of some fragments in its line. -/
def contains (records : List Record) (level : Level) (fragments : List String) : Bool :=
  records.any fun r =>
    r.level == level && fragments.all fun f => Text.occursIn f.toList r.line.toList

end WorkloadAuth.Log
