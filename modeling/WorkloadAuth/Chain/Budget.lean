import WorkloadAuth.Chain.Fault

/-!
# The work budget of a search

Certificates come from callers that nobody trusts yet, so a search for a chain may only do a fixed
amount of work.

* `Budget`: what is left of it.
* `Search`: a step of a search, which may fail and uses up some of the budget either way.
* `spendSignature`, `spendPathCall`, `spendComparison`: what uses it up.
-/

namespace WorkloadAuth.Chain

/-- The work that a search may still do. -/
structure Budget where
  /-- Signatures to check. -/
  signatures : Nat := 100
  /-- Certificates to add to a path. -/
  pathCalls : Nat := 200000
  /-- Names to compare with a constraint. -/
  comparisons : Nat := 250000
  deriving DecidableEq, Repr

/-- A step of a search. -/
abbrev Search (α : Type) := ExceptT Fault (StateM Budget) α

/-- A step that does no work. -/
def ofExcept {α : Type} (a : Except Fault α) : Search α := ExceptT.mk (pure a)

/-- Uses up one signature check. -/
def spendSignature : Search Unit := do
  let b ← get
  match b.signatures with
  | 0 => throw .tooManySignatureChecks
  | n + 1 => set { b with signatures := n }

/-- Uses up one certificate. -/
def spendPathCall : Search Unit := do
  let b ← get
  match b.pathCalls with
  | 0 => throw .tooManyPathCalls
  | n + 1 => set { b with pathCalls := n }

/-- Uses up one comparison. -/
def spendComparison : Search Unit := do
  let b ← get
  match b.comparisons with
  | 0 => throw .tooManyNameComparisons
  | n + 1 => set { b with comparisons := n }

/-- The result of the first alternative that succeeds. If none does, the most specific fault of
`fault` and theirs, where an earlier one wins a tie. A fatal fault ends the search at once. -/
def firstOf {α β : Type} (step : α → Search β) : Fault → List α → Search β
  | fault, [] => throw fault
  | fault, a :: rest => ExceptT.mk do
    match ← (step a).run with
    | .ok b => pure (.ok b)
    | .error e =>
      if e.isFatal then pure (.error e) else (firstOf step (fault.mostSpecific e) rest).run

end WorkloadAuth.Chain
