/-!
# Ranges of code points

Properties of characters are given as tables of inclusive ranges.

* `inRanges`: whether a code point lies in one of some ranges.
* `rangeValue?`: what a table says of the range that a code point lies in.
-/

namespace WorkloadAuth.Text

/-- Whether a code point lies in one of the inclusive ranges. -/
def inRanges (ranges : Array (Nat × Nat)) (n : Nat) : Bool :=
  ranges.any (fun r => r.1 ≤ n && n ≤ r.2)

/-- What is said of the first of the inclusive ranges in which a code point lies. -/
def rangeValue? {α : Type} (ranges : Array (Nat × Nat × α)) (n : Nat) : Option α :=
  (ranges.find? (fun r => r.1 ≤ n && n ≤ r.2.1)).map (·.2.2)

end WorkloadAuth.Text
