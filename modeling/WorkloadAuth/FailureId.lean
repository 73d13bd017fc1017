import WorkloadAuth.Text.Hex

/-!
# Failure identifiers

A workload whose login is refused learns nothing but a random identifier, under which the log tells
the reason.

* `FailureId`: an identifier of 128 bits, of which six tell that the others are random.
* `FailureId.ofRandom`: the identifier of random bits.
* `FailureId.render`: its text.
* `FailureId.notice`: what a refused workload is told.
-/

namespace WorkloadAuth

/-- An identifier. -/
structure FailureId where
  bits : BitVec 128
  deriving DecidableEq, Repr

namespace FailureId

/-- The identifier of random bits, of which four give way to the version and two to the variant. -/
def ofRandom (r : BitVec 128) : FailureId :=
  ⟨r.extractLsb' 80 48 ++ 4#4 ++ r.extractLsb' 64 12 ++ 2#2 ++ r.extractLsb' 0 62⟩

/-- The hexadecimal digits, the highest first. -/
def digits (id : FailureId) : List Char :=
  (List.range 32).map fun i => Text.hexDigit (id.bits.extractLsb' (124 - 4 * i) 4).toNat

/-- The digits in five groups. -/
def groups (id : FailureId) : List (List Char) :=
  let ds := id.digits
  [ds.take 8, (ds.drop 8).take 4, (ds.drop 12).take 4, (ds.drop 16).take 4, ds.drop 20]

/-- The groups of digits with dashes between them. -/
def render (id : FailureId) : String := String.ofList (['-'].intercalate id.groups)

/-- What a refused workload is told. -/
def notice (id : FailureId) : String := s!"authentication failed, failure ID {id.render}"

end FailureId

end WorkloadAuth
