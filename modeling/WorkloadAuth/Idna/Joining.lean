import WorkloadAuth.Idna.Mapping
import WorkloadAuth.Text.CombiningClass

/-!
# Joiners

Two characters without a shape tell whether their neighbours are joined. A domain name may have them
only where that can be seen: after a mark that drops a vowel, or, for the one that keeps apart,
between two letters of a script whose letters are joined.

* `Joining`: on which sides a letter is joined to others.
* `joining?`: how a letter is joined.
* `joinersFit`: whether all joiners of a label may stand where they are.
-/

namespace WorkloadAuth.Idna

open Text

/-- On which sides a letter is joined to others. -/
inductive Joining where
  /-- To the next letter. -/
  | before
  /-- To the letter before it. -/
  | after
  | dual
  deriving DecidableEq, Repr

/-- How letters are joined, by inclusive ranges in ascending order. Code points that no domain name
has may be among them. -/
def joinings : Array (Nat × Nat × Joining) := #[
  (0x620, 0x620, .dual), (0x622, 0x625, .after), (0x626, 0x626, .dual), (0x627, 0x627, .after),
  (0x628, 0x628, .dual), (0x629, 0x629, .after), (0x62a, 0x62e, .dual), (0x62f, 0x632, .after),
  (0x633, 0x63f, .dual), (0x641, 0x647, .dual), (0x648, 0x648, .after), (0x649, 0x64a, .dual),
  (0x66e, 0x66f, .dual), (0x671, 0x673, .after), (0x679, 0x687, .dual), (0x688, 0x699, .after),
  (0x69a, 0x6bf, .dual), (0x6c0, 0x6c0, .after), (0x6c1, 0x6c2, .dual), (0x6c3, 0x6cb, .after),
  (0x6cc, 0x6cc, .dual), (0x6cd, 0x6cd, .after), (0x6ce, 0x6ce, .dual), (0x6cf, 0x6cf, .after),
  (0x6d0, 0x6d1, .dual), (0x6d2, 0x6d3, .after), (0x6d5, 0x6d5, .after), (0x6ee, 0x6ef, .after),
  (0x6fa, 0x6fc, .dual), (0x6ff, 0x6ff, .dual), (0x710, 0x710, .after), (0x712, 0x714, .dual),
  (0x715, 0x719, .after), (0x71a, 0x71d, .dual), (0x71e, 0x71e, .after), (0x71f, 0x727, .dual),
  (0x728, 0x728, .after), (0x729, 0x729, .dual), (0x72a, 0x72a, .after), (0x72b, 0x72b, .dual),
  (0x72c, 0x72c, .after), (0x72d, 0x72e, .dual), (0x72f, 0x72f, .after), (0x74d, 0x74d, .after),
  (0x74e, 0x758, .dual), (0x759, 0x75b, .after), (0x75c, 0x76a, .dual), (0x76b, 0x76c, .after),
  (0x76d, 0x770, .dual), (0x771, 0x771, .after), (0x772, 0x772, .dual), (0x773, 0x774, .after),
  (0x775, 0x777, .dual), (0x778, 0x779, .after), (0x77a, 0x77f, .dual), (0x7ca, 0x7ea, .dual),
  (0x840, 0x840, .after), (0x841, 0x845, .dual), (0x846, 0x847, .after), (0x848, 0x848, .dual),
  (0x849, 0x849, .after), (0x84a, 0x853, .dual), (0x854, 0x854, .after), (0x855, 0x855, .dual),
  (0x856, 0x858, .after), (0x860, 0x860, .dual), (0x862, 0x865, .dual), (0x867, 0x867, .after),
  (0x868, 0x868, .dual), (0x869, 0x882, .after), (0x886, 0x886, .dual), (0x889, 0x88d, .dual),
  (0x88e, 0x88e, .after), (0x88f, 0x88f, .dual), (0x8a0, 0x8a9, .dual), (0x8aa, 0x8ac, .after),
  (0x8ae, 0x8ae, .after), (0x8af, 0x8b0, .dual), (0x8b1, 0x8b2, .after), (0x8b3, 0x8b8, .dual),
  (0x8b9, 0x8b9, .after), (0x8ba, 0x8c8, .dual), (0x1807, 0x1807, .dual), (0x1820, 0x1878, .dual),
  (0x1887, 0x18a8, .dual), (0x18aa, 0x18aa, .dual), (0xa840, 0xa871, .dual),
  (0xa872, 0xa872, .before), (0x10ac0, 0x10ac4, .dual), (0x10ac5, 0x10ac5, .after),
  (0x10ac7, 0x10ac7, .after), (0x10ac9, 0x10aca, .after), (0x10acd, 0x10acd, .before),
  (0x10ace, 0x10ad2, .after), (0x10ad3, 0x10ad6, .dual), (0x10ad7, 0x10ad7, .before),
  (0x10ad8, 0x10adc, .dual), (0x10add, 0x10add, .after), (0x10ade, 0x10ae0, .dual),
  (0x10ae1, 0x10ae1, .after), (0x10ae4, 0x10ae4, .after), (0x10aeb, 0x10aee, .dual),
  (0x10aef, 0x10aef, .after), (0x10b80, 0x10b80, .dual), (0x10b81, 0x10b81, .after),
  (0x10b82, 0x10b82, .dual), (0x10b83, 0x10b85, .after), (0x10b86, 0x10b88, .dual),
  (0x10b89, 0x10b89, .after), (0x10b8a, 0x10b8b, .dual), (0x10b8c, 0x10b8c, .after),
  (0x10b8d, 0x10b8d, .dual), (0x10b8e, 0x10b8f, .after), (0x10b90, 0x10b90, .dual),
  (0x10b91, 0x10b91, .after), (0x10ba9, 0x10bac, .after), (0x10bad, 0x10bae, .dual),
  (0x10d00, 0x10d00, .before), (0x10d01, 0x10d21, .dual), (0x10d22, 0x10d22, .after),
  (0x10d23, 0x10d23, .dual), (0x10ec2, 0x10ec2, .after), (0x10ec3, 0x10ec4, .dual),
  (0x10ec6, 0x10ec7, .dual), (0x10f30, 0x10f32, .dual), (0x10f33, 0x10f33, .after),
  (0x10f34, 0x10f44, .dual), (0x10f51, 0x10f53, .dual), (0x10f54, 0x10f54, .after),
  (0x10f70, 0x10f73, .dual), (0x10f74, 0x10f75, .after), (0x10f76, 0x10f81, .dual),
  (0x10fb0, 0x10fb0, .dual), (0x10fb2, 0x10fb3, .dual), (0x10fb4, 0x10fb6, .after),
  (0x10fb8, 0x10fb8, .dual), (0x10fb9, 0x10fba, .after), (0x10fbb, 0x10fbc, .dual),
  (0x10fbd, 0x10fbd, .after), (0x10fbe, 0x10fbf, .dual), (0x10fc1, 0x10fc1, .dual),
  (0x10fc2, 0x10fc3, .after), (0x10fc4, 0x10fc4, .dual), (0x10fc9, 0x10fc9, .after),
  (0x10fca, 0x10fca, .dual), (0x10fcb, 0x10fcb, .before), (0x1e922, 0x1e943, .dual)]

/-- How a letter is joined, if it is. -/
def joining? (c : Char) : Option Joining :=
  if c.toNat < 0x600 then none else rangeValue? joinings c.toNat

/-- The mark of a script that is not among the marks without room, though letters are joined across
it. -/
def nasalization : Char := Char.ofNat 0x1e94b

/-- Whether letters are joined across a character. -/
def isTransparent (c : Char) : Bool := isNonspacingMark c || c == nasalization

/-- Whether the first letter that is not passed over is joined on one of some sides. -/
def joins (sides : List Joining) (cs : List Char) : Bool :=
  match (cs.dropWhile isTransparent).head?.bind joining? with
  | some side => sides.contains side
  | none => false

/-- Whether a joiner may stand between what is before it, the last character first, and what follows
it. -/
def joinerFits (before : List Char) (c : Char) (after : List Char) : Bool :=
  match before with
  | [] => false
  | last :: _ =>
    isVirama last ||
      (c == nonJoiner && joins [.before, .dual] before && joins [.after, .dual] after)

/-- Whether all joiners of a label may stand where they are; what is before it is read backwards. -/
def joinersFit (before : List Char) : (label : List Char) → Bool
  | [] => true
  | c :: rest =>
    (!(c == joiner || c == nonJoiner) || joinerFits before c rest) && joinersFit (c :: before) rest

end WorkloadAuth.Idna
